import Preflight.Content.Token

/-!
# Operators of a content stream

The operators are read one at a time: operands up to the next keyword, or an inline image as one
operator. Reading stops at the first fault. Bytes that begin no token are passed over between the
tokens of an operator, except a closing bracket.
-/

namespace Preflight

/-! ## Inline images -/

/-- The keys and values of an inline image after `BI`, up to the word `ID` and the one blank that
separates it from the data. -/
def readImageEntries (input : Bytes) : Reading (List Operand) input :=
  match skipped : skipBlanks input with
  | [] => fail .openImage []
  | b :: rest =>
    have shorter := length_lt_of_skipBlanks skipped
    if b == 0x49 && rest.head? == some 0x44 && (rest.drop 1).head?.all isBlank then
      .ok ⟨[], rest.drop 2, Nat.lt_of_le_of_lt (List.drop_sublist 2 rest).length_le shorter⟩
    else if b == 0x2F then
      match afterKey : skipBlanks (readName rest).2 with
      | [] => fail .openImageValue []
      | c :: after =>
        match readValue (c :: after) with
        | .error stop => .error stop
        | .ok first =>
          have remaining := Nat.lt_of_lt_of_le first.rest_lt
            (Nat.le_trans (length_lt_of_skipBlanks afterKey)
              (Nat.le_trans (length_readName_le rest) (Nat.le_of_lt shorter)))
          (readImageEntries first.rest).map fun parsed =>
            (parsed.map fun entries => .name (readName rest).1 :: first.value :: entries).widen
              (Nat.le_of_lt remaining)
    else fail .imageKey (b :: rest)
termination_by input.length
decreasing_by exact remaining

/-- The sample data up to the word `EI`, which stands after a blank, or at the very front, and
before a blank, a delimiter or the end; and what follows it. `afterBlank` tells whether the front is
a place for the word. -/
def splitImageData (afterBlank : Bool) : Bytes → Option (Bytes × Bytes)
  | [] => none
  | b :: rest =>
    if afterBlank && b == 0x45 && rest.head? == some 0x49
        && (rest.drop 1).head?.all (fun c => isBlank c || isDelimiter c) then
      some ([], rest.drop 1)
    else (splitImageData (isBlank b) rest).map fun (bytes, after) => (b :: bytes, after)

theorem length_splitImageData_lt {afterBlank : Bool} {input bytes after : Bytes}
    (h : splitImageData afterBlank input = some (bytes, after)) : after.length < input.length := by
  induction input generalizing afterBlank bytes after with
  | nil => exact nomatch h
  | cons b rest ih =>
    rw [splitImageData] at h
    split at h
    · cases h
      exact Nat.lt_succ_of_le (List.drop_sublist 1 rest).length_le
    · obtain ⟨⟨_, _⟩, split, equal⟩ := Option.map_eq_some_iff.1 h
      cases equal
      exact Nat.lt_succ_of_lt (ih split)

/-- The inline image after `BI`. The blank before `EI` does not belong to the data. -/
def readImage (input : Bytes) : Reading Operator input :=
  match readImageEntries input with
  | .error stop => .error stop
  | .ok entries =>
    match h : splitImageData true entries.rest with
    | none => fail .openImageData entries.rest
    | some (bytes, after) =>
      .ok ⟨⟨"BI", [.array entries.value, .literal bytes.dropLast]⟩, after,
        Nat.lt_trans (length_splitImageData_lt h) entries.rest_lt⟩

/-! ## Operators -/

/-- The operator at the front, after `count` operands that were read already; none if only blanks
are left. -/
def readOperator (count : Nat) (input : Bytes) : Except Stop (Option (Parsed Operator input)) :=
  match skipped : skipBlanks input with
  | [] => if count = 0 then .ok none else .error ⟨.operandsAtEnd count, []⟩
  | b :: rest =>
    have shorter := length_lt_of_skipBlanks skipped
    if b == 0x5D then .error ⟨.strayArrayEnd, b :: rest⟩
    else if !isTokenByte b then
      (readOperator count rest).map (·.map (·.widen (Nat.le_of_lt shorter)))
    else
      match readToken maxNesting (b :: rest) with
      | .error stop => .error stop
      | .ok ⟨.operand value, after, tokenRead⟩ =>
        have remaining := Nat.lt_of_lt_of_le tokenRead shorter
        (readOperator (count + 1) after).map (·.map fun parsed =>
          (parsed.map fun operator => ⟨operator.name, value :: operator.operands⟩).widen
            (Nat.le_of_lt remaining))
      | .ok ⟨.keyword word, after, tokenRead⟩ =>
        have remaining := Nat.lt_of_lt_of_le tokenRead shorter
        if word = "BI" then
          if count = 0 then
            (readImage after).map fun image => some (image.widen (Nat.le_of_lt remaining))
          else .error ⟨.operandsBeforeImage count, after⟩
        else .ok (some ⟨⟨word, []⟩, after, remaining⟩)
termination_by input.length
decreasing_by
  · exact shorter
  · exact remaining

/-- What reading a stream to its end, or to its first fault, gives. -/
structure Transcript where
  /-- The operators before the end or the fault. -/
  operators : List Operator
  /-- The fault, if there is one. -/
  stop : Option Stop

/-- The operators of a stream. -/
def readOperators (input : Bytes) : Transcript :=
  match readOperator 0 input with
  | .error stop => ⟨[], some stop⟩
  | .ok none => ⟨[], none⟩
  | .ok (some first) =>
    have := first.rest_lt
    let following := readOperators first.rest
    ⟨first.value :: following.operators, following.stop⟩
termination_by input.length

/-- The operators of a stream without faults. -/
def tokenize (input : Bytes) : Except Stop (List Operator) :=
  let transcript := readOperators input
  match transcript.stop with
  | some stop => .error stop
  | none => .ok transcript.operators

/-! ## Reading step by step -/

/-- A content stream of which a part has been read. -/
structure OperatorReader where
  /-- The length of the whole stream. -/
  size : Nat
  /-- What has not been read. -/
  rest : Bytes
  /-- Whether a fault was met. -/
  stopped : Bool

namespace OperatorReader

/-- The reader at the start of a stream. -/
def start (input : Bytes) : OperatorReader := ⟨input.length, input, false⟩

/-- The offset of the first byte that has not been read. -/
def position (reader : OperatorReader) : Nat := reader.size - reader.rest.length

/-- The next operator or the fault that stands in its place, and the reader after it. There is
nothing at the end of the stream and after a fault. -/
def next (reader : OperatorReader) : Option (Except ContentFault Operator) × OperatorReader :=
  if reader.stopped then (none, reader)
  else
    match readOperator 0 reader.rest with
    | .error stop => (some (.error stop.fault), { reader with rest := stop.rest, stopped := true })
    | .ok none => (none, { reader with rest := [] })
    | .ok (some parsed) => (some (.ok parsed.value), { reader with rest := parsed.rest })

end OperatorReader

end Preflight

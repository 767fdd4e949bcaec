import Mathlib
import Preflight.Proofs.CountedNesting
import Preflight.Proofs.LocalReading

/-!
# Progress of reading

Each reader ends within its input, at a value or at a fault: what it leaves is the end of what it was
given, and behind a value that is shorter. So a stream is read operator by operator without a step
back or beyond the end, there are at most as many operators as bytes, and after the end, or after a
fault, the reader stays where it is.
-/

namespace Preflight

open Reading

variable {α β : Type} {input inner rest : Bytes}

/-! ## What is left of the input -/

/-- Where a reader ends, at a value or at a fault, the end of its input is left. -/
def EndsWithin (input : Bytes) : Except Stop (α × Bytes) → Prop
  | .ok (_, rest) => rest <:+ input
  | .error stop => stop.rest <:+ input

namespace EndsWithin

variable {outcome : Except Stop (α × Bytes)}

theorem map (h : EndsWithin input outcome) (f : α → β) :
    EndsWithin input (outcome.map (Prod.map f id)) := by
  cases outcome <;> exact h

theorem widen (h : EndsWithin inner outcome) (within : inner <:+ input) :
    EndsWithin input outcome := by
  cases outcome <;> exact h.trans within

/-- A value and what is read behind it. -/
theorem next {first : Except Stop (Operand × Bytes)} {more : Bytes → Except Stop (α × Bytes)}
    (join : Operand → α → β) (here : EndsWithin input first)
    (behind : ∀ value after, first = .ok (value, after) → EndsWithin after (more after)) :
    EndsWithin input (match first with
      | .error stop => .error stop
      | .ok (value, after) => (more after).map (Prod.map (join value) id)) := by
  cases first with
  | error stop => exact here
  | ok found => exact ((behind found.1 found.2 rfl).widen here).map _

end EndsWithin

theorem skipFrom_suffix (inComment : Bool) (input : Bytes) : skipFrom inComment input <:+ input := by
  induction input generalizing inComment with
  | nil => exact List.suffix_rfl
  | cons b rest ih =>
    rw [skipFrom]
    split
    · exact (ih _).trans (List.suffix_cons b rest)
    split
    · exact (ih _).trans (List.suffix_cons b rest)
    split
    · exact (ih _).trans (List.suffix_cons b rest)
    · exact List.suffix_rfl

/-- What stands at and behind the first byte after blanks. -/
theorem suffix_of_skipBlanks {b : UInt8} (h : skipBlanks input = b :: rest) :
    b :: rest <:+ input ∧ rest <:+ input := by
  have front : b :: rest <:+ input := h ▸ skipFrom_suffix false input
  exact ⟨front, (List.suffix_cons b rest).trans front⟩

theorem readName_suffix (input : Bytes) : (readName input).2 <:+ input :=
  List.dropWhile_suffix isRegular

theorem readEscape_suffix (b : UInt8) (rest : Bytes) : (readEscape b rest).2 <:+ rest := by
  unfold readEscape
  repeat' split
  all_goals first | exact List.suffix_rfl | exact List.suffix_cons .. | exact List.drop_suffix ..

theorem readUnsigned_suffix (sign : Option UInt8) (input : Bytes) :
    (Numeral.readUnsigned sign input).2 <:+ input := by
  have whole := List.dropWhile_suffix (l := input) isDigit
  unfold Numeral.readUnsigned
  split
  · exact List.nil_suffix
  · next b rest after =>
    rw [after] at whole
    split
    · exact ((List.dropWhile_suffix isDigit).trans (List.suffix_cons b rest)).trans whole
    · exact whole

theorem numeralRead_suffix (input : Bytes) : (Numeral.read input).2 <:+ input := by
  cases input with
  | nil => exact readUnsigned_suffix none []
  | cons b rest =>
    rw [Numeral.read]
    split
    · exact (readUnsigned_suffix (some b) rest).trans (List.suffix_cons b rest)
    · exact readUnsigned_suffix none (b :: rest)

theorem readLiteral_endsWithin (depth : ℕ) (input : Bytes) :
    EndsWithin input (readLiteral depth input).outcome := by
  induction size : input.length using Nat.strong_induction_on generalizing depth input with
  | _ n ih =>
    subst size
    rw [readLiteral_outcome]
    cases input with
    | nil => exact List.suffix_rfl
    | cons b rest =>
      have behind := List.suffix_cons b rest
      have inner (depth : ℕ) : EndsWithin (b :: rest) (readLiteral depth rest).outcome :=
        (ih rest.length (Nat.lt_succ_self _) depth rest rfl).widen behind
      simp only
      split
      · exact (inner _).map _
      split
      · cases depth with
        | zero => exact behind
        | succ outer => exact (inner outer).map _
      split
      · cases rest with
        | nil => exact List.nil_suffix
        | cons c after =>
          have escape := readEscape_suffix c after
          have shorter := escape.length_le
          refine ((ih _ ?_ depth _ rfl).widen ?_).map _
          · simp only [List.length_cons]
            omega
          · exact (escape.trans (List.suffix_cons c after)).trans behind
      · exact (inner depth).map _

theorem readHexDigits_endsWithin (input : Bytes) : EndsWithin input (readHexDigits input).outcome := by
  induction input with
  | nil => exact List.suffix_rfl
  | cons b rest ih =>
    have behind := List.suffix_cons b rest
    rw [readHexDigits_outcome]
    simp only
    split
    · exact behind
    split
    · exact ih.widen behind
    split
    · exact List.suffix_rfl
    · exact (ih.widen behind).map _

theorem readNumber_endsWithin (b : UInt8) (rest : Bytes) (h : isNumberByte b = true) :
    EndsWithin (b :: rest) (readNumber b rest h).outcome := by
  rw [readNumber_outcome]
  split <;> exact numeralRead_suffix (b :: rest)

section

variable {value : (input : Bytes) → Reading Operand input}
  (values : ∀ input, EndsWithin input (value input).outcome)
include values

theorem readItems_endsWithin (input : Bytes) : EndsWithin input (readItems value input).outcome := by
  induction size : input.length using Nat.strong_induction_on generalizing input with
  | _ n ih =>
    subst size
    rw [readItems_outcome]
    split
    · exact List.nil_suffix
    next b rest skipped =>
    obtain ⟨front, behind⟩ := suffix_of_skipBlanks skipped
    split
    · exact behind
    exact ((values (b :: rest)).widen front).next List.cons fun item after read =>
      ih after.length (length_lt_of_item skipped read) after rfl

theorem readEntries_endsWithin (input : Bytes) :
    EndsWithin input (readEntries value input).outcome := by
  induction size : input.length using Nat.strong_induction_on generalizing input with
  | _ n ih =>
    subst size
    rw [readEntries_outcome]
    split
    · exact List.nil_suffix
    next b rest skipped =>
    obtain ⟨front, behind⟩ := suffix_of_skipBlanks skipped
    split
    · exact (List.drop_suffix 1 rest).trans behind
    split
    · split
      · exact List.nil_suffix
      next c inner afterKey =>
      have key := (suffix_of_skipBlanks afterKey).1.trans ((readName_suffix rest).trans behind)
      exact ((values (c :: inner)).widen key).next
        (fun value others => ((readName rest).1, value) :: others) fun item after read =>
          ih after.length (length_lt_of_entry skipped afterKey read) after rfl
    · exact front

end

theorem readTokenWith_endsWithin {value : Option ((input : Bytes) → Reading Operand input)}
    (values : ∀ reader ∈ value, ∀ input, EndsWithin input (reader input).outcome) (input : Bytes) :
    EndsWithin input (readTokenWith value input).outcome := by
  cases input with
  | nil => exact List.suffix_rfl
  | cons b rest =>
    have behind := List.suffix_cons b rest
    rw [readTokenWith_outcome]
    split
    · exact ((readLiteral_endsWithin 0 rest).widen behind).map _
    split
    · cases value with
      | none => exact List.suffix_rfl
      | some reader =>
        exact ((readEntries_endsWithin (values reader rfl) _).widen
          ((List.drop_suffix 1 rest).trans behind)).map _
    split
    · exact ((readHexDigits_endsWithin rest).widen behind).map _
    split
    · cases value with
      | none => exact List.suffix_rfl
      | some reader => exact ((readItems_endsWithin (values reader rfl) rest).widen behind).map _
    split
    · exact (readName_suffix rest).trans behind
    split
    · exact (readNumber_endsWithin b rest _).map _
    split
    · exact (List.dropWhile_suffix isKeywordRest).trans behind
    · exact List.suffix_rfl

theorem readToken_endsWithin (levels : ℕ) (input : Bytes) :
    EndsWithin input (readToken levels input).outcome := by
  induction levels generalizing input with
  | zero => exact readTokenWith_endsWithin (by simp) input
  | succ level ih =>
    refine readTokenWith_endsWithin (fun reader nested inner => ?_) input
    cases nested
    rw [nestedReader_outcome]
    exact (ih inner).map _

theorem readImageEntries_endsWithin (input : Bytes) :
    EndsWithin input (readImageEntries input).outcome := by
  induction size : input.length using Nat.strong_induction_on generalizing input with
  | _ n ih =>
    subst size
    rw [readImageEntries_outcome]
    split
    · exact List.nil_suffix
    next b rest skipped =>
    obtain ⟨front, behind⟩ := suffix_of_skipBlanks skipped
    split
    · exact (List.drop_suffix 2 rest).trans behind
    split
    · split
      · exact List.nil_suffix
      next c inner afterKey =>
      have key := (suffix_of_skipBlanks afterKey).1.trans ((readName_suffix rest).trans behind)
      have first : EndsWithin input (readValue (c :: inner)).outcome := by
        rw [readValue_outcome]
        exact ((readToken_endsWithin maxNesting (c :: inner)).map _).widen key
      exact first.next (.name (readName rest).1 :: · :: ·) fun item after read =>
        ih after.length (length_lt_of_entry skipped afterKey read) after rfl
    · exact front

theorem splitImageData_suffix {afterBlank : Bool} {bytes after : Bytes}
    (h : splitImageData afterBlank input = some (bytes, after)) : after <:+ input := by
  induction input generalizing afterBlank bytes with
  | nil => cases h
  | cons b rest ih =>
    have behind := List.suffix_cons b rest
    rw [splitImageData] at h
    split at h
    · cases h
      exact (List.drop_suffix 1 rest).trans behind
    · obtain ⟨⟨_, _⟩, split, equal⟩ := Option.map_eq_some_iff.1 h
      cases equal
      exact (ih split).trans behind

theorem readImage_endsWithin (input : Bytes) : EndsWithin input (readImage input).outcome := by
  have entries := readImageEntries_endsWithin input
  rw [readImage_outcome]
  cases read : (readImageEntries input).outcome with
  | error stop => rwa [read] at entries
  | ok found =>
    obtain ⟨items, rest⟩ := found
    rw [read] at entries
    simp only
    split
    · exact entries
    · next found => exact (splitImageData_suffix found).trans entries

/-- What an operator, or the fault in its place, leaves of the input. -/
theorem rest_readOperator_suffix (count : ℕ) (input : Bytes) :
    (Cursor.settleOperator (operatorOutcome (readOperator count input))).2.rest <:+ input := by
  induction size : input.length using Nat.strong_induction_on generalizing count input with
  | _ n ih =>
    subst size
    rw [readOperator_outcome]
    split
    · split <;> exact List.nil_suffix
    next b rest skipped =>
    obtain ⟨front, behind⟩ := suffix_of_skipBlanks skipped
    split
    · exact front
    split
    · exact (ih rest.length (length_lt_of_skipBlanks skipped) count rest rfl).trans behind
    have front := (readToken_endsWithin maxNesting (b :: rest)).widen front
    cases read : (readToken maxNesting (b :: rest)).outcome with
    | error stop => rwa [read] at front
    | ok found =>
      obtain ⟨token, after⟩ := found
      rw [read] at front
      have remaining := length_lt_of_item skipped read
      cases token with
      | operand value =>
        have following := (ih after.length remaining (count + 1) after rfl).trans front
        revert following
        simp only
        rcases operatorOutcome (readOperator (count + 1) after) with stop | _ | found <;> exact id
      | keyword word =>
        simp only
        split
        · split
          · have image := (readImage_endsWithin after).widen front
            revert image
            cases (readImage after).outcome <;> exact id
          · exact front
        · exact front

/-! ## Reading operator by operator -/

namespace Operator

/-- No operand nests deeper than the limit; of an inline image, no key and no value. -/
def IsShallow (operator : Operator) : Prop :=
  if operator.name = "BI" then
    ∃ entries samples, operator.operands = [.array entries, .literal samples] ∧
      ∀ entry ∈ entries, entry.depth ≤ maxNesting
  else ∀ operand ∈ operator.operands, operand.depth ≤ maxNesting

theorem depth_le_of_imageEntries {entries : List Operand} (h : ImageEntries entries) :
    ∀ entry ∈ entries, entry.depth ≤ maxNesting := by
  induction h with
  | nil => exact fun entry member => absurd member List.not_mem_nil
  | cons key shallow following ih =>
    exact List.forall_mem_cons.2 ⟨Nat.zero_le _, List.forall_mem_cons.2 ⟨shallow, ih⟩⟩

theorem IsReadable.isShallow {operator : Operator} (h : operator.IsReadable) :
    operator.IsShallow := by
  unfold IsShallow
  rcases h with plain | ⟨entries, samples, rfl, alternating, -⟩
  · rw [if_neg plain.name_ne]
    exact plain.shallow
  · rw [if_pos rfl]
    exact ⟨entries, samples, rfl, depth_le_of_imageEntries alternating⟩

end Operator

namespace OperatorReader

/-- The reader after so many calls. -/
def after (reader : OperatorReader) (count : ℕ) : OperatorReader :=
  (fun reader => reader.next.2)^[count] reader

theorem after_succ (reader : OperatorReader) (count : ℕ) :
    reader.after (count + 1) = (reader.after count).next.2 :=
  Function.iterate_succ_apply' ..

end OperatorReader

/-- A content stream of which a part has been read, with the count of open arrays and dictionaries. -/
structure CountingReader where
  /-- The length of the whole stream. -/
  size : ℕ
  cursor : Cursor
  /-- Whether a fault was met. -/
  stopped : Bool

namespace CountingReader

/-- The reader at the start of a stream, where nothing is open. -/
def start (input : Bytes) : CountingReader := ⟨input.length, ⟨input, 0⟩, false⟩

/-- The next operator, or the fault that stands in its place, and the reader after it, if the call
returns. -/
def next? (reader : CountingReader) :
    Option (Option (Except ContentFault Operator) × CountingReader) :=
  if reader.stopped then some (none, reader)
  else do
    let (operator, cursor) ← reader.cursor.operator? 0
    match operator with
    | .error fault => return (some (.error fault), { reader with cursor, stopped := true })
    | .ok operator => return (operator.map .ok, { reader with cursor })

/-- What so many calls give, and the reader after them, if all of them return. -/
def calls? : ℕ → CountingReader →
    Option (List (Option (Except ContentFault Operator)) × CountingReader)
  | 0, reader => some ([], reader)
  | count + 1, reader => do
    let (answer, reader) ← reader.next?
    let (answers, last) ← calls? count reader
    return (answer :: answers, last)

end CountingReader

namespace OperatorReader

/-- The same reader with a count, where nothing is open. -/
def counting (reader : OperatorReader) : CountingReader :=
  ⟨reader.size, ⟨reader.rest, 0⟩, reader.stopped⟩

theorem next?_counting (reader : OperatorReader) :
    reader.counting.next? = some (reader.next.1, reader.next.2.counting) := by
  obtain ⟨size, rest, _ | _⟩ := reader
  · rw [next_running, counting, CountingReader.next?, Cursor.operator?_eq]
    rcases operatorOutcome (readOperator 0 rest) with stop | _ | found <;> rfl
  · rfl

theorem calls?_counting (reader : OperatorReader) (count : ℕ) :
    reader.counting.calls? count = some (reader.calls count, (reader.after count).counting) := by
  induction count generalizing reader with
  | zero => rfl
  | succ count ih =>
    rw [CountingReader.calls?, next?_counting]
    simp only [Option.bind_eq_bind, Option.bind_some, ih]
    rfl

/-! ## Positions -/

theorem size_next (reader : OperatorReader) : reader.next.2.size = reader.size := by
  unfold next
  split
  · rfl
  · split <;> rfl

theorem rest_next_suffix (reader : OperatorReader) : reader.next.2.rest <:+ reader.rest := by
  obtain ⟨size, rest, _ | _⟩ := reader
  · have suffix := rest_readOperator_suffix 0 rest
    rw [next_running]
    revert suffix
    rcases operatorOutcome (readOperator 0 rest) with stop | _ | found <;> exact id
  · exact List.suffix_rfl

/-- What is known of a reader that yields an operator. -/
theorem of_next_eq_ok {reader : OperatorReader} {operator : Operator}
    (h : reader.next.1 = some (.ok operator)) :
    reader.next.2.rest.length < reader.rest.length ∧ operator.IsReadable := by
  obtain ⟨size, rest, _ | _⟩ := reader
  · rw [next_running] at h ⊢
    rcases outcome : operatorOutcome (readOperator 0 rest) with stop | _ | ⟨found, after⟩ <;>
      rw [outcome] at h
    · cases h
    · cases h
    · cases h
      exact ⟨length_lt_of_operatorOutcome outcome,
        (isReadable_of_takesOperator (takesOperator_of_outcome outcome)).imp_right And.right⟩
  · cases h

/-- Whether a reader is behind the end or a fault. -/
def IsFinished (reader : OperatorReader) : Prop := reader.stopped = true ∨ reader.rest = []

theorem next_of_isFinished {reader : OperatorReader} (h : reader.IsFinished) :
    reader.next = (none, reader) := by
  obtain ⟨size, rest, _ | _⟩ := reader
  · rcases h with stopped | ended
    · cases stopped
    · change rest = [] at ended
      rw [ended, next_running, readOperator_outcome, skipBlanks_nil]
      rfl
  · rfl

theorem isFinished_next {reader : OperatorReader}
    (h : ∀ operator, reader.next.1 ≠ some (.ok operator)) : reader.next.2.IsFinished := by
  obtain ⟨size, rest, _ | _⟩ := reader
  · rw [next_running] at h ⊢
    revert h
    rcases operatorOutcome (readOperator 0 rest) with stop | _ | ⟨operator, after⟩ <;> intro h
    · exact Or.inl rfl
    · exact Or.inr rfl
    · exact absurd rfl (h operator)
  · exact Or.inl rfl

theorem after_of_isFinished {reader : OperatorReader} (h : reader.IsFinished) (count : ℕ) :
    reader.after count = reader :=
  Function.iterate_fixed (congrArg Prod.snd (next_of_isFinished h)) count

/-- Where a reader stands after some calls: it has the end of the stream before it. -/
theorem rest_after_suffix (reader : OperatorReader) (count : ℕ) :
    (reader.after count).rest <:+ reader.rest ∧ (reader.after count).size = reader.size := by
  induction count with
  | zero => exact ⟨List.suffix_rfl, rfl⟩
  | succ count ih =>
    rw [after_succ, size_next]
    exact ⟨(rest_next_suffix _).trans ih.1, ih.2⟩

/-- Whether a call has given an operator. -/
def isOperator : Option (Except ContentFault Operator) → Bool
  | some (.ok _) => true
  | _ => false

theorem isOperator_iff {answer : Option (Except ContentFault Operator)} :
    isOperator answer = true ↔ ∃ operator, answer = some (.ok operator) := by
  rcases answer with _ | _ | operator <;> simp [isOperator]

/-- Each operator that is yielded takes at least one byte. -/
theorem countP_calls_add_le (reader : OperatorReader) (count : ℕ) :
    (reader.calls count).countP isOperator + (reader.after count).rest.length
      ≤ reader.rest.length := by
  induction count generalizing reader with
  | zero => exact (Nat.zero_add _).le
  | succ count ih =>
    have following := ih reader.next.2
    have next : reader.after (count + 1) = reader.next.2.after count := rfl
    rw [calls, List.countP_cons, next]
    split
    · next yielded =>
      obtain ⟨operator, yielded⟩ := isOperator_iff.1 yielded
      have taken := (of_next_eq_ok yielded).1
      omega
    · have shorter := (rest_next_suffix reader).length_le
      omega

/-- How reading goes on, operator by operator; `reader` gives the reader after so many calls. -/
structure ReadsOn (input : Bytes) (reader : ℕ → OperatorReader) : Prop where
  /-- All calls return, also where nothing but the count of open arrays and dictionaries bounds the
  recursion; between them nothing is open. -/
  returns : ∀ count, (CountingReader.start input).calls? count
    = some ((start input).calls count,
      ⟨input.length, ⟨(reader count).rest, 0⟩, (reader count).stopped⟩)
  /-- The position is that of the bytes that are left. -/
  rest_eq : ∀ count, (reader count).rest = input.drop (reader count).position
  /-- The position stays within the stream. -/
  position_le : ∀ count, (reader count).position ≤ input.length
  /-- The position never decreases. -/
  position_mono : ∀ count, (reader count).position ≤ (reader (count + 1)).position
  /-- An operator takes the position on. -/
  position_lt : ∀ count operator, (reader count).next.1 = some (.ok operator) →
    (reader count).position < (reader (count + 1)).position
  /-- There are at most as many operators as bytes. -/
  countP_le : ∀ count, ((start input).calls count).countP isOperator ≤ input.length
  /-- No operator has operands that nest too deep. -/
  shallow : ∀ count operator, (reader count).next.1 = some (.ok operator) → operator.IsShallow
  /-- After a fault, and after the end, there is nothing more, and the position stays. -/
  finished : ∀ count, (∀ operator, (reader count).next.1 ≠ some (.ok operator)) →
    ∀ later, count < later →
      (reader later).next.1 = none ∧ (reader later).position = (reader (count + 1)).position

/-- Reading a stream operator by operator goes on, and stays within the stream. -/
theorem readsOn (input : Bytes) : ReadsOn input (start input).after := by
  have suffix (count : ℕ) : ((start input).after count).rest <:+ input :=
    (rest_after_suffix (start input) count).1
  have size (count : ℕ) : ((start input).after count).size = input.length :=
    (rest_after_suffix (start input) count).2
  have shorter (count : ℕ) :
      ((start input).after (count + 1)).rest.length ≤ ((start input).after count).rest.length := by
    rw [after_succ]
    exact (rest_next_suffix _).length_le
  refine
    { returns := fun count => ?_
      rest_eq := fun count => ?_
      position_le := fun count => ?_
      position_mono := fun count => ?_
      position_lt := fun count operator yielded => ?_
      countP_le := fun count => ?_
      shallow := fun count operator yielded => (of_next_eq_ok yielded).2.isShallow
      finished := fun count done later past => ?_ }
  · rw [← size count]
    exact calls?_counting (start input) count
  · rw [position, size]
    exact List.suffix_iff_eq_drop.1 (suffix count)
  · rw [position, size]
    exact Nat.sub_le _ _
  · rw [position, position, size, size]
    have := shorter count
    omega
  · have taken := (of_next_eq_ok yielded).1
    have within := (suffix count).length_le
    rw [← after_succ] at taken
    rw [position, position, size, size]
    omega
  · have bound := countP_calls_add_le (start input) count
    exact (Nat.le_add_right _ _).trans bound
  · obtain ⟨more, rfl⟩ := Nat.exists_eq_add_of_lt past
    have ended : ((start input).after (count + 1)).IsFinished := by
      rw [after_succ]
      exact isFinished_next done
    have same : (start input).after (count + more + 1) = (start input).after (count + 1) := by
      have split : count + more + 1 = more + (count + 1) := by omega
      rw [split, after, Function.iterate_add_apply]
      exact after_of_isFinished ended more
    rw [same, next_of_isFinished ended]
    exact ⟨rfl, rfl⟩

end OperatorReader

end Preflight

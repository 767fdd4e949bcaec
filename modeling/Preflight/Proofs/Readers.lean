import Mathlib
import Preflight.Content.Reader
import Preflight.Proofs.NumberText

/-!
# Outcomes of the readers

A reader returns its value together with a proof that something was read. What it did is told by its
outcome alone: the value and the bytes that follow, or the stop. The outcome of each reader is given
here by one equation, in terms of the outcomes of the readers that it calls.
-/

namespace Preflight

variable {α β : Type} {input longer : Bytes}

/-- The value and what follows it, or the stop. -/
def Reading.outcome (reading : Reading α input) : Except Stop (α × Bytes) :=
  reading.map fun parsed => (parsed.value, parsed.rest)

namespace Reading

@[simp] theorem outcome_ok (parsed : Parsed α input) :
    outcome (.ok parsed) = .ok (parsed.value, parsed.rest) := rfl

@[simp] theorem outcome_error (stop : Stop) : outcome (.error stop : Reading α input) = .error stop :=
  rfl

@[simp] theorem outcome_fail (fault : ContentFault) (rest : Bytes) :
    outcome (fail fault rest : Reading α input) = .error ⟨fault, rest⟩ := rfl

@[simp] theorem outcome_map (f : α → β) (reading : Reading α input) :
    outcome (reading.map (·.map f)) = reading.outcome.map (Prod.map f id) := by
  cases reading <;> rfl

@[simp] theorem outcome_widen (h : input.length ≤ longer.length) (reading : Reading α input) :
    outcome (reading.map (·.widen h)) = reading.outcome := by
  cases reading <;> rfl

@[simp] theorem outcome_map_widen (f : α → β) (h : input.length ≤ longer.length)
    (reading : Reading α input) :
    outcome (reading.map fun parsed => (parsed.map f).widen h)
      = reading.outcome.map (Prod.map f id) := by
  cases reading <;> rfl

/-- What follows a value is shorter than the input. -/
theorem length_lt_of_outcome {reading : Reading α input} {value : α} {rest : Bytes}
    (h : reading.outcome = .ok (value, rest)) : rest.length < input.length := by
  cases reading with
  | error stop => cases h
  | ok parsed =>
    cases h
    exact parsed.rest_lt

end Reading

open Reading

/-! ## Blanks and comments -/

theorem eq_of_isBlank {b : UInt8} (h : isBlank b = true) :
    b = 0x20 ∨ b = 0x09 ∨ b = 0x0D ∨ b = 0x0A ∨ b = 0x0C ∨ b = 0x00 := by
  simpa only [isBlank, Bool.or_eq_true, beq_iff_eq, or_assoc] using h

theorem isKeywordRest_of_isBlank (b : UInt8) (h : isBlank b = true) : isKeywordRest b = false := by
  rcases eq_of_isBlank h with rfl | rfl | rfl | rfl | rfl | rfl <;> rfl

theorem skipBlanks_nil : skipBlanks [] = [] := by
  simp [skipBlanks, skipFrom]

theorem skipBlanks_blank {b : UInt8} (h : isBlank b = true) (rest : Bytes) :
    skipBlanks (b :: rest) = skipBlanks rest := by
  simp [skipBlanks, skipFrom, h]

theorem skipBlanks_token {b : UInt8} (blank : isBlank b = false) (comment : b ≠ 0x25)
    (rest : Bytes) : skipBlanks (b :: rest) = b :: rest := by
  simp [skipBlanks, skipFrom, blank, comment]

/-! ## Strings and numbers -/

theorem readLiteral_outcome (depth : ℕ) (input : Bytes) :
    (readLiteral depth input).outcome =
      match input with
      | [] => .error ⟨.openLiteral, []⟩
      | b :: rest =>
        if b = 0x28 then (readLiteral (depth + 1) rest).outcome.map (Prod.map (b :: ·) id)
        else if b = 0x29 then
          match depth with
          | 0 => .ok ([], rest)
          | outer + 1 => (readLiteral outer rest).outcome.map (Prod.map (b :: ·) id)
        else if b = 0x5C then
          match rest with
          | [] => .error ⟨.openEscape, []⟩
          | c :: after =>
            (readLiteral depth (readEscape c after).2).outcome.map
              (Prod.map ((readEscape c after).1 ++ ·) id)
        else (readLiteral depth rest).outcome.map (Prod.map (b :: ·) id) := by
  rw [readLiteral.eq_def]
  cases input with
  | nil => rfl
  | cons b rest =>
    simp only [beq_iff_eq]
    split
    · exact outcome_map_widen ..
    split
    · cases depth with
      | zero => rfl
      | succ outer => exact outcome_map_widen ..
    split
    · cases rest with
      | nil => rfl
      | cons c after => exact outcome_map_widen ..
    · exact outcome_map_widen ..

theorem readHexDigits_outcome (input : Bytes) :
    (readHexDigits input).outcome =
      match input with
      | [] => .error ⟨.openHex, []⟩
      | b :: rest =>
        if b = 0x3E then .ok ([], rest)
        else if isBlank b then (readHexDigits rest).outcome
        else
          match hexValue? b with
          | none => .error ⟨.hexDigit b, b :: rest⟩
          | some digit => (readHexDigits rest).outcome.map (Prod.map (digit :: ·) id) := by
  cases input with
  | nil => rfl
  | cons b rest =>
    rw [readHexDigits]
    simp only [beq_iff_eq]
    split
    · rfl
    split
    · exact outcome_widen ..
    · cases hexValue? b with
      | none => rfl
      | some digit => exact outcome_map_widen ..

/-- The fault of a numeral that denotes no number. -/
def Numeral.fault (n : Numeral) : ContentFault :=
  match n.places with
  | some _ => .realNumber n.text
  | none => .integerNumber n.text

theorem readNumber_outcome (b : UInt8) (rest : Bytes) (h : isNumberByte b = true) :
    (readNumber b rest h).outcome =
      match (Numeral.read (b :: rest)).1.operand? with
      | some value => .ok (value, (Numeral.read (b :: rest)).2)
      | none => .error ⟨(Numeral.read (b :: rest)).1.fault, (Numeral.read (b :: rest)).2⟩ := by
  unfold readNumber Numeral.operand? Numeral.fault
  simp only
  cases (Numeral.read (b :: rest)).1.places with
  | some places =>
    simp only
    cases (Numeral.read (b :: rest)).1.real? places <;> rfl
  | none => cases (Numeral.read (b :: rest)).1.integer? <;> rfl

/-! ## Arrays and dictionaries -/

theorem readItems_outcome (value : (input : Bytes) → Reading Operand input) (input : Bytes) :
    (readItems value input).outcome =
      match skipBlanks input with
      | [] => .error ⟨.openArray, []⟩
      | b :: rest =>
        if b = 0x5D then .ok ([], rest)
        else
          match (value (b :: rest)).outcome with
          | .error stop => .error stop
          | .ok (first, after) => (readItems value after).outcome.map (Prod.map (first :: ·) id) := by
  rw [readItems]
  split
  · next skipped => simp only [skipped, outcome_fail]
  · next b rest skipped =>
    simp only [skipped, beq_iff_eq]
    split
    · rfl
    · cases value (b :: rest) with
      | error stop => rfl
      | ok first => exact outcome_map_widen ..

theorem readEntries_outcome (value : (input : Bytes) → Reading Operand input) (input : Bytes) :
    (readEntries value input).outcome =
      match skipBlanks input with
      | [] => .error ⟨.openDictionary, []⟩
      | b :: rest =>
        if b = 0x3E ∧ rest.head? = some 0x3E then .ok ([], rest.drop 1)
        else if b = 0x2F then
          match skipBlanks (readName rest).2 with
          | [] => .error ⟨.openDictionaryValue, []⟩
          | c :: after =>
            match (value (c :: after)).outcome with
            | .error stop => .error stop
            | .ok (first, following) =>
              (readEntries value following).outcome.map
                (Prod.map (((readName rest).1, first) :: ·) id)
        else .error ⟨.dictionaryKey, b :: rest⟩ := by
  rw [readEntries]
  split
  · next skipped => simp only [skipped, outcome_fail]
  · next b rest skipped =>
    simp only [skipped, Bool.and_eq_true, beq_iff_eq]
    split
    · rfl
    split
    · split
      · next afterKey => simp only [afterKey, outcome_fail]
      · next c after afterKey =>
        simp only [afterKey]
        cases value (c :: after) with
        | error stop => rfl
        | ok first => exact outcome_map_widen ..
    · rfl

/-- An input is longer than what follows the first value in it. -/
theorem length_lt_of_item {value : (input : Bytes) → Reading α input} {input inner after : Bytes}
    {b : UInt8} {first : α} (skipped : skipBlanks input = b :: inner)
    (read : (value (b :: inner)).outcome = .ok (first, after)) : after.length < input.length :=
  (length_lt_of_outcome read).trans_le (length_lt_of_skipBlanks skipped)

/-- An input is longer than what follows the first key in it and the value of that key. -/
theorem length_lt_of_entry {value : (input : Bytes) → Reading α input}
    {input inner after following : Bytes} {b c : UInt8} {first : α}
    (skipped : skipBlanks input = b :: inner) (afterKey : skipBlanks (readName inner).2 = c :: after)
    (read : (value (c :: after)).outcome = .ok (first, following)) :
    following.length < input.length :=
  calc following.length < (readName inner).2.length := length_lt_of_item afterKey read
    _ ≤ inner.length := length_readName_le inner
    _ ≤ input.length := (length_lt_of_skipBlanks skipped).le

/-! ## Tokens -/

theorem readTokenWith_outcome (value : Option ((input : Bytes) → Reading Operand input))
    (b : UInt8) (rest : Bytes) :
    (readTokenWith value (b :: rest)).outcome =
      if b = 0x28 then
        (readLiteral 0 rest).outcome.map (Prod.map (fun bytes => .operand (.literal bytes)) id)
      else if b = 0x3C ∧ rest.head? = some 0x3C then
        match value with
        | none => .error ⟨.nesting, b :: rest⟩
        | some value =>
          (readEntries value (rest.drop 1)).outcome.map
            (Prod.map (fun entries => .operand (.dictionary entries)) id)
      else if b = 0x3C then
        (readHexDigits rest).outcome.map
          (Prod.map (fun digits => .operand (.hex (joinDigits digits))) id)
      else if b = 0x5B then
        match value with
        | none => .error ⟨.nesting, b :: rest⟩
        | some value =>
          (readItems value rest).outcome.map (Prod.map (fun items => .operand (.array items)) id)
      else if b = 0x2F then .ok (.operand (.name (readName rest).1), (readName rest).2)
      else if h : isNumberByte b = true then
        (readNumber b rest h).outcome.map (Prod.map Token.operand id)
      else if isKeywordByte b then
        .ok (.ofWord (b :: rest.takeWhile isKeywordRest), rest.dropWhile isKeywordRest)
      else .error ⟨.unexpectedByte b, b :: rest⟩ := by
  rw [readTokenWith.eq_def]
  simp only [Bool.and_eq_true, beq_iff_eq]
  split
  · exact outcome_map_widen ..
  split
  · cases value with
    | none => rfl
    | some value => exact outcome_map_widen ..
  split
  · exact outcome_map_widen ..
  split
  · cases value with
    | none => rfl
    | some value => exact outcome_map_widen ..
  split
  · rfl
  split
  · exact outcome_map ..
  split
  · rfl
  · rfl

/-- The reader of the values in an array or dictionary that has `levels` of nesting left. -/
def nestedReader : ℕ → Option ((input : Bytes) → Reading Operand input)
  | 0 => none
  | level + 1 => some fun input => (readToken level input).map (·.map Token.nestedValue)

theorem readToken_eq (levels : ℕ) (input : Bytes) :
    readToken levels input = readTokenWith (nestedReader levels) input := by
  cases levels <;> rfl

theorem nestedReader_outcome (level : ℕ) (input : Bytes) :
    outcome ((readToken level input).map (·.map Token.nestedValue))
      = (readToken level input).outcome.map (Prod.map Token.nestedValue id) :=
  outcome_map ..

theorem readValue_outcome (input : Bytes) :
    (readValue input).outcome
      = (readToken maxNesting input).outcome.map (Prod.map Token.nestedValue id) :=
  outcome_map ..

/-! ## Inline images -/

theorem readImageEntries_outcome (input : Bytes) :
    (readImageEntries input).outcome =
      match skipBlanks input with
      | [] => .error ⟨.openImage, []⟩
      | b :: rest =>
        if b = 0x49 ∧ rest.head? = some 0x44 ∧ (rest.drop 1).head?.all isBlank = true then
          .ok ([], rest.drop 2)
        else if b = 0x2F then
          match skipBlanks (readName rest).2 with
          | [] => .error ⟨.openImageValue, []⟩
          | c :: after =>
            match (readValue (c :: after)).outcome with
            | .error stop => .error stop
            | .ok (first, following) =>
              (readImageEntries following).outcome.map
                (Prod.map (.name (readName rest).1 :: first :: ·) id)
        else .error ⟨.imageKey, b :: rest⟩ := by
  rw [readImageEntries]
  split
  · next skipped => simp only [skipped, outcome_fail]
  · next b rest skipped =>
    simp only [skipped, Bool.and_eq_true, beq_iff_eq, and_assoc]
    split
    · rfl
    split
    · split
      · next afterKey => simp only [afterKey, outcome_fail]
      · next c after afterKey =>
        simp only [afterKey]
        cases readValue (c :: after) with
        | error stop => rfl
        | ok first => exact outcome_map_widen ..
    · rfl

theorem readImage_outcome (input : Bytes) :
    (readImage input).outcome =
      match (readImageEntries input).outcome with
      | .error stop => .error stop
      | .ok (entries, rest) =>
        match splitImageData true rest with
        | none => .error ⟨.openImageData, rest⟩
        | some (bytes, after) => .ok (⟨"BI", [.array entries, .literal bytes.dropLast]⟩, after) := by
  rw [readImage]
  cases readImageEntries input with
  | error stop => rfl
  | ok entries =>
    simp only [outcome_ok]
    split
    · next missing => simp only [missing, outcome_fail]
    · next bytes after found => simp only [found, outcome_ok]

/-! ## Operators -/

/-- The next operator and what follows it, nothing at the end, or the stop. -/
def operatorOutcome (reading : Except Stop (Option (Parsed Operator input))) :
    Except Stop (Option (Operator × Bytes)) :=
  reading.map fun operator? => operator?.map fun parsed => (parsed.value, parsed.rest)

theorem length_lt_of_operatorOutcome
    {reading : Except Stop (Option (Parsed Operator input))} {operator : Operator} {rest : Bytes}
    (h : operatorOutcome reading = .ok (some (operator, rest))) : rest.length < input.length := by
  rcases reading with stop | _ | parsed
  · cases h
  · cases h
  · cases h
    exact parsed.rest_lt

theorem readOperator_outcome (count : ℕ) (input : Bytes) :
    operatorOutcome (readOperator count input) =
      match skipBlanks input with
      | [] => if count = 0 then .ok none else .error ⟨.operandsAtEnd count, []⟩
      | b :: rest =>
        if b = 0x5D then .error ⟨.strayArrayEnd, b :: rest⟩
        else if isTokenByte b = false then operatorOutcome (readOperator count rest)
        else
          match (readToken maxNesting (b :: rest)).outcome with
          | .error stop => .error stop
          | .ok (.operand value, after) =>
            (operatorOutcome (readOperator (count + 1) after)).map (Option.map
              (Prod.map (fun operator => ⟨operator.name, value :: operator.operands⟩) id))
          | .ok (.keyword word, after) =>
            if word = "BI" then
              if count = 0 then (readImage after).outcome.map some
              else .error ⟨.operandsBeforeImage count, after⟩
            else .ok (some (⟨word, []⟩, after)) := by
  rw [readOperator]
  split
  · next skipped =>
    simp only [skipped]
    split <;> rfl
  · next b rest skipped =>
    simp only [skipped, beq_iff_eq, Bool.not_eq_true']
    split
    · rfl
    split
    · rcases readOperator count rest with stop | _ | parsed <;> rfl
    · rcases readToken maxNesting (b :: rest) with stop | ⟨value | word, after, tokenRead⟩
      · rfl
      · simp only [outcome_ok]
        rcases readOperator (count + 1) after with stop | _ | parsed <;> rfl
      · simp only [outcome_ok]
        split
        · split
          · rcases readImage after with stop | image <;> rfl
          · rfl
        · rfl

/-- Reading the operators of a stream, by the outcome for the first one. -/
theorem readOperators_eq (input : Bytes) :
    readOperators input =
      match operatorOutcome (readOperator 0 input) with
      | .error stop => ⟨[], some stop⟩
      | .ok none => ⟨[], none⟩
      | .ok (some (first, rest)) =>
        ⟨first :: (readOperators rest).operators, (readOperators rest).stop⟩ := by
  rw [readOperators]
  rcases readOperator 0 input with stop | _ | parsed <;> rfl

/-- Induction on a stream, operator by operator from its front. -/
@[elab_as_elim]
theorem readOperators_induction {motive : Bytes → Prop}
    (stopped : ∀ input stop, operatorOutcome (readOperator 0 input) = .error stop → motive input)
    (ended : ∀ input, operatorOutcome (readOperator 0 input) = .ok none → motive input)
    (operator : ∀ input first rest,
      operatorOutcome (readOperator 0 input) = .ok (some (first, rest)) → motive rest → motive input)
    (input : Bytes) : motive input := by
  -- On the length of the stream: each operator makes it shorter.
  induction size : input.length using Nat.strong_induction_on generalizing input with
  | _ size' ih =>
    subst size
    rcases read : operatorOutcome (readOperator 0 input) with stop | _ | ⟨first, rest⟩
    · exact stopped input stop read
    · exact ended input read
    · exact operator input first rest read (ih _ (length_lt_of_operatorOutcome read) rest rfl)

/-- A stream of blanks and comments has no operators. -/
theorem readOperators_blanks {input : Bytes} (h : skipBlanks input = []) :
    readOperators input = ⟨[], none⟩ := by
  rw [readOperators_eq, readOperator_outcome, h]
  rfl

end Preflight

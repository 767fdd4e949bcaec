import Mathlib
import Preflight.Proofs.ReadableOperators

/-!
# Printed operators read back

An operator as it is read is read back from its bytes, with its numbers replaced by what their texts
denote, and so are the operators of a stream with one of them on each line.
-/

namespace Preflight

open Reading

/-- The operator as which the bytes of an operator are read. -/
def Operator.printed? (operator : Operator) : Option Operator :=
  (Operand.printedItems? operator.operands).map fun operands => ⟨operator.name, operands⟩

/-! ## Operators other than inline images -/

theorem readOperator_congr (count : ℕ) {input other : Bytes}
    (h : skipBlanks input = skipBlanks other) :
    operatorOutcome (readOperator count input) = operatorOutcome (readOperator count other) := by
  rw [readOperator_outcome, h, readOperator_outcome]

/-- Where a word begins, no blanks are skipped. -/
theorem skipBlanks_word {text : String} (word : IsWord text) (rest : Bytes) :
    ∃ b after, Utf8.encode text ++ rest = b :: after ∧ isTokenByte b = true ∧ b ≠ 0x5D ∧
      skipBlanks (Utf8.encode text ++ rest) = b :: after := by
  obtain ⟨b, bytes, cons, first, -⟩ := word
  have begins : isTokenByte b = true := by simp only [isTokenByte, first, Bool.or_true]
  obtain ⟨blank, comment, bracket⟩ := isBlank_of_isTokenByte b begins
  refine ⟨b, bytes ++ rest, by rw [cons, List.cons_append], begins, bracket, ?_⟩
  rw [cons, List.cons_append, skipBlanks_token blank comment]

/-- An operand in front of an operator is read. -/
theorem readOperator_operand {operand printed : Operand} {rest : Bytes} (count : ℕ)
    (shallow : operand.depth ≤ maxNesting) (h : operand.printed? = some printed)
    (ends : EndsToken rest) :
    operatorOutcome (readOperator count (0x20 :: (operand.bytes ++ rest)))
      = (operatorOutcome (readOperator (count + 1) rest)).map (Option.map
          (Prod.map (fun operator => ⟨operator.name, printed :: operator.operands⟩) id)) := by
  obtain ⟨b, after, cons, token, bracket, skipped⟩ := skipBlanks_bytes operand rest
  rw [readOperator_congr count (skipBlanks_blank rfl _), readOperator_outcome, skipped]
  simp only [bracket, token, if_false, Bool.true_eq_false]
  rw [← cons, readToken_bytes shallow h ends]

/-- The word of an operator is read. -/
theorem readOperator_word {name : String} {rest : Bytes} (count : ℕ) (keyword : IsKeyword name)
    (ends : EndsToken rest) :
    operatorOutcome (readOperator count (0x20 :: (Utf8.encode name ++ rest)))
      = if name = "BI" then
          if count = 0 then (readImage rest).outcome.map some
          else .error ⟨.operandsBeforeImage count, rest⟩
        else .ok (some (⟨name, []⟩, rest)) := by
  obtain ⟨b, after, cons, token, bracket, skipped⟩ := skipBlanks_word keyword.word rest
  rw [readOperator_congr count (skipBlanks_blank rfl _), readOperator_outcome, skipped]
  simp only [bracket, token, if_false, Bool.true_eq_false]
  rw [← cons, readToken_eq, readTokenWith_keyword keyword _ ends]

theorem readOperator_flatMap {name : String} {operands printed : List Operand} {rest : Bytes}
    (count : ℕ) (keyword : IsKeyword name) (other : name ≠ "BI")
    (shallow : ∀ operand ∈ operands, operand.depth ≤ maxNesting)
    (h : Operand.printedItems? operands = some printed) (ends : EndsToken rest) :
    operatorOutcome (readOperator count
        ((Operand.itemBytes operands ++ [Utf8.encode name]).flatMap (0x20 :: ·) ++ rest))
      = .ok (some (⟨name, printed⟩, rest)) := by
  induction operands generalizing count printed with
  | nil =>
    cases h
    rw [Operand.itemBytes, List.nil_append, List.flatMap_singleton, List.cons_append,
      readOperator_word count keyword ends, if_neg other]
  | cons operand operands ih =>
    rw [Operand.printedItems?] at h
    split at h
    · next first following operand_printed operands_printed =>
      cases h
      rw [Operand.itemBytes, List.cons_append, List.flatMap_cons, List.append_assoc, List.cons_append,
        readOperator_operand count (shallow operand List.mem_cons_self) operand_printed
          (endsToken_flatMap _ ends),
        ih (count + 1) (fun other member => shallow other (List.mem_cons_of_mem _ member))
          operands_printed]
      rfl
    · cases h

theorem Operator.bytes_of_name_ne {operator : Operator} (h : operator.name ≠ "BI") :
    operator.bytes
      = joinTexts 0x20 (Operand.itemBytes operator.operands ++ [Utf8.encode operator.name]) := by
  unfold Operator.bytes
  split
  · next name _ => exact absurd name h
  · rfl

/-! ## Inline images -/

theorem readImageEntries_congr {input other : Bytes} (h : skipBlanks input = skipBlanks other) :
    (readImageEntries input).outcome = (readImageEntries other).outcome := by
  rw [readImageEntries_outcome, h, readImageEntries_outcome]

/-- The keys and values of an inline image are read back up to its data. -/
theorem readImageEntries_flatMap {entries printed : List Operand} (read : ImageEntries entries)
    (h : Operand.printedItems? entries = some printed) (rest : Bytes) :
    (readImageEntries ((Operand.itemBytes entries).flatMap (0x20 :: ·)
        ++ 0x20 :: 0x49 :: 0x44 :: 0x20 :: rest)).outcome = .ok (printed, rest) := by
  induction read generalizing printed with
  | nil =>
    cases h
    have blank : isBlank 0x20 = true := rfl
    rw [Operand.itemBytes, List.flatMap_nil, List.nil_append,
      readImageEntries_congr (skipBlanks_blank rfl _), readImageEntries_outcome,
      skipBlanks_token rfl (by decide)]
    simp [blank]
  | @cons key value entries shallow following ih =>
    rw [Operand.printedItems?, Operand.printedItems?] at h
    split at h
    · next first more key_printed items_printed =>
      cases key_printed
      cases h
      split at items_printed
      · next second following value_printed entries_printed =>
        cases items_printed
        have ends : EndsToken ((Operand.itemBytes entries).flatMap (0x20 :: ·)
            ++ 0x20 :: 0x49 :: 0x44 :: 0x20 :: rest) :=
          endsToken_flatMap _ (EndsToken.space _)
        obtain ⟨b, after, cons, -, -, skipped⟩ := skipBlanks_bytes value
          ((Operand.itemBytes entries).flatMap (0x20 :: ·)
            ++ 0x20 :: 0x49 :: 0x44 :: 0x20 :: rest)
        rw [Operand.itemBytes, Operand.itemBytes, List.flatMap_cons, List.flatMap_cons,
          List.append_assoc, List.append_assoc, List.cons_append, List.cons_append,
          readImageEntries_congr (skipBlanks_blank rfl _), Operand.bytes, nameText,
          List.cons_append, readImageEntries_outcome, skipBlanks_token rfl (by decide)]
        simp only
        rw [if_neg (by simp), if_pos trivial, readName_text key (EndsToken.space _)]
        simp only
        rw [skipBlanks_blank rfl, skipped]
        simp only
        rw [← cons, readValue_outcome, readToken_bytes shallow value_printed ends]
        simp only [Except.map, Prod.map, id, Token.nestedValue]
        rw [ih entries_printed]
      · cases items_printed
    · cases h

/-- An inline image is read back after its first word. -/
theorem readImage_bytes {entries printed : List Operand} {samples rest : Bytes}
    (read : ImageEntries entries) (data : IsImageData samples)
    (h : Operand.printedItems? entries = some printed) (ends : EndsToken rest) :
    (readImage ((Operand.itemBytes entries).flatMap (0x20 :: ·)
        ++ 0x20 :: 0x49 :: 0x44 :: 0x20 :: (samples ++ 0x0A :: 0x45 :: 0x49 :: rest))).outcome
      = .ok (⟨"BI", [.array printed, .literal samples]⟩, rest) := by
  rw [readImage_outcome, readImageEntries_flatMap read h]
  simp only
  rw [data ends]
  simp only [List.dropLast_concat]

/-- The word with which an inline image begins. -/
theorem isKeyword_image : IsKeyword "BI" where
  word := ⟨0x42, [0x49], rfl, rfl, List.all_eq_true.1 rfl⟩
  other := by decide

/-- The bytes of an inline image, with all that stands after its first word. -/
theorem Operator.bytes_image (entries : List Operand) (samples rest : Bytes) :
    Operator.bytes ⟨"BI", [.array entries, .literal samples]⟩ ++ rest
      = Utf8.encode "BI" ++ ((Operand.itemBytes entries).flatMap (0x20 :: ·)
        ++ 0x20 :: 0x49 :: 0x44 :: 0x20 :: (samples ++ 0x0A :: 0x45 :: 0x49 :: rest)) := by
  show imageBytes entries samples ++ rest = _
  rw [imageBytes, show Bytes.ofLatin "BI" = Utf8.encode "BI" from rfl,
    show Bytes.ofLatin " ID " = [0x20, 0x49, 0x44, 0x20] from rfl,
    show Bytes.ofLatin "EI" = [0x45, 0x49] from rfl]
  simp only [List.append_assoc, List.cons_append, List.nil_append]

/-! ## Streams -/

/-- An operator as it is read is read back from its bytes. -/
theorem readOperator_bytes {operator printed : Operator} {rest : Bytes}
    (readable : operator.IsReadable) (h : operator.printed? = some printed)
    (ends : EndsToken rest) :
    operatorOutcome (readOperator 0 (operator.bytes ++ rest)) = .ok (some (printed, rest)) := by
  obtain ⟨operands, operands_printed, rfl⟩ := Option.map_eq_some_iff.1 h
  rcases readable with plain | ⟨entries, samples, rfl, read, data⟩
  · rw [Operator.bytes_of_name_ne plain.name_ne,
      readOperator_congr 0 (skipBlanks_joinTexts _ _)]
    exact readOperator_flatMap 0 plain.keyword plain.name_ne plain.shallow operands_printed ends
  · rw [Operand.printedItems?] at operands_printed
    split at operands_printed
    · next first more array_printed literal_printed =>
      obtain ⟨printed_entries, entries_printed, rfl⟩ := Option.map_eq_some_iff.1 array_printed
      cases operands_printed
      cases literal_printed
      rw [Operator.bytes_image, ← readOperator_congr 0 (skipBlanks_blank (b := 0x20) rfl _),
        readOperator_word 0 isKeyword_image (endsToken_flatMap _ (EndsToken.space _)), if_pos rfl,
        if_pos rfl, readImage_bytes read data entries_printed ends]
      rfl
    · cases operands_printed

theorem readOperators_congr {input other : Bytes} (h : skipBlanks input = skipBlanks other) :
    readOperators input = readOperators other := by
  rw [readOperators_eq, readOperator_congr 0 h, readOperators_eq]

/-- The operators of a stream with one of them on each line are read back. -/
theorem readOperators_lines {operators printed : List Operator}
    (h : List.Forall₂ (fun operator printed => operator.IsReadable ∧
      operator.printed? = some printed) operators printed) :
    readOperators (operators.flatMap fun operator => operator.bytes ++ [0x0A])
      = ⟨printed, none⟩ := by
  induction h with
  | nil => exact readOperators_blanks skipBlanks_nil
  | @cons operator printed operators following first _ ih =>
    have ends (rest : Bytes) : EndsToken (0x0A :: rest) := .blank rfl rest
    rw [List.flatMap_cons, List.append_assoc, List.singleton_append, readOperators_eq,
      readOperator_bytes first.1 first.2 (ends _)]
    simp only
    rw [readOperators_congr (skipBlanks_blank rfl _), ih]

end Preflight

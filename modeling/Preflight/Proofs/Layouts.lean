import Mathlib
import Preflight.Proofs.PrintedOperators
import Preflight.Proofs.Success

/-!
# Layouts of content

Between the operands and the words of operators, content has blanks and comments in any number. The
operators that are written are read back whatever the layout is, as each text ends where its gap
begins.
-/

namespace Preflight

/-! ## Gaps and layouts -/

/-- Blanks and comments in turn, each comment with the line end that closes it. -/
inductive IsGap : Bytes → Prop where
  | nil : IsGap []
  | blank {b : UInt8} {following : Bytes} (blank : isBlank b = true) (gap : IsGap following) :
      IsGap (b :: following)
  | comment {text : Bytes} {b : UInt8} {following : Bytes}
      (line : ∀ c ∈ text, isLineEnd c = false) (closed : isLineEnd b = true)
      (gap : IsGap following) : IsGap (0x25 :: (text ++ b :: following))

/-- Texts in turn, each behind a gap that is not empty, with another gap at the end. -/
inductive SpacedOut : List Bytes → Bytes → Prop where
  | nil {gap : Bytes} (h : IsGap gap) : SpacedOut [] gap
  | cons {text gap following : Bytes} {texts : List Bytes} (h : IsGap gap) (apart : gap ≠ [])
      (rest : SpacedOut texts following) : SpacedOut (text :: texts) (gap ++ (text ++ following))

/-- Texts in turn with gaps between them that are not empty; there may be a gap in front of the
first one and behind the last one. -/
inductive LaidOut : List Bytes → Bytes → Prop where
  | nil {gap : Bytes} (h : IsGap gap) : LaidOut [] gap
  | cons {text gap following : Bytes} {texts : List Bytes} (h : IsGap gap)
      (rest : SpacedOut texts following) : LaidOut (text :: texts) (gap ++ (text ++ following))

/-- The texts of an operator: its operands as written, and its word. -/
def Operator.texts (operator : Operator) : List Bytes :=
  Operand.itemBytes operator.operands ++ [Utf8.encode operator.name]

/-! ## What a gap does to a reader -/

theorem skipFrom_comment {text : Bytes} (line : ∀ c ∈ text, isLineEnd c = false) {b : UInt8}
    (closed : isLineEnd b = true) (rest : Bytes) :
    skipFrom true (text ++ b :: rest) = skipBlanks rest := by
  induction text with
  | nil =>
    rw [List.nil_append, skipFrom, if_pos rfl, closed]
    rfl
  | cons c text ih =>
    rw [List.forall_mem_cons] at line
    rw [List.cons_append, skipFrom, if_pos rfl, line.1]
    exact ih line.2

theorem IsGap.skipBlanks_append {gap : Bytes} (h : IsGap gap) (rest : Bytes) :
    skipBlanks (gap ++ rest) = skipBlanks rest := by
  induction h with
  | nil => rfl
  | blank blank _ ih => rw [List.cons_append, skipBlanks_blank blank, ih]
  | comment line closed _ ih =>
    rw [List.cons_append, List.append_assoc, List.cons_append, skipBlanks, skipFrom,
      if_neg Bool.false_ne_true, if_neg (by decide), if_pos (beq_self_eq_true _),
      skipFrom_comment line closed, ih]

/-- A token ends where a gap begins. -/
theorem IsGap.endsToken_append {gap : Bytes} (h : IsGap gap) {rest : Bytes}
    (apart : gap ≠ [] ∨ rest = []) : EndsToken (gap ++ rest) := by
  cases h with
  | nil =>
    rw [apart.resolve_left (absurd rfl)]
    exact fun b member => nomatch member
  | blank blank _ => exact .blank blank _
  | comment =>
    intro b member
    cases member
    rfl

theorem SpacedOut.endsToken {texts : List Bytes} {content : Bytes}
    (h : SpacedOut texts content) : EndsToken content := by
  cases h with
  | nil gap =>
    have ends := gap.endsToken_append (Or.inr rfl)
    rwa [List.append_nil] at ends
  | cons gap apart _ => exact gap.endsToken_append (Or.inl apart)

theorem SpacedOut.laidOut {texts : List Bytes} {content : Bytes} (h : SpacedOut texts content) :
    LaidOut texts content := by
  cases h with
  | nil gap => exact .nil gap
  | cons gap _ rest => exact .cons gap rest

/-! ## Operators read back -/

/-- An operator is read back from any layout, up to the gap behind its word. -/
theorem readOperator_laidOut {name : String} {operands printed : List Operand}
    {texts : List Bytes} {content : Bytes} (keyword : IsKeyword name) (other : name ≠ "BI")
    (shallow : ∀ operand ∈ operands, operand.depth ≤ maxNesting)
    (h : Operand.printedItems? operands = some printed)
    (laid : LaidOut (Operand.itemBytes operands ++ Utf8.encode name :: texts) content)
    (count : ℕ) :
    ∃ rest, operatorOutcome (readOperator count content) = .ok (some (⟨name, printed⟩, rest)) ∧
      SpacedOut texts rest := by
  -- A gap is skipped like the single space of the usual form.
  have skip {gap : Bytes} (empty : IsGap gap) (count : ℕ) (rest : Bytes) :
      operatorOutcome (readOperator count (gap ++ rest))
        = operatorOutcome (readOperator count (0x20 :: rest)) :=
    readOperator_congr count ((empty.skipBlanks_append rest).trans (skipBlanks_blank rfl rest).symm)
  induction operands generalizing count printed content with
  | nil =>
    cases h
    cases laid with
    | @cons _ gap following _ empty rest =>
      refine ⟨following, ?_, rest⟩
      rw [skip empty, readOperator_word count keyword rest.endsToken, if_neg other]
  | cons operand operands ih =>
    rw [Operand.printedItems?] at h
    split at h
    · next first further operand_printed operands_printed =>
      cases h
      cases laid with
      | @cons _ gap following _ empty rest =>
        obtain ⟨behind, read, spaced⟩ :=
          ih (fun other member => shallow other (List.mem_cons_of_mem _ member)) operands_printed
            rest.laidOut (count + 1)
        refine ⟨behind, ?_, spaced⟩
        rw [skip empty, readOperator_operand count (shallow operand List.mem_cons_self)
          operand_printed rest.endsToken, read]
        rfl
    · cases h

/-- The operators of content are read back from any layout, with their numbers as printed. -/
theorem readOperators_laidOut {operators printed : List Operator} {content : Bytes}
    (h : List.Forall₂ (fun operator printed => operator.IsPlain ∧
      operator.printed? = some printed) operators printed)
    (laid : LaidOut (operators.flatMap Operator.texts) content) :
    readOperators content = ⟨printed, none⟩ := by
  induction h generalizing content with
  | nil =>
    cases laid with
    | nil gap =>
      have skipped := gap.skipBlanks_append []
      rw [List.append_nil, skipBlanks_nil] at skipped
      exact readOperators_blanks skipped
  | @cons operator printed operators following first _ ih =>
    obtain ⟨plain, printed_ok⟩ := first
    obtain ⟨operands, operands_printed, rfl⟩ := Option.map_eq_some_iff.1 printed_ok
    rw [List.flatMap_cons, Operator.texts, List.append_assoc, List.singleton_append] at laid
    obtain ⟨rest, read, spaced⟩ := readOperator_laidOut plain.keyword plain.name_ne plain.shallow
      operands_printed laid 0
    rw [readOperators_eq, read]
    simp only [ih spaced.laidOut]

namespace Operand

mutual

/-- An operand without fractions is read back as it is. -/
theorem printed?_of_reals : ∀ {operand : Operand}, operand.reals = [] →
    operand.printed? = some operand
  | .integer _, _ | .name _, _ | .literal _, _ | .hex _, _ | .boolean _, _ | .null, _ => rfl
  | .array items, h => by
    rw [printed?, printedItems?_of_reals h]
    rfl
  | .dictionary entries, h => by
    rw [printed?, printedEntries?_of_reals h]
    rfl

theorem printedItems?_of_reals : ∀ {items : List Operand}, realsOfItems items = [] →
    printedItems? items = some items
  | [], _ => rfl
  | item :: items, h => by
    obtain ⟨first, following⟩ := List.append_eq_nil_iff.1 h
    rw [printedItems?, printed?_of_reals first, printedItems?_of_reals following]

theorem printedEntries?_of_reals : ∀ {entries : List (String × Operand)},
    realsOfEntries entries = [] → printedEntries? entries = some entries
  | [], _ => rfl
  | (key, value) :: entries, h => by
    obtain ⟨first, following⟩ := List.append_eq_nil_iff.1 h
    rw [printedEntries?, printed?_of_reals first, printedEntries?_of_reals following]

end

end Operand

/-- Operators without fractions are read back as they are from any layout. -/
theorem tokenize_laidOut {operators : List Operator} {content : Bytes}
    (plain : ∀ operator ∈ operators, operator.IsPlain)
    (whole : ∀ operator ∈ operators, Operand.realsOfItems operator.operands = [])
    (laid : LaidOut (operators.flatMap Operator.texts) content) :
    tokenize content = .ok operators := by
  have printed : List.Forall₂ (fun operator printed => operator.IsPlain ∧
      operator.printed? = some printed) operators operators := by
    rw [List.forall₂_same]
    intro operator member
    refine ⟨plain operator member, ?_⟩
    rw [Operator.printed?, Operand.printedItems?_of_reals (whole operator member)]
    rfl
  rw [tokenize, readOperators_laidOut printed laid]

/-- Two operators, with an empty name, equal keys, and bytes that have to be escaped. -/
def oddOperators : List Operator := [
  ⟨"TJ", [.array [.dictionary [("\x00#", .hex [0xAF]), ("\x00#", .literal [0x29])],
    .integer (-9223372036854775808)], .name ""]⟩,
  ⟨"T*", []⟩]

theorem tokenize_laidOut_oddOperators :
    (∀ operator ∈ oddOperators, operator.IsPlain) ∧
    (∀ operator ∈ oddOperators, Operand.realsOfItems operator.operands = []) ∧
    tokenize (Bytes.ofLatin
        "%a\r[<</#00#23 <AF> /#00#23 (\\))>> -9223372036854775808]%(\n/%>>\n\x00TJ\t\nT*%\n")
      = .ok oddOperators := by
  have plain : ∀ operator ∈ oddOperators, operator.IsPlain := by
    rw [oddOperators, List.forall_mem_cons, List.forall_mem_singleton]
    exact ⟨⟨⟨⟨0x54, [0x4A], rfl, rfl, List.all_eq_true.1 rfl⟩, by decide⟩, by decide, by decide⟩,
      ⟨⟨0x54, [0x2A], rfl, rfl, List.all_eq_true.1 rfl⟩, by decide⟩, by decide, by decide⟩
  have whole : ∀ operator ∈ oddOperators, Operand.realsOfItems operator.operands = [] := by
    decide
  have texts : oddOperators.flatMap Operator.texts = [
      Bytes.ofLatin "[<</#00#23 <AF> /#00#23 (\\))>> -9223372036854775808]", Bytes.ofLatin "/",
      Bytes.ofLatin "TJ", Bytes.ofLatin "T*"] := by
    decide +kernel
  refine ⟨plain, whole, tokenize_laidOut plain whole ?_⟩
  rw [texts]
  exact .cons (@IsGap.comment [0x61] 0x0D [] (by decide +kernel) rfl .nil)
    (.cons (@IsGap.comment [0x28] 0x0A [] (by decide +kernel) rfl .nil) (by decide)
      (.cons (@IsGap.comment [0x3E, 0x3E] 0x0A [0x00] (by decide +kernel) rfl (.blank rfl .nil))
        (by decide)
        (.cons (.blank rfl (.blank rfl .nil) : IsGap [0x09, 0x0A]) (by decide)
          (.nil (@IsGap.comment [] 0x0A [] (by decide +kernel) rfl .nil)))))

end Preflight

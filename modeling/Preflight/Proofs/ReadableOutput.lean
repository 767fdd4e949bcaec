import Mathlib
import Preflight.Proofs.StableNumbers
import Preflight.Proofs.WrittenOperators

/-!
# When a converted stream can be read

Numbers above 32767 are written without a point and read back as integers, which have to fit 64 bits.
A converted stream can be read exactly if the numbers of all operators that are written as they were
read do so.
-/

namespace Preflight

open Reading

/-! ## Large numbers -/

/-- A number that is not written as an integer beyond 64 bits: an infinite one, which is written as
zero, or one from `-2 ^ 63` up to below `2 ^ 63`. -/
def Double.Fits (x : Double) : Prop := x.isFinite = true → -2 ^ 63 ≤ x.toRat ∧ x.toRat < 2 ^ 63

instance (x : Double) : Decidable x.Fits :=
  inferInstanceAs (Decidable (x.isFinite = true → -2 ^ 63 ≤ x.toRat ∧ x.toRat < 2 ^ 63))

namespace Double

/-- `2 ^ 63` is rounded to itself, and larger numbers to larger ones. -/
theorem truncate_add_half_of_le {x : Double} (nonneg : x.negative = false)
    (finite : x.isFinite = true) (h : 2 ^ 63 ≤ x.toRat) :
    2 ^ 63 ≤ (x + 0.5).truncate 18446744073709551615 ∧
      ((x + 0.5).truncate 18446744073709551615 = 2 ^ 63 ↔ x.toRat = 2 ^ 63) := by
  obtain ⟨-, bound, next⟩ := magnitude_two_pow_63
  obtain ⟨-, whole, beyond⟩ := truncate_round_two_pow_63
  rw [Binary.add_eq_round nonneg half_near.nonneg finite half_near.finite, half_near.toRat_eq]
  refine ⟨whole.symm.trans_le (Binary.truncate_round_mono _ (by norm_num) (by linarith)),
    fun same => ?_, fun value => ?_⟩
  · by_contra other
    have above : 2 ^ 63 + 2048 ≤ x.toRat := by
      have less := lt_of_le_of_ne h (Ne.symm other)
      rw [← bound, Binary.toRat_of_nonneg nonneg] at less
      rw [← next, Binary.toRat_of_nonneg nonneg]
      have rank := FloatFormat.double.magnitude_strictMono.lt_iff_lt.1 less
      exact FloatFormat.double.magnitude_strictMono.monotone rank
    have larger := beyond.trans_le
      (Binary.truncate_round_mono 18446744073709551615 (by norm_num) (add_le_add_left above (1 / 2)))
    omega
  · rw [value]
    exact whole

/-- A number of magnitude `2 ^ 63` or more is written as the integer to which it is rounded. -/
theorem numberText_of_le {x : Double} (finite : x.isFinite = true) (h : 2 ^ 63 ≤ x.abs.toRat) :
    numberText x = (Numeral.ofParts (Numeral.minusIf x.negative)
      ((x.abs + 0.5).truncate 18446744073709551615) []).text := by
  have finite_abs : x.abs.isFinite = true := finite
  have not_small : ¬x.abs < 0.000015 := not_lt_zeroLimit finite_abs (le_trans (by norm_num) h)
  obtain ⟨-, text, -⟩ := magnitudeText_of_gt rfl finite_abs (by linarith)
  have sign : x < 0 ↔ x.negative = true := by
    rw [Binary.lt_iff finite zero_near.finite, zero_near.toRat_eq]
    rw [Binary.toRat_of_nonneg rfl] at h
    have magnitude : x.toRat = if x.negative then -FloatFormat.double.magnitude x.rank
        else FloatFormat.double.magnitude x.rank := rfl
    have large : 2 ^ 63 ≤ FloatFormat.double.magnitude x.rank := h
    rw [magnitude]
    cases x.negative with
    | true =>
      simp only [if_true, iff_true]
      linarith
    | false =>
      simp only [Bool.false_eq_true, if_false, iff_false, not_lt]
      linarith
  rw [Numeral.text_ofParts, ← text]
  unfold numberText
  rw [finite]
  simp only [Bool.not_true, Bool.false_eq_true, if_false, not_small, sign]
  cases x.negative <;> rfl

end Double

/-- An integer without a point is read if it fits 64 bits. -/
theorem Numeral.isSome_operand?_ofParts_iff (negative : Bool) (n : ℕ) :
    (ofParts (minusIf negative) n []).operand?.isSome = true ↔
      n < 2 ^ 63 ∨ negative = true ∧ n = 2 ^ 63 := by
  rw [operand?_ofParts_nil negative n rfl]
  cases negative with
  | true =>
    simp only [if_true, true_and]
    split <;> simp <;> omega
  | false =>
    simp only [Bool.false_eq_true, if_false, false_and, or_false]
    split <;> simp <;> omega

/-- From `2 ^ 63` up only `-2 ^ 63` fits. -/
theorem Double.fits_iff_of_le {x : Double} (finite : x.isFinite = true) (h : 2 ^ 63 ≤ x.abs.toRat) :
    x.Fits ↔ x.negative = true ∧ x.abs.toRat = 2 ^ 63 := by
  have magnitude : x.toRat = if x.negative then -x.abs.toRat else x.abs.toRat := rfl
  unfold Fits
  rw [magnitude]
  cases x.negative with
  | true =>
    simp only [if_true, true_and]
    constructor
    · intro fits
      obtain ⟨above, -⟩ := fits finite
      exact le_antisymm (by linarith) h
    · intro least _
      exact ⟨by rw [least], by linarith⟩
  | false =>
    simp only [Bool.false_eq_true, if_false, false_and, iff_false]
    intro fits
    obtain ⟨-, below⟩ := fits finite
    exact absurd below h.not_gt

/-- The text of a number is read exactly if the number is not written as an integer beyond 64 bits. -/
theorem Operand.isSome_ofPrinted?_iff {x : Double} : (ofPrinted? x).isSome = true ↔ x.Fits := by
  by_cases finite : x.isFinite = true
  · rcases lt_or_ge x.abs.toRat (2 ^ 63) with small | large
    · have bound : |x.toRat| < 2 ^ 63 := by rwa [← Binary.toRat_abs]
      refine iff_of_true (isSome_ofPrinted? finite bound) fun _ => ?_
      obtain ⟨lower, upper⟩ := abs_lt.1 bound
      exact ⟨lower.le, upper⟩
    · obtain ⟨lower, same⟩ := Double.truncate_add_half_of_le (x := x.abs) rfl finite large
      rw [ofPrinted?_eq (Double.numberText_of_le finite large)
          (Numeral.written_minusIf _ _ (by simp)),
        Numeral.isSome_operand?_ofParts_iff, or_iff_right (not_lt.2 lower), same,
        Double.fits_iff_of_le finite large]
  · have zero : numberText x = (Numeral.ofParts (Numeral.minusIf false) 0 []).text := by
      rw [Numeral.text_ofParts]
      unfold numberText
      rw [eq_false_of_ne_true finite]
      rfl
    rw [ofPrinted?_eq zero (Numeral.written_minusIf false 0 (by simp)),
      Numeral.isSome_operand?_ofParts_iff]
    exact iff_of_true (Or.inl (by norm_num)) fun infinite => absurd infinite finite

/-! ## Operands -/

namespace Operand

mutual

/-- An operand can be read back exactly if its numbers with a fraction can. -/
theorem isSome_printed?_iff : ∀ operand : Operand,
    operand.printed?.isSome = true ↔ ∀ x ∈ operand.reals, x.Fits
  | .integer _ | .name _ | .literal _ | .hex _ | .boolean _ | .null => by simp [printed?, reals]
  | .real value => by
    rw [printed?, isSome_ofPrinted?_iff]
    simp [reals]
  | .array items => by
    rw [printed?, Option.isSome_map, reals]
    exact isSome_printedItems?_iff items
  | .dictionary entries => by
    rw [printed?, Option.isSome_map, reals]
    exact isSome_printedEntries?_iff entries

theorem isSome_printedItems?_iff : ∀ items : List Operand,
    (printedItems? items).isSome = true ↔ ∀ x ∈ realsOfItems items, x.Fits
  | [] => by simp [printedItems?, realsOfItems]
  | item :: items => by
    have first := isSome_printed?_iff item
    have following := isSome_printedItems?_iff items
    rw [realsOfItems, List.forall_mem_append, ← first, ← following, printedItems?]
    cases item.printed? <;> cases printedItems? items <;> simp

theorem isSome_printedEntries?_iff : ∀ entries : List (String × Operand),
    (printedEntries? entries).isSome = true ↔ ∀ x ∈ realsOfEntries entries, x.Fits
  | [] => by simp [printedEntries?, realsOfEntries]
  | (_, value) :: entries => by
    have first := isSome_printed?_iff value
    have following := isSome_printedEntries?_iff entries
    rw [realsOfEntries, List.forall_mem_append, ← first, ← following, printedEntries?]
    cases value.printed? <;> cases printedEntries? entries <;> simp

end

end Operand

/-- A reader of values reads the bytes of an operand only if it can be read back. -/
def ReadsOnlyPrinted (value : (input : Bytes) → Reading Operand input) (operand : Operand) : Prop :=
  ∀ {result rest}, EndsToken rest → (value (operand.bytes ++ rest)).outcome = .ok result →
    operand.printed?.isSome = true

/-- Items can be read back if the reader takes them off. -/
theorem isSome_printedItems?_of_readItems {value : (input : Bytes) → Reading Operand input}
    {items : List Operand} (reads : ∀ item ∈ items, ReadsPrinted value item)
    (only : ∀ item ∈ items, ReadsOnlyPrinted value item) {rest : Bytes}
    {result : List Operand × Bytes}
    (h : (readItems value ((Operand.itemBytes items).flatMap (0x20 :: ·) ++ 0x5D :: rest)).outcome
      = .ok result) : (Operand.printedItems? items).isSome = true := by
  induction items generalizing result with
  | nil => rfl
  | cons item items ih =>
    have ends : EndsToken ((Operand.itemBytes items).flatMap (0x20 :: ·) ++ 0x5D :: rest) :=
      endsToken_flatMap _ (by simp [EndsToken]; rfl)
    obtain ⟨b, after, cons, -, bracket, skipped⟩ := skipBlanks_bytes item
      ((Operand.itemBytes items).flatMap (0x20 :: ·) ++ 0x5D :: rest)
    rw [Operand.itemBytes, List.flatMap_cons, List.append_assoc, List.cons_append,
      readItems_congr value (skipBlanks_blank rfl _), readItems_outcome, skipped] at h
    simp only [bracket, if_false] at h
    rw [← cons] at h
    split at h
    · cases h
    · next first following value_read =>
      obtain ⟨printed, item_printed⟩ := Option.isSome_iff_exists.1
        (only item List.mem_cons_self ends value_read)
      rw [reads item List.mem_cons_self item_printed ends] at value_read
      cases value_read
      obtain ⟨others, items_read, -⟩ := map_eq_ok.1 h
      obtain ⟨others_printed, items_printed⟩ := Option.isSome_iff_exists.1
        (ih (fun other member => reads other (List.mem_cons_of_mem _ member))
          (fun other member => only other (List.mem_cons_of_mem _ member)) items_read)
      rw [Operand.printedItems?, item_printed, items_printed]
      rfl

/-- Entries can be read back if the reader takes them off. -/
theorem isSome_printedEntries?_of_readEntries {value : (input : Bytes) → Reading Operand input}
    {entries : List (String × Operand)} (reads : ∀ entry ∈ entries, ReadsPrinted value entry.2)
    (only : ∀ entry ∈ entries, ReadsOnlyPrinted value entry.2) {rest : Bytes}
    {result : List (String × Operand) × Bytes}
    (h : (readEntries value
        ((Operand.entryBytes entries).flatMap (0x20 :: ·) ++ 0x3E :: 0x3E :: rest)).outcome
      = .ok result) : (Operand.printedEntries? entries).isSome = true := by
  induction entries generalizing result with
  | nil => rfl
  | cons entry entries ih =>
    obtain ⟨key, item⟩ := entry
    have ends : EndsToken ((Operand.entryBytes entries).flatMap (0x20 :: ·)
        ++ 0x3E :: 0x3E :: rest) := endsToken_flatMap _ (by simp [EndsToken]; rfl)
    obtain ⟨b, after, cons, -, -, skipped⟩ := skipBlanks_bytes item
      ((Operand.entryBytes entries).flatMap (0x20 :: ·) ++ 0x3E :: 0x3E :: rest)
    rw [Operand.entryBytes, List.flatMap_cons, List.append_assoc, List.cons_append,
      readEntries_congr value (skipBlanks_blank rfl _), nameText, List.append_assoc,
      List.cons_append, readEntries_outcome, skipBlanks_token rfl (by decide)] at h
    simp only [List.cons_append] at h
    rw [if_neg (by simp), if_pos trivial, readName_text key (EndsToken.space _)] at h
    simp only at h
    rw [skipBlanks_blank rfl, skipped] at h
    simp only at h
    rw [← cons] at h
    split at h
    · cases h
    · next first following value_read =>
      obtain ⟨printed, item_printed⟩ := Option.isSome_iff_exists.1
        (only (key, item) List.mem_cons_self ends value_read)
      rw [reads (key, item) List.mem_cons_self item_printed ends] at value_read
      cases value_read
      obtain ⟨others, entries_read, -⟩ := map_eq_ok.1 h
      obtain ⟨others_printed, entries_printed⟩ := Option.isSome_iff_exists.1
        (ih (fun other member => reads other (List.mem_cons_of_mem _ member))
          (fun other member => only other (List.mem_cons_of_mem _ member)) entries_read)
      rw [Operand.printedEntries?, item_printed, entries_printed]
      rfl

/-- A reader of values with a level of nesting less needs operands that can be read back. -/
theorem readsOnlyPrinted_nested {level : ℕ} {item : Operand}
    (h : ∀ {result rest}, EndsToken rest →
      (readToken level (item.bytes ++ rest)).outcome = .ok result → item.printed?.isSome = true) :
    ReadsOnlyPrinted (fun input => (readToken level input).map (·.map Token.nestedValue)) item := by
  intro result rest ends value_read
  rw [nestedReader_outcome] at value_read
  obtain ⟨token, token_read, -⟩ := map_eq_ok.1 value_read
  exact h ends token_read

/-- An operand that does not nest too deep can be read back if its bytes are read. -/
theorem isSome_printed?_of_readToken {levels : ℕ} {operand : Operand} {rest : Bytes}
    {result : Token × Bytes} (shallow : operand.depth ≤ levels) (ends : EndsToken rest)
    (h : (readToken levels (operand.bytes ++ rest)).outcome = .ok result) :
    operand.printed?.isSome = true := by
  -- On the levels of nesting that are left: an array needs one level less for its elements.
  induction levels using Nat.strong_induction_on generalizing operand rest result with
  | _ levels ih =>
    cases operand with
    | integer | name | literal | hex | boolean | null => rfl
    | real value =>
      obtain ⟨sign, whole, places, text, written, -⟩ := numberText_eq_text value
      rw [readToken_eq, Operand.bytes, text, readTokenWith_numeral written _ ends] at h
      rw [Operand.printed?, Operand.ofPrinted?_eq text written]
      split at h
      · next operand denoted =>
        rw [denoted]
        rfl
      · cases h
    | array items =>
      obtain ⟨level, rfl⟩ := Nat.exists_eq_add_of_le' ((Nat.le_add_left 1 _).trans shallow)
      have nested {item : Operand} (member : item ∈ items) : item.depth ≤ level :=
        (Operand.depth_le_depthOfItems member).trans (Nat.le_of_succ_le_succ shallow)
      rw [readToken_eq, Operand.bytes, List.cons_append, List.cons_append, List.append_assoc,
        readTokenWith_outcome, if_neg (by decide), if_neg (by simp), if_neg (by decide), if_pos rfl,
        nestedReader, List.singleton_append] at h
      simp only at h
      rw [readItems_congr _ (skipBlanks_joinTexts _ _)] at h
      obtain ⟨read, items_read, -⟩ := map_eq_ok.1 h
      rw [Operand.printed?, Option.isSome_map]
      exact isSome_printedItems?_of_readItems
        (fun item member => readsPrinted_nested fun printed ends =>
          readToken_bytes (nested member) printed ends)
        (fun item member => readsOnlyPrinted_nested fun ends =>
          ih level (Nat.lt_succ_self level) (nested member) ends)
        items_read
    | dictionary entries =>
      obtain ⟨level, rfl⟩ := Nat.exists_eq_add_of_le' ((Nat.le_add_left 1 _).trans shallow)
      have nested {entry : String × Operand} (member : entry ∈ entries) : entry.2.depth ≤ level :=
        (Operand.depth_le_depthOfEntries member).trans (Nat.le_of_succ_le_succ shallow)
      rw [readToken_eq, Operand.bytes, List.cons_append, List.cons_append, List.cons_append,
        List.append_assoc, readTokenWith_outcome, if_neg (by decide), if_pos (by simp),
        nestedReader] at h
      simp only [List.cons_append, List.nil_append] at h
      rw [List.drop_one, List.tail_cons, readEntries_congr _ (skipBlanks_joinTexts _ _)] at h
      obtain ⟨read, entries_read, -⟩ := map_eq_ok.1 h
      rw [Operand.printed?, Option.isSome_map]
      exact isSome_printedEntries?_of_readEntries
        (fun entry member => readsPrinted_nested fun printed ends =>
          readToken_bytes (nested member) printed ends)
        (fun entry member => readsOnlyPrinted_nested fun ends =>
          ih level (Nat.lt_succ_self level) (nested member) ends)
        entries_read

/-! ## Operators -/

/-- Operands in front of a keyword can be read back if they are read. -/
theorem isSome_printedItems?_of_readOperator {name : String} {operands : List Operand}
    {rest : Bytes} (count : ℕ) {result : Option (Operator × Bytes)}
    (shallow : ∀ operand ∈ operands, operand.depth ≤ maxNesting) (ends : EndsToken rest)
    (h : operatorOutcome (readOperator count
        ((Operand.itemBytes operands ++ [Utf8.encode name]).flatMap (0x20 :: ·) ++ rest))
      = .ok result) : (Operand.printedItems? operands).isSome = true := by
  induction operands generalizing count result with
  | nil => rfl
  | cons operand operands ih =>
    have apart := endsToken_flatMap (Operand.itemBytes operands ++ [Utf8.encode name]) ends
    rw [Operand.itemBytes, List.cons_append, List.flatMap_cons, List.append_assoc,
      List.cons_append] at h
    have taken := h
    obtain ⟨b, after, cons, token, bracket, skipped⟩ := skipBlanks_bytes operand
      ((Operand.itemBytes operands ++ [Utf8.encode name]).flatMap (0x20 :: ·) ++ rest)
    rw [readOperator_congr count (skipBlanks_blank rfl _), readOperator_outcome, skipped] at taken
    simp only [bracket, token, if_false, Bool.true_eq_false] at taken
    rw [← cons] at taken
    have read : ∃ token, (readToken maxNesting (operand.bytes ++
        ((Operand.itemBytes operands ++ [Utf8.encode name]).flatMap (0x20 :: ·) ++ rest))).outcome
          = .ok token := by
      split at taken
      · cases taken
      · exact ⟨_, ‹_›⟩
      · exact ⟨_, ‹_›⟩
    obtain ⟨token, token_read⟩ := read
    obtain ⟨printed, operand_printed⟩ := Option.isSome_iff_exists.1
      (isSome_printed?_of_readToken (shallow operand List.mem_cons_self) apart token_read)
    rw [readOperator_operand count (shallow operand List.mem_cons_self) operand_printed apart] at h
    obtain ⟨others, operands_read, -⟩ := map_eq_ok.1 h
    obtain ⟨others_printed, operands_printed⟩ := Option.isSome_iff_exists.1
      (ih (count + 1) (fun other member => shallow other (List.mem_cons_of_mem _ member))
        operands_read)
    rw [Operand.printedItems?, operand_printed, operands_printed]
    rfl

/-- Keys and values of an inline image can be read back if they are read. -/
theorem isSome_printedItems?_of_readImageEntries {entries : List Operand}
    (keyed : ImageEntries entries) {rest : Bytes} {result : List Operand × Bytes}
    (h : (readImageEntries ((Operand.itemBytes entries).flatMap (0x20 :: ·)
        ++ 0x20 :: 0x49 :: 0x44 :: 0x20 :: rest)).outcome = .ok result) :
    (Operand.printedItems? entries).isSome = true := by
  induction keyed generalizing result with
  | nil => rfl
  | @cons key value entries shallow following ih =>
    have ends : EndsToken ((Operand.itemBytes entries).flatMap (0x20 :: ·)
        ++ 0x20 :: 0x49 :: 0x44 :: 0x20 :: rest) := endsToken_flatMap _ (EndsToken.space _)
    obtain ⟨b, after, cons, -, -, skipped⟩ := skipBlanks_bytes value
      ((Operand.itemBytes entries).flatMap (0x20 :: ·) ++ 0x20 :: 0x49 :: 0x44 :: 0x20 :: rest)
    rw [Operand.itemBytes, Operand.itemBytes, List.flatMap_cons, List.flatMap_cons,
      List.append_assoc, List.append_assoc, List.cons_append, List.cons_append,
      readImageEntries_congr (skipBlanks_blank rfl _), Operand.bytes, nameText,
      List.cons_append, readImageEntries_outcome, skipBlanks_token rfl (by decide)] at h
    simp only at h
    rw [if_neg (by simp), if_pos trivial, readName_text key (EndsToken.space _)] at h
    simp only at h
    rw [skipBlanks_blank rfl, skipped] at h
    simp only at h
    rw [← cons, readValue_outcome] at h
    split at h
    · cases h
    · next first after value_read =>
      obtain ⟨token, token_read, same⟩ := map_eq_ok.1 value_read
      obtain ⟨printed, value_printed⟩ := Option.isSome_iff_exists.1
        (isSome_printed?_of_readToken shallow ends token_read)
      rw [readToken_bytes shallow value_printed ends] at token_read
      cases token_read
      cases same
      obtain ⟨others, entries_read, -⟩ := map_eq_ok.1 h
      obtain ⟨others_printed, entries_printed⟩ := Option.isSome_iff_exists.1 (ih entries_read)
      have key_printed : (Operand.name key).printed? = some (.name key) := rfl
      rw [Operand.printedItems?, key_printed, Operand.printedItems?, value_printed, entries_printed]
      rfl

/-- An operator as it is read can be read back if its bytes are read. -/
theorem isSome_printed?_of_readOperator {operator : Operator} {rest : Bytes}
    {result : Option (Operator × Bytes)} (readable : operator.IsReadable) (ends : EndsToken rest)
    (h : operatorOutcome (readOperator 0 (operator.bytes ++ rest)) = .ok result) :
    operator.printed?.isSome = true := by
  rw [Operator.printed?, Option.isSome_map]
  rcases readable with plain | ⟨entries, samples, rfl, keyed, data⟩
  · rw [Operator.bytes_of_name_ne plain.name_ne, readOperator_congr 0 (skipBlanks_joinTexts _ _)] at h
    exact isSome_printedItems?_of_readOperator 0 plain.shallow ends h
  · rw [Operator.bytes_image, ← readOperator_congr 0 (skipBlanks_blank (b := 0x20) rfl _),
      readOperator_word 0 isKeyword_image (endsToken_flatMap _ (EndsToken.space _)), if_pos rfl,
      if_pos rfl] at h
    obtain ⟨image, image_read, -⟩ := map_eq_ok.1 h
    rw [readImage_outcome] at image_read
    split at image_read
    · cases image_read
    · next read after entries_read =>
      obtain ⟨printed, entries_printed⟩ := Option.isSome_iff_exists.1
        (isSome_printedItems?_of_readImageEntries keyed entries_read)
      simp [Operand.printedItems?, Operand.printed?, entries_printed]

/-- A stream with an operator on each line is read to its end exactly if each operator can be read
back. -/
theorem readOperators_lines_iff {operators : List Operator}
    (readable : ∀ operator ∈ operators, operator.IsReadable) :
    (readOperators (operators.flatMap fun operator => operator.bytes ++ [0x0A])).stop = none ↔
      ∀ operator ∈ operators, operator.printed?.isSome = true := by
  induction operators with
  | nil =>
    rw [List.flatMap_nil, readOperators_blanks skipBlanks_nil]
    simp
  | cons operator operators ih =>
    have ends (rest : Bytes) : EndsToken (0x0A :: rest) := .blank rfl rest
    have first := readable operator List.mem_cons_self
    have following := ih fun other member => readable other (List.mem_cons_of_mem _ member)
    rw [List.flatMap_cons, List.append_assoc, List.singleton_append, List.forall_mem_cons]
    cases h : operator.printed? with
    | some printed =>
      rw [readOperators_eq, readOperator_bytes first h (ends _)]
      simp only
      rw [readOperators_congr (skipBlanks_blank rfl _), following]
      simp
    | none =>
      refine iff_of_false ?_ (by simp)
      rw [readOperators_eq]
      split
      · simp
      · next read =>
        have printed := isSome_printed?_of_readOperator first (ends _) read
        rw [h] at printed
        cases printed
      · next read =>
        have printed := isSome_printed?_of_readOperator first (ends _) read
        rw [h] at printed
        cases printed

/-! ## Converted streams -/

namespace Converter

variable {converter : Converter}

/-- What is written in the place of an operator can be read back if it is the operator for inks, or
if the numbers of the operator fit. -/
theorem Written.isSome_printed?_iff {operator written : Operator}
    (h : converter.Written operator written) :
    written.printed?.isSome = true ↔ (convertedName? operator.name = none →
      ∀ x ∈ Operand.realsOfItems operator.operands, x.Fits) := by
  rw [Operator.printed?, Option.isSome_map, Operand.isSome_printedItems?_iff]
  cases h with
  | deviceColor named =>
    have fits (x : Single) : (normalize x).toDouble.Fits := by
      obtain ⟨operand, read, -⟩ := ofPrinted?_normalize x
      rw [← Operand.isSome_ofPrinted?_iff, read]
      rfl
    refine iff_of_true ?_ fun unnamed => absurd (unnamed.symm.trans named) (by simp)
    simp [Operand.realsOfItems, Operand.reals, fits]
  | other named => exact ⟨fun fits _ => fits, fun fits => fits named⟩

variable (converter)

/-- A converted stream can be read exactly if no operator that is written as it was read has a number
that becomes an integer beyond 64 bits. -/
theorem exists_tokenize_convertContent_iff (limit : ℕ) {content out : Bytes}
    (h : converter.convertContent limit content = .ok out) :
    (∃ operators, tokenize out = .ok operators) ↔
      ∀ operator ∈ (readOperators content).operators, convertedName? operator.name = none →
        ∀ x ∈ Operand.realsOfItems operator.operands, x.Fits := by
  obtain ⟨written, rfl, readable, each⟩ := converter.exists_written_of_convertContent h
  have read : (∃ operators, tokenize (written.flatMap fun operator => operator.bytes ++ [0x0A])
      = .ok operators) ↔ ∀ operator ∈ written, operator.printed?.isSome = true := by
    rw [← readOperators_lines_iff readable]
    constructor
    · rintro ⟨operators, tokens⟩
      exact (tokenize_eq_ok.1 tokens).1
    · intro ended
      exact ⟨_, tokenize_eq_ok.2 ⟨ended, rfl⟩⟩
  rw [read]
  clear read readable h
  generalize (readOperators content).operators = operators at each ⊢
  induction each with
  | nil => simp
  | cons first _ ih =>
    rw [List.forall_mem_cons, List.forall_mem_cons]
    exact and_congr first.isSome_printed?_iff ih

theorem exists_tokenize_convertContent_iff_large :
    (∃ operators, tokenize (Bytes.ofLatin "0 0 0 1 k\n[-9223372036854775808] TJ\n") = .ok operators) ↔
      ∀ operator ∈ (readOperators
        (Bytes.ofLatin "10000000000000000000. g [-9223372036854775808.] TJ")).operators,
        convertedName? operator.name = none →
          ∀ x ∈ Operand.realsOfItems operator.operands, x.Fits :=
  blackInk.exists_tokenize_convertContent_iff 100 (by decide +kernel)

/-- A line width that is written as an integer beyond 64 bits. -/
theorem exists_tokenize_convertContent_ne :
    ¬∀ (converter : Converter) (limit : ℕ) (content out : Bytes),
      converter.convertContent limit content = .ok out →
        ∃ operators, tokenize out = .ok operators := by
  intro claim
  have written : blackInk.convertContent 100 (Bytes.ofLatin "10000000000000000000. w")
      = .ok (Bytes.ofLatin "10000000000000000000 w\n") := by decide +kernel
  obtain ⟨operators, tokens⟩ := claim _ _ _ _ written
  have refused : (tokenize (Bytes.ofLatin "10000000000000000000 w\n")).toOption.isSome = false := by
    decide +kernel
  rw [tokens] at refused
  cases refused

end Converter

end Preflight

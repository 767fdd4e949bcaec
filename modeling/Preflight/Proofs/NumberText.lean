import Mathlib
import Preflight.Content.Number
import Preflight.Content.Operand
import Preflight.Proofs.RoundingError

/-!
# Written numbers read back

The text of a number is a numeral: a minus sign or none, digits, and a point with digits or none.
Reading takes the numeral off again where something follows that belongs to no number. Below `2 ^ 63`
the numeral denotes a number, and the numeral of a number between 0 and 1 denotes one between 0
and 1.
-/

namespace Preflight

/-! ## Digits -/

theorem isDigit_digitByte {digit : ℕ} (h : digit < 10) : isDigit (digitByte digit) = true := by
  interval_cases digit <;> rfl

theorem toNat_digitByte {digit : ℕ} (h : digit < 10) : (digitByte digit).toNat = 0x30 + digit := by
  interval_cases digit <;> rfl

theorem decimalDigits_ne_nil (n : ℕ) : decimalDigits n ≠ [] := by
  rw [decimalDigits]
  split <;> simp

theorem isEmpty_decimalDigits (n : ℕ) : (decimalDigits n).isEmpty = false := by
  rw [List.isEmpty_eq_false_iff]
  exact decimalDigits_ne_nil n

theorem isDigit_of_mem_decimalDigits {n : ℕ} {b : UInt8} (h : b ∈ decimalDigits n) :
    isDigit b = true := by
  induction n using Nat.strong_induction_on with
  | _ n ih =>
    rw [decimalDigits] at h
    split at h
    · next small =>
      rw [List.mem_singleton] at h
      rw [h]
      exact isDigit_digitByte small
    · rcases List.mem_append.1 h with front | last
      · exact ih (n / 10) (by omega) front
      · rw [List.mem_singleton] at last
        rw [last]
        exact isDigit_digitByte (Nat.mod_lt _ (by decide))

theorem isDigit_of_mem_paddedDigits {width n : ℕ} {b : UInt8} (h : b ∈ paddedDigits width n) :
    isDigit b = true := by
  rcases List.mem_append.1 h with padding | digit
  · rw [List.eq_of_mem_replicate padding]
    rfl
  · exact isDigit_of_mem_decimalDigits digit

theorem mem_of_mem_trimZeros {digits : Bytes} {b : UInt8} (h : b ∈ trimZeros digits) :
    b ∈ digits := by
  rw [trimZeros, List.mem_reverse] at h
  exact List.mem_reverse.1 ((List.dropWhile_sublist _).mem h)

theorem digitsValue_append_singleton (digits : Bytes) (b : UInt8) :
    digitsValue (digits ++ [b]) = digitsValue digits * 10 + (b.toNat - 0x30) := by
  simp [digitsValue, List.foldl_append]

theorem digitsValue_append (front back : Bytes) :
    digitsValue (front ++ back) = digitsValue front * 10 ^ back.length + digitsValue back := by
  induction back using List.reverseRecOn with
  | nil => simp [digitsValue]
  | append_singleton back b ih =>
    rw [← List.append_assoc, digitsValue_append_singleton, ih, digitsValue_append_singleton,
      List.length_append, List.length_singleton, pow_succ]
    ring

/-- The digits of a number denote it. -/
@[simp] theorem digitsValue_decimalDigits (n : ℕ) : digitsValue (decimalDigits n) = n := by
  induction n using Nat.strong_induction_on with
  | _ n ih =>
    rw [decimalDigits]
    split
    · next small => simp [digitsValue, toNat_digitByte small]
    · rw [digitsValue_append_singleton, ih (n / 10) (by omega),
        toNat_digitByte (Nat.mod_lt _ (by decide))]
      omega

theorem digitsValue_lt {digits : Bytes} (h : ∀ b ∈ digits, isDigit b = true) :
    digitsValue digits < 10 ^ digits.length := by
  induction digits using List.reverseRecOn with
  | nil => simp [digitsValue]
  | append_singleton digits b ih =>
    have before := ih fun other member => h other (List.mem_append_left _ member)
    have digit : isDigit b = true := h b (by simp)
    simp only [isDigit, Bool.and_eq_true, decide_eq_true_eq, UInt8.le_iff_toNat_le,
      UInt8.reduceToNat] at digit
    rw [digitsValue_append_singleton, List.length_append, List.length_singleton, pow_succ]
    omega

/-! ## Where a token ends -/

/-- What follows a token: nothing, or a byte that belongs to no name. -/
def EndsToken (rest : Bytes) : Prop := ∀ b ∈ rest.head?, isRegular b = false

/-- The bytes of a class in front of a byte of another class. -/
theorem span_append {p : UInt8 → Bool} {front rest : Bytes} (all : ∀ b ∈ front, p b = true)
    (stop : ∀ b ∈ rest.head?, p b = false) :
    (front ++ rest).takeWhile p = front ∧ (front ++ rest).dropWhile p = rest := by
  have none : rest.takeWhile p = [] ∧ rest.dropWhile p = rest := by
    cases rest with
    | nil => simp
    | cons b rest => simp [stop b (by simp)]
  rw [List.takeWhile_append_of_pos all, List.dropWhile_append_of_pos all, none.1, none.2,
    List.append_nil]
  exact ⟨rfl, rfl⟩

theorem isRegular_of_isDigit {b : UInt8} (h : isDigit b = true) : isRegular b = true := by
  revert b
  decide +kernel

theorem EndsToken.not_digit {rest : Bytes} (ends : EndsToken rest) :
    ∀ b ∈ rest.head?, isDigit b = false := by
  intro b member
  by_contra digit
  have regular := isRegular_of_isDigit (eq_true_of_ne_false digit)
  rw [ends b member] at regular
  exact absurd regular Bool.false_ne_true

/-! ## Numerals -/

namespace Numeral

/-- The numerals that are written: a minus sign or none, at least one digit, and only digits after
the point. -/
structure Written (n : Numeral) : Prop where
  /-- There is no sign but the minus sign. -/
  sign : n.sign = none ∨ n.sign = some 0x2D
  /-- There is a digit before the point. -/
  whole_ne_nil : n.whole ≠ []
  /-- Only digits stand before the point. -/
  whole : ∀ b ∈ n.whole, isDigit b = true
  /-- Only digits stand after the point. -/
  places : ∀ places, n.places = some places → ∀ b ∈ places, isDigit b = true

/-- The operand that a numeral is. -/
def operand? (n : Numeral) : Option Operand :=
  match n.places with
  | some places => (n.real? places).map .real
  | none => n.integer?.map .integer

theorem readUnsigned_append {n : Numeral} (written : n.Written) {rest : Bytes}
    (ends : EndsToken rest) :
    readUnsigned n.sign (n.whole ++ n.places.elim [] (0x2E :: ·) ++ rest) = (n, rest) := by
  obtain ⟨sign, whole, places⟩ := n
  cases places with
  | none =>
    obtain ⟨taken, dropped⟩ := span_append written.whole ends.not_digit
    unfold readUnsigned
    simp only [Option.elim_none, List.append_nil, taken, dropped]
    cases rest with
    | nil => rfl
    | cons b rest =>
      have apart : (b == 0x2E) = false := by
        have other := ends b (by simp)
        rw [beq_eq_false_iff_ne]
        rintro rfl
        exact absurd other (by decide)
      simp only [apart, Bool.false_eq_true, if_false]
  | some places =>
    have point : ∀ b ∈ (0x2E :: (places ++ rest)).head?, isDigit b = false := by simp; decide
    obtain ⟨taken, dropped⟩ := span_append written.whole point
    obtain ⟨further, left⟩ := span_append (written.places places rfl) ends.not_digit
    unfold readUnsigned
    simp only [Option.elim_some, List.append_assoc, List.cons_append, taken, dropped, beq_self_eq_true,
      if_true, further, left]

/-- A written numeral is read back in front of what ends it. -/
theorem read_text_append {n : Numeral} (written : n.Written) {rest : Bytes}
    (ends : EndsToken rest) : read (n.text ++ rest) = (n, rest) := by
  have unsigned := readUnsigned_append written ends
  rw [text, List.append_assoc, List.append_assoc, ← List.append_assoc n.whole]
  rcases written.sign with none | minus
  · obtain ⟨b, whole, cons⟩ := List.exists_cons_of_ne_nil written.whole_ne_nil
    have digit : isDigit b = true := written.whole b (by simp [cons])
    rw [none, cons] at unsigned ⊢
    rw [Option.toList_none, List.nil_append, List.cons_append, List.cons_append, read, if_neg]
    · exact unsigned
    · rw [Bool.or_eq_true, beq_iff_eq, beq_iff_eq]
      rintro (rfl | rfl) <;> exact absurd digit (by decide)
  · rw [minus] at unsigned ⊢
    rw [Option.toList_some, List.singleton_append, read, if_pos (by decide)]
    exact unsigned

/-- A numeral begins with a byte of a number. -/
theorem isNumberByte_head {n : Numeral} (written : n.Written) :
    ∃ b rest, n.text = b :: rest ∧ (isDigit b = true ∨ b = 0x2D) := by
  obtain ⟨b, whole, cons⟩ := List.exists_cons_of_ne_nil written.whole_ne_nil
  have digit : isDigit b = true := written.whole b (by simp [cons])
  unfold text
  rcases written.sign with none | minus
  · exact ⟨b, _, by rw [none, cons]; rfl, Or.inl digit⟩
  · exact ⟨0x2D, _, by rw [minus]; rfl, Or.inr rfl⟩

/-- The numeral with a sign, a whole part and decimal places, of which the zeros at the end are left
out. -/
def ofParts (sign : Option UInt8) (whole : ℕ) (places : Bytes) : Numeral :=
  ⟨sign, decimalDigits whole,
    if (trimZeros places).isEmpty then none else some (trimZeros places)⟩

theorem written_ofParts {sign : Option UInt8} (whole : ℕ) {places : Bytes}
    (allowed : sign = none ∨ sign = some 0x2D) (digits : ∀ b ∈ places, isDigit b = true) :
    (ofParts sign whole places).Written where
  sign := allowed
  whole_ne_nil := decimalDigits_ne_nil whole
  whole _ := isDigit_of_mem_decimalDigits
  places kept h b member := by
    unfold ofParts at h
    simp only at h
    split at h
    · cases h
    · cases h
      exact digits b (mem_of_mem_trimZeros member)

theorem text_ofParts (sign : Option UInt8) (whole : ℕ) (places : Bytes) :
    (ofParts sign whole places).text = sign.toList ++ pointedText (decimalDigits whole) places := by
  unfold text ofParts pointedText
  simp only
  split <;> simp

theorem text_zero : (ofParts none 0 []).text = decimalDigits 0 := by
  rw [text_ofParts]
  rfl

theorem written_zero : (ofParts none 0 []).Written :=
  written_ofParts 0 (Or.inl rfl) (by simp)

/-- The numeral of an integer. -/
def ofInt (n : ℤ) : Numeral :=
  ofParts (if n < 0 then some 0x2D else none) n.natAbs []

theorem integerText_eq_text (n : ℤ) : integerText n = (ofInt n).text := by
  rw [ofInt, text_ofParts, integerText]
  split <;> rfl

theorem written_ofInt (n : ℤ) : (ofInt n).Written := by
  refine written_ofParts n.natAbs ?_ (by simp)
  split
  · exact Or.inr rfl
  · exact Or.inl rfl

/-- The numeral of a whole number denotes it. -/
theorem operand?_ofInt (value : Int64) : (ofInt value.toInt).operand? = some (.integer value) := by
  have lower := value.le_toInt
  have upper := value.toInt_lt
  have numeral : ofInt value.toInt
      = ⟨if value.toInt < 0 then some 0x2D else none, decimalDigits value.toInt.natAbs, none⟩ := rfl
  have magnitude : (if isNegative (ofInt value.toInt) then -((value.toInt.natAbs : ℕ) : ℤ)
      else (value.toInt.natAbs : ℕ)) = value.toInt := by
    rw [numeral, isNegative]
    by_cases negative : value.toInt < 0
    · simp only [negative, if_true, beq_self_eq_true]
      omega
    · have unsigned : ((none : Option UInt8) == some 0x2D) = false := rfl
      simp only [negative, if_false, unsigned, Bool.false_eq_true]
      omega
  rw [numeral] at magnitude ⊢
  unfold operand? integer?
  simp only [isEmpty_decimalDigits, digitsValue_decimalDigits, Bool.false_eq_true, if_false]
  rw [magnitude, if_pos (by omega), Int64.ofInt_toInt]
  rfl

/-- A numeral whose whole part fits 63 bits denotes a number. -/
theorem isSome_operand?_ofParts {sign : Option UInt8} {whole : ℕ} (places : Bytes)
    (h : whole < 2 ^ 63) : (ofParts sign whole places).operand?.isSome = true := by
  unfold operand? ofParts
  simp only
  split
  · next kept _ =>
    rw [Option.isSome_map, real?]
    simp [isEmpty_decimalDigits]
  · rw [Option.isSome_map, integer?]
    simp only [isEmpty_decimalDigits, digitsValue_decimalDigits, Bool.false_eq_true, if_false]
    rw [if_pos (by split <;> omega)]
    rfl

end Numeral

/-! ## The text of a number -/

/-- Half a unit more than a double below `2 ^ 63` is still rounded to one below `2 ^ 63`: the largest
such double is `2 ^ 63 - 1024`. -/
theorem Double.truncate_add_half_lt {x : Double} (nonneg : x.negative = false)
    (finite : x.isFinite = true) (h : x.toRat < 2 ^ 63) :
    (x + 0.5).truncate 18446744073709551615 < 2 ^ 63 := by
  obtain ⟨largest, beyond, -⟩ := magnitude_two_pow_63
  have bound : x.toRat ≤ 2 ^ 63 - 1024 := by
    rw [← beyond, Binary.toRat_of_nonneg nonneg] at h
    rw [← largest, Binary.toRat_of_nonneg nonneg]
    have rank := FloatFormat.double.magnitude_strictMono.lt_iff_lt.1 h
    exact FloatFormat.double.magnitude_strictMono.monotone (Nat.le_of_lt_succ rank)
  have positive := Binary.toRat_nonneg nonneg
  rw [Binary.add_eq_round nonneg half_near.nonneg finite half_near.finite, half_near.toRat_eq]
  exact (Binary.truncate_round_mono _ (by linarith) (by linarith)).trans_lt
    truncate_round_two_pow_63.1

/-- A number from 1 up with at most the rank of 1 is 1. -/
theorem Double.eq_one_of_not_lt {x : Double} (nonneg : x.negative = false)
    (rank : x.rank ≤ (1 : Double).rank) (h : ¬x < 1) : x = 1 := by
  have finite : x.isFinite = true := by
    rw [Binary.isFinite, decide_eq_true_eq]
    exact rank.trans_lt (of_decide_eq_true one_near.finite)
  rw [Binary.lt_iff finite one_near.finite, not_lt, Binary.toRat_of_nonneg nonneg,
    Binary.toRat_of_nonneg one_near.nonneg] at h
  have least := FloatFormat.double.magnitude_strictMono.le_iff_le.1 h
  exact Binary.ext (nonneg.trans one_near.nonneg.symm) (le_antisymm rank least)

theorem Double.not_lt_zero_of_nonneg {x : Double} (h : x.negative = false) : ¬x < 0 := by
  have zero : (0 : Double).rank = 0 := rfl
  show ¬x.lt 0 = true
  simp [Binary.lt, Binary.place, h, zero]

/-- What is written for a number from 0.000015 up. -/
theorem magnitudeText_eq_pointedText (x : Double) :
    ∃ whole places, magnitudeText x = pointedText (decimalDigits whole) places ∧
      (∀ b ∈ places, isDigit b = true) ∧
      (x < 1 → whole = 0 ∨ whole = 1 ∧ places = []) ∧
      (x.negative = false → x.isFinite = true → x.toRat < 2 ^ 63 → whole < 2 ^ 63) := by
  have alone (n : ℕ) : decimalDigits n = pointedText (decimalDigits n) [] := rfl
  unfold magnitudeText
  simp only
  split
  · split
    · exact ⟨1, [], alone 1, by simp, fun _ => Or.inr ⟨rfl, rfl⟩, fun _ _ _ => by norm_num⟩
    · exact ⟨0, _, rfl, fun _ => isDigit_of_mem_paddedDigits, fun _ => Or.inl rfl,
        fun _ _ _ => by norm_num⟩
  · next large =>
    split
    · refine ⟨_, _, rfl, fun _ => isDigit_of_mem_paddedDigits, fun small => absurd small large,
        fun _ _ _ => ?_⟩
      have scaled := Binary.truncate_le 18446744073709551615 ((x + 0.005) * 100)
      omega
    · exact ⟨_, [], alone _, by simp, fun small => absurd small large,
        fun nonneg finite h => Double.truncate_add_half_lt nonneg finite h⟩

/-- The text of a number is a written numeral. -/
theorem numberText_eq_text (x : Double) :
    ∃ sign whole places, numberText x = (Numeral.ofParts sign whole places).text ∧
      (Numeral.ofParts sign whole places).Written ∧
      (x.isFinite = true → |x.toRat| < 2 ^ 63 → whole < 2 ^ 63) := by
  unfold numberText
  split
  · exact ⟨none, 0, [], Numeral.text_zero.symm, Numeral.written_zero, fun _ _ => by norm_num⟩
  split
  · exact ⟨none, 0, [], Numeral.text_zero.symm, Numeral.written_zero, fun _ _ => by norm_num⟩
  obtain ⟨whole, places, text, digits, -, bound⟩ := magnitudeText_eq_pointedText x.abs
  have small (finite : x.isFinite = true) (h : |x.toRat| < 2 ^ 63) : whole < 2 ^ 63 := by
    rw [← Binary.toRat_abs] at h
    exact bound rfl finite h
  split
  · refine ⟨some 0x2D, whole, places, ?_, Numeral.written_ofParts whole (Or.inr rfl) digits, small⟩
    rw [Numeral.text_ofParts, text]
    rfl
  · refine ⟨none, whole, places, ?_, Numeral.written_ofParts whole (Or.inl rfl) digits, small⟩
    rw [Numeral.text_ofParts, text]
    rfl

/-! ## Numbers between 0 and 1 -/

theorem Numeral.operand?_zero : (ofParts none 0 []).operand? = some (.integer 0) := by cbv

theorem Numeral.operand?_one : (ofParts none 1 []).operand? = some (.integer 1) := by cbv

/-- A numeral that is 1 or begins with 0 before the point denotes a number between 0 and 1. -/
theorem Numeral.operand?_mem_unit {whole : ℕ} {places : Bytes}
    (digits : ∀ b ∈ places, isDigit b = true) (h : whole = 0 ∨ whole = 1 ∧ places = []) :
    ∃ operand number, (Numeral.ofParts none whole places).operand? = some operand ∧
      operand.number? = some number ∧ 0 ≤ number ∧ number ≤ 1 := by
  by_cases empty : (trimZeros places).isEmpty = true
  · have numeral : Numeral.ofParts none whole places = ⟨none, decimalDigits whole, none⟩ := by
      rw [Numeral.ofParts, if_pos empty]
    rw [numeral]
    have zero := Double.zero_near
    have one := Double.one_near
    rcases h with rfl | ⟨rfl, -⟩
    · exact ⟨.integer 0, 0, Numeral.operand?_zero, rfl, (Binary.le_iff zero.finite zero.finite).2 le_rfl,
        (Binary.le_iff zero.finite one.finite).2 (by rw [zero.toRat_eq, one.toRat_eq]; norm_num)⟩
    · exact ⟨.integer 1, 1, Numeral.operand?_one, rfl,
        (Binary.le_iff zero.finite one.finite).2 (by rw [zero.toRat_eq, one.toRat_eq]; norm_num),
        (Binary.le_iff one.finite one.finite).2 le_rfl⟩
  · have whole_zero : whole = 0 := by
      rcases h with rfl | ⟨-, rfl⟩
      · rfl
      · exact absurd rfl empty
    have kept : ∀ b ∈ trimZeros places, isDigit b = true := fun b member =>
      digits b (mem_of_mem_trimZeros member)
    have value : (digitsValue (decimalDigits 0 ++ trimZeros places) : ℚ)
        ≤ 10 ^ (trimZeros places).length := by
      rw [digitsValue_append, digitsValue_decimalDigits, Nat.zero_mul, Nat.zero_add]
      exact_mod_cast (digitsValue_lt kept).le
    refine ⟨.real _, _, ?_, rfl, Double.round_mem_unit (q := (digitsValue (decimalDigits 0 ++
      trimZeros places) : ℚ) / 10 ^ (trimZeros places).length) (by positivity) ?_⟩
    · rw [Numeral.ofParts, if_neg empty, whole_zero]
      simp [Numeral.operand?, Numeral.real?, Numeral.isNegative, isEmpty_decimalDigits]
    · rw [div_le_one (by positivity)]
      exact value

/-- The text of a number between 0 and 1 denotes such a number. -/
theorem numberText_mem_unit {x : Double} (nonneg : x.negative = false)
    (rank : x.rank ≤ (1 : Double).rank) :
    ∃ n : Numeral, numberText x = n.text ∧ n.Written ∧ ∃ operand number,
      n.operand? = some operand ∧ operand.number? = some number ∧ 0 ≤ number ∧ number ≤ 1 := by
  have plain (whole : ℕ) (places : Bytes) (digits : ∀ b ∈ places, isDigit b = true)
      (h : whole = 0 ∨ whole = 1 ∧ places = []) :
      ∃ n : Numeral, pointedText (decimalDigits whole) places = n.text ∧ n.Written ∧
        ∃ operand number, n.operand? = some operand ∧ operand.number? = some number ∧
          0 ≤ number ∧ number ≤ 1 :=
    ⟨_, (Numeral.text_ofParts none whole places).symm,
      Numeral.written_ofParts whole (Or.inl rfl) digits, Numeral.operand?_mem_unit digits h⟩
  by_cases small : x < 1
  · unfold numberText
    split
    · exact plain 0 [] (by simp) (Or.inl rfl)
    split
    · exact plain 0 [] (by simp) (Or.inl rfl)
    have same : x.abs = x := Binary.ext nonneg.symm rfl
    rw [if_neg (Double.not_lt_zero_of_nonneg nonneg), same]
    obtain ⟨whole, places, text, digits, unit, -⟩ := magnitudeText_eq_pointedText x
    rw [text]
    exact plain whole places digits (unit small)
  · rw [Double.eq_one_of_not_lt nonneg rank small,
      show numberText 1 = pointedText (decimalDigits 1) [] by decide +kernel]
    exact plain 1 [] (by simp) (Or.inr ⟨rfl, rfl⟩)

end Preflight

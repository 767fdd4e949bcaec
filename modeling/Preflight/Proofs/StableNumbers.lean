import Mathlib
import Preflight.Proofs.PrintedOperands
import Preflight.Proofs.RoundingError

/-!
# Numbers written twice

The numerals that are written have four forms: zero, a whole number, hundred-thousandths below 1, and
hundredths from 1 up. The number that such a numeral denotes lies so near to its exact value that it
is written with the same numeral again, also after it was narrowed to a single where it is the
component of a color.
-/

namespace Preflight

/-! ## Digits -/

theorem length_decimalDigits_le {n width : ℕ} (pos : 0 < width) (h : n < 10 ^ width) :
    (decimalDigits n).length ≤ width := by
  induction n using Nat.strong_induction_on generalizing width with
  | _ n ih =>
    rw [decimalDigits]
    split
    · exact pos
    · next large =>
      obtain ⟨width, rfl⟩ := Nat.exists_eq_add_of_le' pos
      have wide : 0 < width := by
        by_contra none
        have zero : width = 0 := by omega
        rw [zero, Nat.zero_add, Nat.pow_one] at h
        omega
      have quotient : n / 10 < 10 ^ width := by
        rw [Nat.div_lt_iff_lt_mul (by norm_num), ← Nat.pow_succ]
        exact h
      have front := ih (n / 10) (by omega) wide quotient
      rw [List.length_append, List.length_singleton]
      omega

theorem length_paddedDigits {width n : ℕ} (pos : 0 < width) (h : n < 10 ^ width) :
    (paddedDigits width n).length = width := by
  have digits := length_decimalDigits_le pos h
  unfold paddedDigits
  simp only
  rw [List.length_append, List.length_replicate]
  omega

theorem digitsValue_replicate_zero (count : ℕ) : digitsValue (List.replicate count 0x30) = 0 := by
  induction count with
  | zero => rfl
  | succ count ih => rw [List.replicate_succ', digitsValue_append_singleton, ih]; rfl

/-- Zeros in front do not change what digits denote. -/
theorem digitsValue_paddedDigits (width n : ℕ) : digitsValue (paddedDigits width n) = n := by
  unfold paddedDigits
  simp only
  rw [digitsValue_append, digitsValue_replicate_zero, digitsValue_decimalDigits, Nat.zero_mul,
    Nat.zero_add]

/-- Digits are what is left of them without the zeros at the end, and those zeros. -/
theorem exists_trimZeros (digits : Bytes) :
    ∃ count, digits = trimZeros digits ++ List.replicate count 0x30 := by
  refine ⟨(digits.reverse.takeWhile (· == 0x30)).length, ?_⟩
  have zeros : digits.reverse.takeWhile (· == 0x30)
      = List.replicate (digits.reverse.takeWhile (· == 0x30)).length 0x30 := by
    refine List.eq_replicate_iff.2 ⟨rfl, fun b member => ?_⟩
    have zero := List.mem_takeWhile_imp (p := (· == 0x30)) member
    exact eq_of_beq zero
  have split := List.takeWhile_append_dropWhile (p := (· == 0x30)) (l := digits.reverse)
  have reversed := congrArg List.reverse split
  rw [List.reverse_append, List.reverse_reverse, zeros, List.reverse_replicate] at reversed
  exact reversed.symm

/-- Places that are not all zeros are not left out. -/
theorem trimZeros_ne_nil {places : Bytes} (h : digitsValue places ≠ 0) : trimZeros places ≠ [] := by
  intro none
  obtain ⟨count, split⟩ := exists_trimZeros places
  rw [split, none, List.nil_append, digitsValue_replicate_zero] at h
  exact h rfl

/-- Zeros at the end of the decimal places do not change the value. -/
theorem digitsValue_trimZeros (whole places : Bytes) :
    (digitsValue (whole ++ trimZeros places) : ℚ) / 10 ^ (trimZeros places).length
      = digitsValue (whole ++ places) / 10 ^ places.length := by
  obtain ⟨count, split⟩ := exists_trimZeros places
  have value : digitsValue (whole ++ places)
      = digitsValue (whole ++ trimZeros places) * 10 ^ count := by
    rw [split, ← List.append_assoc, digitsValue_append (whole ++ trimZeros _),
      digitsValue_replicate_zero, List.length_replicate, Nat.add_zero, ← split]
  have length : places.length = (trimZeros places).length + count := by
    have := congrArg List.length split
    rw [List.length_append, List.length_replicate] at this
    exact this
  rw [value, length, pow_add]
  push_cast
  field_simp

/-! ## The forms of written numerals -/

namespace Numeral

/-- The sign of a written numeral. -/
def minusIf (negative : Bool) : Option UInt8 := if negative then some 0x2D else none

/-- A numeral with such a sign can be written. -/
theorem written_minusIf (negative : Bool) (whole : ℕ) {places : Bytes}
    (digits : ∀ b ∈ places, isDigit b = true) :
    (ofParts (minusIf negative) whole places).Written := by
  refine written_ofParts whole ?_ digits
  cases negative
  · exact Or.inl rfl
  · exact Or.inr rfl

/-- The numerals with which numbers are written. -/
inductive Compact : Numeral → Prop where
  | zero : Compact (ofParts none 0 [])
  | whole (negative : Bool) {n : ℕ} (pos : 0 < n) : Compact (ofParts (minusIf negative) n [])
  /-- Hundred-thousandths below 1. -/
  | small (negative : Bool) {k : ℕ} (lower : 2 ≤ k) (upper : k < 100000) :
      Compact (ofParts (minusIf negative) 0 (paddedDigits 5 k))
  /-- Hundredths from 1 up. -/
  | hundredths (negative : Bool) {k : ℕ} (lower : 100 ≤ k) (upper : k ≤ 3276700) :
      Compact (ofParts (minusIf negative) (k / 100) (paddedDigits 2 (k % 100)))

theorem Compact.written {n : Numeral} (compact : n.Compact) : n.Written := by
  cases compact with
  | zero => exact written_minusIf false 0 (by simp)
  | whole negative => exact written_minusIf negative _ (by simp)
  | small negative => exact written_minusIf negative 0 fun _ => isDigit_of_mem_paddedDigits
  | hundredths negative => exact written_minusIf negative _ fun _ => isDigit_of_mem_paddedDigits

/-- The operand of a numeral with a decimal place that is not zero is the double nearest to `k` units
of the last place. -/
theorem operand?_ofParts (negative : Bool) {whole width k : ℕ} {places : Bytes}
    (length : places.length = width) (fraction : digitsValue places ≠ 0)
    (units : whole * 10 ^ width + digitsValue places = k) :
    (ofParts (minusIf negative) whole places).operand?
      = some (.real (Binary.round negative
        (if negative then -(k / 10 ^ width : ℚ) else (k / 10 ^ width : ℚ)))) := by
  have kept : (trimZeros places).isEmpty = false :=
    List.isEmpty_eq_false_iff.2 (trimZeros_ne_nil fraction)
  have sign : isNegative ⟨minusIf negative, decimalDigits whole, some (trimZeros places)⟩
      = negative := by
    cases negative <;> rfl
  have value : (digitsValue (decimalDigits whole ++ trimZeros places) : ℚ)
      / 10 ^ (trimZeros places).length = (k / 10 ^ width : ℚ) := by
    rw [digitsValue_trimZeros, digitsValue_append, digitsValue_decimalDigits, length, units]
  unfold ofParts operand? real?
  simp only [kept, Bool.false_eq_true, if_false, isEmpty_decimalDigits, Bool.false_and, sign, value]
  rfl

end Numeral

/-! ## What is written for a number near a decimal -/

namespace Double

/-- The bounds at which another form begins, for the exact value. -/
theorem lt_one_iff {x : Double} (finite : x.isFinite = true) : x < 1 ↔ x.toRat < 1 := by
  rw [Binary.lt_iff finite one_near.finite, one_near.toRat_eq]

theorem le_32767_iff {x : Double} (finite : x.isFinite = true) : x ≤ 32767 ↔ x.toRat ≤ 32767 := by
  rw [Binary.le_iff finite hundredthsLimit_near.finite, hundredthsLimit_near.toRat_eq]

/-- A number from 16 millionths up is not written as zero. -/
theorem not_lt_zeroLimit {x : Double} (finite : x.isFinite = true) (h : 16 / 10 ^ 6 ≤ x.toRat) :
    ¬x < 0.000015 := by
  rw [Binary.lt_iff finite zeroLimit_near.finite, not_lt]
  exact zeroLimit_near.toRat_le.trans (le_trans (by norm_num) h)

/-- A number below 1 and half a unit. -/
theorem raised_near {x : Double} {q ε : ℚ} (near : x.Near q ε) (h : q + ε ≤ 1) :
    (x + 0.000005).Near (q + 5 / 10 ^ 6) (ε + 1 / 10 ^ 15) := by
  have raised := near.add halfHundredThousandth_near (e := 1) (by norm_num; linarith)
    (FloatFormat.spans_of_le (by norm_num) (by norm_num)).2
  refine raised.mono ?_
  norm_num [FloatFormat.double]
  linarith

/-- The scaled value of a number below 1 and half a unit. -/
theorem scaled_near {x : Double} {q ε : ℚ} (near : x.Near q ε) (h : q + ε ≤ 1) :
    ((x + 0.000005) * 100000).Near ((q + 5 / 10 ^ 6) * 100000) (ε * 100000 + 1 / 10 ^ 9) := by
  have scaled := (raised_near near h).mul hundredThousand_near (e := 17) (by norm_num; linarith)
    (FloatFormat.spans_of_le (by norm_num) (by norm_num)).2
  refine scaled.mono ?_
  norm_num [FloatFormat.double]
  linarith

/-- A number up to 32768 and half a hundredth. -/
theorem raisedHundredth_near {x : Double} {q ε : ℚ} (near : x.Near q ε) (h : q + ε ≤ 32768) :
    (x + 0.005).Near (q + 5 / 10 ^ 3) (ε + 1 / 10 ^ 10) := by
  have raised := near.add halfHundredth_near (e := 16) (by norm_num; linarith)
    (FloatFormat.spans_of_le (by norm_num) (by norm_num)).2
  refine raised.mono ?_
  norm_num [FloatFormat.double]
  linarith

/-- The value of a number up to 32768 and half a hundredth, in hundredths. -/
theorem scaledHundredths_near {x : Double} {q ε : ℚ} (near : x.Near q ε)
    (h : q + ε ≤ 32768) :
    ((x + 0.005) * 100).Near ((q + 5 / 10 ^ 3) * 100) (ε * 100 + 1 / 10 ^ 5) := by
  have scaled := (raisedHundredth_near near h).mul hundred_near (e := 22) (by norm_num; linarith)
    (FloatFormat.spans_of_le (by norm_num) (by norm_num)).2
  refine scaled.mono ?_
  norm_num [FloatFormat.double]
  linarith

/-- A number near hundred-thousandths below 1 is written with them. -/
theorem magnitudeText_small {x : Double} {k : ℕ} (near : x.Near (k / 10 ^ 5) (1 / 10 ^ 7))
    (lower : 2 ≤ k) (upper : k < 100000) :
    ¬x < 0.000015 ∧ magnitudeText x = pointedText (decimalDigits 0) (paddedDigits 5 k) := by
  have least : (2 : ℚ) ≤ k := by exact_mod_cast lower
  have most : (k : ℚ) ≤ 99999 := by exact_mod_cast Nat.le_of_lt_succ upper
  have unit : (k : ℚ) / 10 ^ 5 + 1 / 10 ^ 7 < 1 := by linarith
  have large : ¬x < 0.000015 :=
    not_lt_zeroLimit near.finite (le_trans (by linarith) near.le_toRat)
  have below : x < 1 := (lt_one_iff near.finite).2 (near.toRat_le.trans_lt unit)
  have raised := raised_near near unit.le
  have not_one : ¬(1 : Double) ≤ x + 0.000005 := by
    rw [Binary.le_iff one_near.finite raised.finite, one_near.toRat_eq, not_le]
    exact raised.toRat_le.trans_lt (by linarith)
  have scaled : ((x + 0.000005) * 100000).truncate 4294967295 = k :=
    (scaled_near near unit.le).truncate_eq (by linarith) (by linarith) (by omega)
  refine ⟨large, ?_⟩
  unfold magnitudeText
  simp only
  rw [if_pos below, if_neg not_one, scaled]

/-- A number near hundredths from 1 up is written with them. -/
theorem magnitudeText_hundredths {x : Double} {k : ℕ} (near : x.Near (k / 10 ^ 2) (1 / 10 ^ 4))
    (lower : 100 < k) (upper : k < 3276700) :
    ¬x < 0.000015 ∧
      magnitudeText x = pointedText (decimalDigits (k / 100)) (paddedDigits 2 (k % 100)) := by
  have least : (101 : ℚ) ≤ k := by exact_mod_cast lower
  have most : (k : ℚ) ≤ 3276699 := by exact_mod_cast Nat.le_of_lt_succ upper
  have large : ¬x < 0.000015 :=
    not_lt_zeroLimit near.finite (le_trans (by linarith) near.le_toRat)
  have not_small : ¬x < 1 := by
    rw [lt_one_iff near.finite, not_lt]
    exact le_trans (by linarith) near.le_toRat
  have within : x ≤ 32767 := (le_32767_iff near.finite).2 (near.toRat_le.trans (by linarith))
  have scaled : ((x + 0.005) * 100).truncate 18446744073709551615 = k :=
    (scaledHundredths_near near (by linarith)).truncate_eq (by linarith) (by linarith) (by omega)
  refine ⟨large, ?_⟩
  unfold magnitudeText
  simp only
  rw [if_neg not_small, if_pos within, scaled]

/-! ## The forms in which numbers are written -/

/-- The largest double below 1. -/
def belowOne : Double := Binary.ofRank false ((1 : Double).rank - 1)

theorem rank_belowOne : belowOne.rank = (1 : Double).rank - 1 := by
  have finite : (1 : Double).rank < FloatFormat.double.infinityRank := of_decide_eq_true one_near.finite
  exact Binary.rank_ofRank _ (by omega)

theorem belowOne_near : belowOne.Near belowOne.toRat 0 := by
  refine .self rfl ?_
  have finite : (1 : Double).rank < FloatFormat.double.infinityRank := of_decide_eq_true one_near.finite
  rw [Binary.isFinite, decide_eq_true_eq, rank_belowOne]
  omega

theorem toRat_belowOne_le : belowOne.toRat ≤ 1 := by
  rw [← one_near.toRat_eq, Binary.toRat_of_nonneg rfl, Binary.toRat_of_nonneg one_near.nonneg]
  refine FloatFormat.double.magnitude_strictMono.monotone ?_
  rw [rank_belowOne]
  exact Nat.sub_le _ 1

theorem le_toRat_belowOne {x : Double} (nonneg : x.negative = false) (h : x.toRat < 1) :
    x.toRat ≤ belowOne.toRat := by
  rw [← one_near.toRat_eq, Binary.toRat_of_nonneg nonneg, Binary.toRat_of_nonneg one_near.nonneg] at h
  have rank := FloatFormat.double.magnitude_strictMono.lt_iff_lt.1 h
  rw [Binary.toRat_of_nonneg nonneg, Binary.toRat_of_nonneg rfl]
  refine FloatFormat.double.magnitude_strictMono.monotone ?_
  rw [rank_belowOne]
  omega

/-- The scaled values of the smallest number that is not written as zero and of the largest one that
half a unit does not raise to 1. -/
theorem truncate_scaled_ends :
    2 ≤ (((0.000015 : Double) + 0.000005) * 100000).truncate 4294967295 ∧
      (belowOne * 100000).truncate 4294967295 < 100000 := by
  decide +kernel

/-- The scaled value of a number below 1 that is not written as zero, and does not reach 1 by half a
unit, lies from 2 to 99999: rounding keeps the order, and at both ends the value is known. -/
theorem truncate_scaled_bounds {x : Double} (nonneg : x.negative = false)
    (large : ¬x < 0.000015) (below : x < 1) (not_one : ¬(1 : Double) ≤ x + 0.000005)
    (finite : x.isFinite = true) :
    2 ≤ ((x + 0.000005) * 100000).truncate 4294967295 ∧
      ((x + 0.000005) * 100000).truncate 4294967295 < 100000 := by
  have near := Binary.Near.self nonneg finite
  have small : x.toRat < 1 := (lt_one_iff finite).1 below
  have raised := raised_near near (by linarith)
  have scaled := scaled_near near (by linarith)
  obtain ⟨lower, upper⟩ := truncate_scaled_ends
  constructor
  · have least : (0.000015 : Double).toRat ≤ x.toRat := by
      rw [Binary.lt_iff finite zeroLimit_near.finite, not_lt] at large
      exact large
    have limit_raised := raised_near zeroLimit_near (by norm_num)
    have limit_scaled := scaled_near zeroLimit_near (by norm_num)
    have sum := zeroLimit_near.toRat_add_mono near halfHundredThousandth_near least
    have product := limit_raised.toRat_mul_mono raised hundredThousand_near sum
    exact lower.trans (limit_scaled.truncate_mono _ scaled product)
  · have most : (x + 0.000005).toRat ≤ belowOne.toRat := by
      rw [Binary.le_iff one_near.finite raised.finite, one_near.toRat_eq, not_le] at not_one
      exact le_toRat_belowOne raised.nonneg not_one
    have last := belowOne_near
    have last_scaled := last.mul hundredThousand_near (e := 17)
      (by norm_num; linarith [toRat_belowOne_le])
      (FloatFormat.spans_of_le (by norm_num) (by norm_num)).2
    have product := raised.toRat_mul_mono last hundredThousand_near most
    exact (scaled.truncate_mono _ last_scaled product).trans_lt upper

/-- The whole part of what a number from 1 up is rounded to is not zero. -/
theorem truncate_round_pos {q : ℚ} {limit : ℕ} (h : 1 ≤ q) (large : 1 < limit) :
    0 < (Binary.round false q : Double).truncate limit := by
  have unit : (Binary.round false 1 : Double).truncate limit = 1 := by
    rw [round_one]
    exact one_near.truncate_eq (by norm_num) (by norm_num) large
  have whole := Binary.truncate_round_mono (f := .double) limit zero_le_one h
  omega

/-- The decimal with which a number without sign is written. -/
def decimal (x : Double) : ℚ :=
  if x < 0.000015 then 0
  else if x < 1 then
    if (1 : Double) ≤ x + 0.000005 then 1
    else ((x + 0.000005) * 100000).truncate 4294967295 / 10 ^ 5
  else if x ≤ 32767 then ((x + 0.005) * 100).truncate 18446744073709551615 / 10 ^ 2
  else (x + 0.5).truncate 18446744073709551615

/-- A number below 1 that is not written as zero is written as 1 or with hundred-thousandths. -/
theorem magnitudeText_of_lt_one {x : Double} (nonneg : x.negative = false)
    (finite : x.isFinite = true) (large : ¬x < 0.000015) (below : x < 1) :
    magnitudeText x = pointedText (decimalDigits 1) [] ∧ x.decimal = 1 ∨
      ∃ k : ℕ, 2 ≤ k ∧ k < 100000 ∧
        magnitudeText x = pointedText (decimalDigits 0) (paddedDigits 5 k) ∧
        x.decimal = k / 10 ^ 5 := by
  unfold magnitudeText decimal
  by_cases one : (1 : Double) ≤ x + 0.000005
  · left
    simp only [large, below, one, if_true, if_false, and_true]
    rfl
  · right
    obtain ⟨lower, upper⟩ := truncate_scaled_bounds nonneg large below one finite
    refine ⟨_, lower, upper, ?_⟩
    simp only [large, below, one, if_true, if_false, and_true]

/-- A number from 1 up is not written as zero. -/
theorem not_lt_zeroLimit_of_one_le {x : Double} (finite : x.isFinite = true) (h : 1 ≤ x.toRat) :
    ¬x < 0.000015 :=
  not_lt_zeroLimit finite (le_trans (by norm_num) h)

/-- A number from 1 to 32767 is written with hundredths. -/
theorem magnitudeText_of_le {x : Double} (nonneg : x.negative = false)
    (finite : x.isFinite = true) (at_least : 1 ≤ x.toRat) (at_most : x.toRat ≤ 32767) :
    ∃ k : ℕ, 100 ≤ k ∧ k ≤ 3276700 ∧
      magnitudeText x = pointedText (decimalDigits (k / 100)) (paddedDigits 2 (k % 100)) ∧
      x.decimal = k / 10 ^ 2 := by
  have large := not_lt_zeroLimit_of_one_le finite at_least
  have not_small : ¬x < 1 := by
    rw [lt_one_iff finite, not_lt]
    exact at_least
  have within : x ≤ 32767 := (le_32767_iff finite).2 at_most
  have near := scaledHundredths_near (Binary.Near.self nonneg finite) (by linarith)
  obtain ⟨lower, upper⟩ : 100 ≤ ((x + 0.005) * 100).truncate 18446744073709551615 ∧
      ((x + 0.005) * 100).truncate 18446744073709551615 ≤ 3276700 :=
    near.truncate_bounds (by norm_num; linarith) (by norm_num; linarith) (by norm_num)
  refine ⟨_, lower, upper, ?_⟩
  unfold magnitudeText decimal
  simp only [large, not_small, within, if_true, if_false, and_true]

/-- A number beyond 32767 is written as the whole number to which it is rounded. -/
theorem magnitudeText_of_gt {x : Double} (nonneg : x.negative = false)
    (finite : x.isFinite = true) (above : 32767 < x.toRat) :
    0 < (x + 0.5).truncate 18446744073709551615 ∧
      magnitudeText x
        = pointedText (decimalDigits ((x + 0.5).truncate 18446744073709551615)) [] ∧
      x.decimal = (x + 0.5).truncate 18446744073709551615 := by
  have large := not_lt_zeroLimit_of_one_le finite (by linarith)
  have not_small : ¬x < 1 := by
    rw [lt_one_iff finite, not_lt]
    linarith
  have beyond : ¬x ≤ 32767 := by
    rw [le_32767_iff finite, not_le]
    exact above
  have pos : 0 < (x + 0.5).truncate 18446744073709551615 := by
    rw [Binary.add_eq_round nonneg half_near.nonneg finite half_near.finite, half_near.toRat_eq]
    exact truncate_round_pos (by linarith) (by norm_num)
  refine ⟨pos, ?_⟩
  unfold magnitudeText decimal
  simp only [large, not_small, beyond, if_false, and_true]
  rfl

/-- A number that is not written as zero is written with a numeral of one of the other forms. -/
theorem magnitudeText_compact {x : Double} (nonneg : x.negative = false)
    (finite : x.isFinite = true) (large : ¬x < 0.000015) (negative : Bool) :
    ∃ n : Numeral, n.Compact ∧ (Numeral.minusIf negative).toList ++ magnitudeText x = n.text := by
  by_cases below : x < 1
  · rcases magnitudeText_of_lt_one nonneg finite large below with ⟨unit, -⟩ | ⟨k, lower, upper, small, -⟩
    · rw [unit, ← Numeral.text_ofParts]
      exact ⟨_, .whole negative one_pos, rfl⟩
    · rw [small, ← Numeral.text_ofParts]
      exact ⟨_, .small negative lower upper, rfl⟩
  rw [lt_one_iff finite, not_lt] at below
  rcases le_or_gt x.toRat 32767 with within | beyond
  · obtain ⟨k, lower, upper, hundredths, -⟩ := magnitudeText_of_le nonneg finite below within
    rw [hundredths, ← Numeral.text_ofParts]
    exact ⟨_, .hundredths negative lower upper, rfl⟩
  · obtain ⟨pos, whole, -⟩ := magnitudeText_of_gt nonneg finite beyond
    rw [whole, ← Numeral.text_ofParts]
    exact ⟨_, .whole negative pos, rfl⟩

end Double

namespace Binary

variable {f : FloatFormat} {x : Binary f}

theorem abs_of_nonneg (h : x.negative = false) : x.abs = x :=
  Binary.ext h.symm rfl

theorem toRat_neg (x : Binary f) : x.neg.toRat = -x.toRat := by
  unfold toRat neg
  cases x.negative <;> simp

/-- Rounding does not depend on the sign. -/
theorem round_neg {q : ℚ} (pos : 0 < q) :
    (round true (-q) : Binary f) = (round false q : Binary f).neg := by
  unfold round
  rw [if_pos (neg_neg_iff_pos.2 pos), if_neg pos.le.not_gt, if_neg pos.ne', neg_neg]
  rfl

end Binary

/-- Every number is written with a numeral of one of the four forms. -/
theorem numberText_compact (x : Double) : ∃ n : Numeral, n.Compact ∧ numberText x = n.text := by
  unfold numberText
  split
  · exact ⟨_, .zero, Numeral.text_zero.symm⟩
  next finite =>
  have finite_abs : x.abs.isFinite = true := by
    have same : x.isFinite = true := by simpa using finite
    exact same
  split
  · exact ⟨_, .zero, Numeral.text_zero.symm⟩
  next large =>
  split
  · exact Double.magnitudeText_compact rfl finite_abs large true
  · exact Double.magnitudeText_compact rfl finite_abs large false

/-- What is written for a rounded number that is not written as zero. -/
theorem numberText_round {q : ℚ} (pos : 0 < q)
    (finite : (Binary.round false q : Double).isFinite = true)
    (large : ¬(Binary.round false q : Double) < 0.000015) (negative : Bool) :
    numberText (Binary.round negative (if negative then -q else q))
      = (Numeral.minusIf negative).toList ++ magnitudeText (Binary.round false q) := by
  have nonneg : (Binary.round false q : Double).negative = false := Binary.negative_round pos.le
  cases negative with
  | false =>
    have above := Double.not_lt_zero_of_nonneg nonneg
    unfold numberText
    simp only [Bool.false_eq_true, if_false, Binary.abs_of_nonneg nonneg, finite, Bool.not_true, large,
      above]
    rfl
  | true =>
    have finite_neg : (Binary.round false q : Double).neg.isFinite = true := finite
    have abs : (Binary.round false q : Double).neg.abs = Binary.round false q :=
      Binary.ext nonneg.symm rfl
    have below : (Binary.round false q : Double).neg < 0 := by
      have threshold : 0 < (0.000015 : Double).toRat :=
        lt_of_lt_of_le (by norm_num) Double.zeroLimit_near.le_toRat
      rw [Binary.lt_iff finite Double.zeroLimit_near.finite, not_lt] at large
      rw [Binary.lt_iff finite_neg Double.zero_near.finite, Binary.toRat_neg,
        Double.zero_near.toRat_eq]
      linarith
    simp only [if_true]
    rw [Binary.round_neg pos]
    unfold numberText
    simp only [finite_neg, Bool.not_true, Bool.false_eq_true, if_false, abs, large, below, if_true]
    rfl

/-! ## Numbers that are read and written again -/

/-- The operand of a numeral without decimal places, which is there only if the integer fits. -/
theorem Numeral.operand?_ofParts_nil (negative : Bool) (n : ℕ) {value : ℤ}
    (h : value = if negative then -(n : ℤ) else (n : ℤ)) :
    (ofParts (minusIf negative) n []).operand?
      = if -9223372036854775808 ≤ value ∧ value ≤ 9223372036854775807
        then some (.integer (Int64.ofInt value)) else none := by
  have sign : isNegative ⟨minusIf negative, decimalDigits n, none⟩ = negative := by
    cases negative <;> rfl
  unfold operand? integer? ofParts
  simp only [trimZeros, List.reverse_nil, List.dropWhile_nil, List.isEmpty_nil, if_true, sign,
    isEmpty_decimalDigits, digitsValue_decimalDigits, Bool.false_eq_true, if_false, ← h]
  split <;> rfl

/-- An integer that fits is written with the numeral that denotes it. -/
theorem integerText_of_operand? (negative : Bool) {n : ℕ} {operand : Operand}
    (h : negative = true → 0 < n)
    (denoted : (Numeral.ofParts (Numeral.minusIf negative) n []).operand? = some operand) :
    operand.bytes = (Numeral.ofParts (Numeral.minusIf negative) n []).text := by
  set value : ℤ := if negative then -(n : ℤ) else (n : ℤ) with value_eq
  rw [Numeral.operand?_ofParts_nil negative n value_eq, Option.ite_none_right_eq_some] at denoted
  obtain ⟨⟨lower, upper⟩, same⟩ := denoted
  have kept : (Int64.ofInt value).toInt = value :=
    Int64.toInt_ofInt_of_le (by norm_num; exact lower) (by norm_num; omega)
  rw [← Option.some.inj same, Operand.bytes, kept, Numeral.text_ofParts]
  unfold integerText
  cases negative with
  | false =>
    have above : ¬(n : ℤ) < 0 := by omega
    rw [value_eq]
    simp only [Bool.false_eq_true, if_false, above, Int.natAbs_natCast]
    rfl
  | true =>
    have pos := h rfl
    have below : -(n : ℤ) < 0 := by omega
    rw [value_eq]
    simp only [if_true, below, Int.natAbs_neg, Int.natAbs_natCast]
    rfl

/-- A double that is rounded from a value below a power of two is near it. -/
theorem Double.round_near {q : ℚ} (nonneg : 0 ≤ q) (h : q < 2 ^ (16 : ℤ)) :
    (Binary.round false q : Double).Near q (1 / 10 ^ 10) := by
  refine (Binary.Near.round (e := 16) nonneg h
    (FloatFormat.spans_of_le (by norm_num) (by norm_num)).2).mono ?_
  norm_num [FloatFormat.double]

/-- Hundred-thousandths are written with the numeral that denotes them. -/
theorem bytes_of_small (negative : Bool) {k : ℕ} (lower : 2 ≤ k) (upper : k < 100000)
    {operand : Operand}
    (denoted : (Numeral.ofParts (Numeral.minusIf negative) 0 (paddedDigits 5 k)).operand?
      = some operand) :
    operand.bytes = (Numeral.ofParts (Numeral.minusIf negative) 0 (paddedDigits 5 k)).text := by
  have length : (paddedDigits 5 k).length = 5 := length_paddedDigits (by norm_num) (by omega)
  have digits := digitsValue_paddedDigits 5 k
  rw [Numeral.operand?_ofParts negative length (k := k) (by omega) (by omega)] at denoted
  cases denoted
  have least : (2 : ℚ) ≤ k := by exact_mod_cast lower
  have most : (k : ℚ) < 100000 := by exact_mod_cast upper
  have near := Double.round_near (q := k / 10 ^ 5) (by positivity) (by norm_num; linarith)
  obtain ⟨large, text⟩ := Double.magnitudeText_small (near.mono (by norm_num)) lower upper
  rw [Operand.bytes, numberText_round (by positivity) near.finite large, text,
    ← Numeral.text_ofParts]

/-- Hundredths are written with the numeral that denotes them. -/
theorem bytes_of_hundredths (negative : Bool) {k : ℕ} (lower : 100 < k) (upper : k < 3276700)
    (fraction : k % 100 ≠ 0) {operand : Operand}
    (denoted : (Numeral.ofParts (Numeral.minusIf negative) (k / 100)
      (paddedDigits 2 (k % 100))).operand? = some operand) :
    operand.bytes
      = (Numeral.ofParts (Numeral.minusIf negative) (k / 100) (paddedDigits 2 (k % 100))).text := by
  have length : (paddedDigits 2 (k % 100)).length = 2 := length_paddedDigits (by norm_num) (by omega)
  have digits := digitsValue_paddedDigits 2 (k % 100)
  rw [Numeral.operand?_ofParts negative length (k := k) (by omega) (by omega)] at denoted
  cases denoted
  have least : (100 : ℚ) < k := by exact_mod_cast lower
  have most : (k : ℚ) < 3276700 := by exact_mod_cast upper
  have near := Double.round_near (q := k / 10 ^ 2) (by positivity) (by norm_num; linarith)
  obtain ⟨large, text⟩ := Double.magnitudeText_hundredths (near.mono (by norm_num)) lower upper
  rw [Operand.bytes, numberText_round (by positivity) near.finite large, text,
    ← Numeral.text_ofParts]

/-- With zeros for places a numeral is that of a whole number. -/
theorem Numeral.ofParts_zeros (sign : Option UInt8) (whole : ℕ) :
    ofParts sign whole (paddedDigits 2 0) = ofParts sign whole [] := by
  have none : trimZeros (paddedDigits 2 0) = [] := by cbv
  unfold ofParts
  rw [none]
  rfl

/-- What a numeral of one of the four forms denotes is written with the same numeral. -/
theorem Numeral.Compact.bytes_eq_text {n : Numeral} (compact : n.Compact) {operand : Operand}
    (denoted : n.operand? = some operand) : operand.bytes = n.text := by
  cases compact with
  | zero => exact integerText_of_operand? false (by simp) denoted
  | whole negative pos => exact integerText_of_operand? negative (fun _ => pos) denoted
  | small negative lower upper => exact bytes_of_small negative lower upper denoted
  | @hundredths negative k lower upper =>
    by_cases whole : k % 100 = 0
    · rw [whole, Numeral.ofParts_zeros] at denoted ⊢
      exact integerText_of_operand? negative (fun _ => by omega) denoted
    · exact bytes_of_hundredths negative (by omega) (by omega) whole denoted

/-- The operand as which the text of a number is read is written with that text. -/
theorem Operand.bytes_of_ofPrinted? {x : Double} {operand : Operand}
    (h : Operand.ofPrinted? x = some operand) : operand.bytes = numberText x := by
  obtain ⟨n, compact, text⟩ := numberText_compact x
  rw [Operand.ofPrinted?_eq text compact.written] at h
  rw [text]
  exact compact.bytes_eq_text h

end Preflight

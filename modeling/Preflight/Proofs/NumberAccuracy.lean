import Mathlib
import Preflight.Proofs.StableNumbers

/-!
# The accuracy of written numbers

A finite number below `2 ^ 52` is written as a decimal near it, and reading the text gives the double
nearest to that decimal. Both steps keep the order of numbers. Below 1 the two lie less than 16
millionths apart, up to 32767 at most half a hundredth and a little more; beyond that the text is the
nearest whole number, and doubles hold it exactly.
-/

namespace Preflight

/-! ## Numbers that rounding keeps -/

theorem nearestNat_natCast (n : ℕ) : nearestNat n = n :=
  le_antisymm (nearestNat_le le_rfl) (le_nearestNat le_rfl)

namespace FloatFormat

variable (f : FloatFormat)

theorem significand_lt (rank : ℕ) : f.significand rank < 2 ^ (f.fractionBits + 1) := by
  have fraction := Nat.mod_lt rank (Nat.two_pow_pos f.fractionBits)
  have double : 2 ^ (f.fractionBits + 1) = 2 * 2 ^ f.fractionBits := by
    rw [Nat.pow_succ, Nat.mul_comm]
  unfold significand
  simp only [Nat.shiftLeft_eq, Nat.one_mul]
  split <;> omega

/-- Above the smallest exponent the significand has all its bits. -/
theorem le_significand {rank : ℕ} (h : f.minExponent < f.exponent rank) :
    2 ^ f.fractionBits ≤ f.significand rank := by
  have field : rank >>> f.fractionBits ≠ 0 := by
    unfold exponent at h
    omega
  unfold significand
  simp only [Nat.shiftLeft_eq, Nat.one_mul]
  rw [if_neg field]
  exact Nat.le_add_right ..

/-- Rounding keeps the multiples of a last place that fit the significand. -/
theorem magnitude_nearestRank_of_multiple {n : ℕ} {e : ℤ}
    (bits : n < 2 ^ (f.fractionBits + 1)) (least : f.minExponent ≤ e)
    (finite : f.nearestRank (n * 2 ^ e) < f.infinityRank) :
    f.magnitude (f.nearestRank (n * 2 ^ e)) = n * 2 ^ e := by
  rcases Nat.eq_zero_or_pos n with rfl | pos
  · simp [nearestRank, magnitude, significand]
  have power : (0 : ℚ) < 2 ^ e := by positivity
  have positive : (0 : ℚ) < n * 2 ^ e := mul_pos (by exact_mod_cast pos) power
  have below : (n : ℚ) * 2 ^ e < 2 ^ (f.fractionBits + 1 + e) := by
    rw [zpow_add₀ two_ne_zero]
    exact mul_lt_mul_of_pos_right (by exact_mod_cast bits) power
  have place := f.placeExponent_le positive below (by omega)
  -- The last place of the multiple is not above the given one, which makes it a whole number of it.
  obtain ⟨steps, split⟩ : ∃ steps : ℕ, e = f.placeExponent (n * 2 ^ e) + steps :=
    ⟨(e - f.placeExponent (n * 2 ^ e)).toNat, by omega⟩
  have units : (n : ℚ) * 2 ^ e / 2 ^ f.placeExponent (n * 2 ^ e) = ((n * 2 ^ steps : ℕ) : ℚ) := by
    rw [div_eq_iff (by positivity)]
    nth_rewrite 1 [split]
    rw [zpow_add₀ two_ne_zero, zpow_natCast]
    push_cast
    ring
  rw [f.magnitude_nearestRank positive finite, units, nearestNat_natCast, ← units,
    div_mul_cancel₀ _ (by positivity)]

end FloatFormat

namespace Double

/-- Multiples of a last place below `2 ^ 64` are doubles. -/
theorem toRat_round_of_multiple {n : ℕ} {e : ℤ} (bits : n < 2 ^ 53) (least : -1074 ≤ e)
    (h : (n : ℚ) * 2 ^ e < 2 ^ (64 : ℤ)) :
    (Binary.round false (n * 2 ^ e) : Double).toRat = n * 2 ^ e := by
  have nonneg : (0 : ℚ) ≤ n * 2 ^ e := by positivity
  have spans := (FloatFormat.spans_of_le (e := 64) (by norm_num) le_rfl).2
  rw [Binary.toRat_round nonneg]
  exact FloatFormat.double.magnitude_nearestRank_of_multiple bits least
    ((FloatFormat.double.nearestRank_mono nonneg h.le).trans_lt spans.finite)

theorem toRat_round_natCast {n : ℕ} (h : n < 2 ^ 53) :
    (Binary.round false n : Double).toRat = n := by
  have wide : (n : ℚ) < 2 ^ 53 := by exact_mod_cast h
  have same := toRat_round_of_multiple (e := 0) h (by norm_num) (by norm_num; linarith)
  simpa using same

/-- A double below `2 ^ 52` is a multiple of a last place that is smaller than a unit. -/
theorem exists_multiple {x : Double} (nonneg : x.negative = false) (h : x.toRat < 2 ^ 52) :
    ∃ (n : ℕ) (e : ℤ), n < 2 ^ 53 ∧ -1074 ≤ e ∧ e ≤ -1 ∧ x.toRat = n * 2 ^ e := by
  rw [Binary.toRat_of_nonneg nonneg] at h ⊢
  refine ⟨FloatFormat.double.significand x.rank, FloatFormat.double.exponent x.rank,
    FloatFormat.double.significand_lt x.rank, le_add_of_nonneg_right (Int.natCast_nonneg _), ?_, rfl⟩
  by_contra large
  have full : ((2 ^ 52 : ℕ) : ℚ) ≤ FloatFormat.double.significand x.rank := by
    have least : FloatFormat.double.minExponent < -1 := by decide
    exact_mod_cast FloatFormat.double.le_significand (least.trans_le (by omega))
  have unit : (1 : ℚ) ≤ 2 ^ FloatFormat.double.exponent x.rank :=
    one_le_zpow₀ one_le_two (by omega)
  have product := mul_le_mul full unit zero_le_one (by positivity)
  unfold FloatFormat.magnitude at h
  norm_num at product
  linarith

/-! ## The nearest whole number -/

/-- The whole part of a finite number below the limit. -/
theorem truncate_eq_of_toRat {x : Double} {limit k : ℕ} (nonneg : x.negative = false)
    (finite : x.isFinite = true) (lower : (k : ℚ) ≤ x.toRat) (upper : x.toRat < k + 1)
    (h : k < limit) : x.truncate limit = k :=
  (Binary.Near.self nonneg finite).truncate_eq (by linarith) (by linarith) h

/-- Half a unit more than a number below `2 ^ 52` is exact, or it reaches the next power of two. -/
theorem toRat_add_half_or {x : Double} (nonneg : x.negative = false) (finite : x.isFinite = true)
    (h : x.toRat < 2 ^ 52) (above : 1 ≤ x.toRat) :
    (x + 0.5).toRat = x.toRat + 1 / 2 ∨
      ∃ power : ℕ, power < 2 ^ 53 ∧ x.toRat < power ∧ power ≤ x.toRat + 1 / 2 := by
  obtain ⟨n, e, bits, least, below, value⟩ := exists_multiple nonneg h
  obtain ⟨steps, split⟩ : ∃ steps : ℕ, -1 = e + steps := ⟨(-1 - e).toNat, by omega⟩
  have power_pos : (0 : ℚ) < 2 ^ e := by positivity
  -- The sum is a multiple of the same last place.
  have raised : x.toRat + 1 / 2 = ((n + 2 ^ steps : ℕ) : ℚ) * 2 ^ e := by
    have half : (1 / 2 : ℚ) = 2 ^ steps * 2 ^ e := by
      rw [← zpow_natCast, ← zpow_add₀ two_ne_zero, add_comm, ← split]
      norm_num
    rw [value, half]
    push_cast
    ring
  rcases Nat.lt_or_ge (n + 2 ^ steps) (2 ^ 53) with fits | carries
  · left
    rw [Binary.add_eq_round nonneg half_near.nonneg finite half_near.finite, half_near.toRat_eq,
      raised]
    refine toRat_round_of_multiple fits least ?_
    rw [← raised]
    norm_num
    linarith
  · right
    have reached : (2 : ℚ) ^ (53 + e) ≤ x.toRat + 1 / 2 := by
      rw [raised, zpow_add₀ two_ne_zero]
      exact mul_le_mul_of_nonneg_right (by exact_mod_cast carries) power_pos.le
    have not_reached : x.toRat < 2 ^ (53 + e) := by
      rw [value, zpow_add₀ two_ne_zero]
      exact mul_lt_mul_of_pos_right (by exact_mod_cast bits) power_pos
    have exponent_pos : 0 < 53 + e := by
      refine (zpow_lt_zpow_iff_right₀ (one_lt_two (α := ℚ))).1 ?_
      rw [zpow_zero]
      exact above.trans_lt not_reached
    obtain ⟨exponent, natural⟩ := Int.eq_ofNat_of_zero_le exponent_pos.le
    have power : (2 : ℚ) ^ (53 + e) = ((2 ^ exponent : ℕ) : ℚ) := by
      rw [natural, zpow_natCast, Nat.cast_pow, Nat.cast_ofNat]
    rw [power] at reached not_reached
    exact ⟨2 ^ exponent, Nat.pow_lt_pow_right (by norm_num) (by omega), not_reached, reached⟩

/-- The whole part of a number below the limit is less than a unit below it. -/
theorem truncate_spec {x : Double} {q ε : ℚ} (limit : ℕ) (near : x.Near q ε) (h : q + ε < limit) :
    (x.truncate limit : ℚ) ≤ x.toRat ∧ x.toRat < x.truncate limit + 1 := by
  have nonneg := Binary.toRat_nonneg near.nonneg
  have whole_le := Nat.floor_le nonneg
  have lt_whole := Nat.lt_floor_add_one x.toRat
  have small : ⌊x.toRat⌋₊ < limit := (Nat.floor_lt nonneg).2 (near.toRat_le.trans_lt h)
  rw [truncate_eq_of_toRat near.nonneg near.finite whole_le lt_whole small]
  exact ⟨whole_le, lt_whole⟩

/-- Half a unit more than a number below `2 ^ 52` has the same whole part after it was rounded: where
the sum is not exact, it is rounded down to the power of two at most. -/
theorem abs_truncate_add_half_sub_le {x : Double} (nonneg : x.negative = false)
    (finite : x.isFinite = true) (h : x.toRat < 2 ^ 52) (above : 1 ≤ x.toRat) :
    |((x + 0.5).truncate 18446744073709551615 : ℚ) - x.toRat| ≤ 1 / 2 := by
  have sum := Binary.add_eq_round nonneg half_near.nonneg finite half_near.finite
  rw [half_near.toRat_eq] at sum
  have near : (x + 0.5).Near (x.toRat + 1 / 2) (1 / 2) := by
    rw [sum]
    exact (Binary.Near.round (e := 53) (by linarith) (by norm_num; linarith)
      (FloatFormat.spans_of_le (by norm_num) (by norm_num)).2).mono (by norm_num [FloatFormat.double])
  have most := near.toRat_le
  obtain ⟨whole_le, lt_whole⟩ := truncate_spec 18446744073709551615 near
    (by norm_num at h ⊢; linarith)
  rcases toRat_add_half_or nonneg finite h above with kept | ⟨power, small, below, reached⟩
  · rw [kept] at whole_le lt_whole
    rw [abs_le]
    constructor <;> linarith
  · have least : (power : ℚ) ≤ (x + 0.5).toRat := by
      rw [← toRat_round_natCast small, sum]
      exact Binary.toRat_round_mono (by positivity) reached
    rw [truncate_eq_of_toRat near.nonneg near.finite least (by linarith)
      (small.trans (by norm_num)), abs_le]
    constructor <;> linarith

/-- The nearest whole number fits the significand. -/
theorem truncate_add_half_lt_significand {x : Double} (nonneg : x.negative = false)
    (finite : x.isFinite = true) (h : x.toRat < 2 ^ 52) (above : 1 ≤ x.toRat) :
    (x + 0.5).truncate 18446744073709551615 < 2 ^ 53 := by
  have distance := (abs_le.1 (abs_truncate_add_half_sub_le nonneg finite h above)).2
  have bound : ((x + 0.5).truncate 18446744073709551615 : ℚ) < 2 ^ 53 := by linarith
  exact_mod_cast bound

/-! ## The decimal of a number -/

section Decimal

variable {x y : Double}

theorem decimal_nonneg (x : Double) : 0 ≤ x.decimal := by
  unfold decimal
  split_ifs <;> positivity

theorem decimal_of_le (finite : x.isFinite = true) (at_least : 1 ≤ x.toRat)
    (at_most : x.toRat ≤ 32767) :
    x.decimal = ((x + 0.005) * 100).truncate 18446744073709551615 / 10 ^ 2 := by
  have not_small : ¬x < 1 := by rwa [lt_one_iff finite, not_lt]
  rw [decimal, if_neg (not_lt_zeroLimit_of_one_le finite at_least), if_neg not_small,
    if_pos ((le_32767_iff finite).2 at_most)]

/-- The decimal of a number below 1 is less than 16 millionths away. -/
theorem abs_decimal_sub_le_of_lt_one (nonneg : x.negative = false) (finite : x.isFinite = true)
    (below : x.toRat < 1) : |x.decimal - x.toRat| ≤ 155 / 10 ^ 7 := by
  have self := Binary.Near.self nonneg finite
  have x_nonneg := Binary.toRat_nonneg nonneg
  have small : x < 1 := (lt_one_iff finite).2 below
  unfold decimal
  split_ifs with zero one
  · rw [Binary.lt_iff finite zeroLimit_near.finite] at zero
    have limit := zeroLimit_near.toRat_le
    rw [abs_le]
    constructor <;> linarith
  · have raised := raised_near self (by linarith)
    rw [Binary.le_iff one_near.finite raised.finite, one_near.toRat_eq] at one
    have most := raised.toRat_le
    rw [abs_le]
    constructor <;> linarith
  · have scaled := scaled_near self (by linarith)
    have scaled_le := scaled.toRat_le
    have le_scaled := scaled.le_toRat
    obtain ⟨whole_le, lt_whole⟩ := truncate_spec 4294967295 scaled (by norm_num; linarith)
    rw [abs_le]
    constructor <;> linarith

/-- The decimal of a number from 1 to 32767 is at most half a hundredth and a little more away. -/
theorem abs_decimal_sub_le_of_le (nonneg : x.negative = false) (finite : x.isFinite = true)
    (at_least : 1 ≤ x.toRat) (at_most : x.toRat ≤ 32767) :
    |x.decimal - x.toRat| ≤ 5005 / 10 ^ 6 := by
  have scaled := scaledHundredths_near (Binary.Near.self nonneg finite) (by linarith)
  have scaled_le := scaled.toRat_le
  have le_scaled := scaled.le_toRat
  obtain ⟨whole_le, lt_whole⟩ := truncate_spec 18446744073709551615 scaled
    (by norm_num; linarith)
  rw [decimal_of_le finite at_least at_most, abs_le]
  constructor <;> linarith

/-- The decimal of a number beyond 32767 is the nearest whole number. -/
theorem abs_decimal_sub_le_of_gt (nonneg : x.negative = false) (finite : x.isFinite = true)
    (above : 32767 < x.toRat) (h : x.toRat < 2 ^ 52) : |x.decimal - x.toRat| ≤ 1 / 2 := by
  obtain ⟨-, -, decimal⟩ := magnitudeText_of_gt nonneg finite above
  rw [decimal]
  exact abs_truncate_add_half_sub_le nonneg finite h (by linarith)

/-! The decimals below 1, from 1 to 32767 and beyond follow each other. -/

theorem decimal_le_one (nonneg : x.negative = false) (finite : x.isFinite = true)
    (below : x.toRat < 1) : x.decimal ≤ 1 := by
  have small : x < 1 := (lt_one_iff finite).2 below
  by_cases zero : x < 0.000015
  · rw [decimal, if_pos zero]
    exact zero_le_one
  rcases magnitudeText_of_lt_one nonneg finite zero small with ⟨-, one⟩ | ⟨k, -, upper, -, units⟩
  · exact one.le
  · have most : (k : ℚ) < 100000 := by exact_mod_cast upper
    rw [units]
    linarith

theorem decimal_mem_hundredths (nonneg : x.negative = false) (finite : x.isFinite = true)
    (at_least : 1 ≤ x.toRat) (at_most : x.toRat ≤ 32767) : 1 ≤ x.decimal ∧ x.decimal ≤ 32767 := by
  obtain ⟨k, lower, upper, -, units⟩ := magnitudeText_of_le nonneg finite at_least at_most
  have least : (100 : ℚ) ≤ k := by exact_mod_cast lower
  have most : (k : ℚ) ≤ 3276700 := by exact_mod_cast upper
  rw [units]
  constructor <;> linarith

theorem le_decimal_of_gt (nonneg : x.negative = false) (finite : x.isFinite = true)
    (above : 32767 < x.toRat) (h : x.toRat < 2 ^ 52) : 32767 ≤ x.decimal := by
  obtain ⟨-, -, whole⟩ := magnitudeText_of_gt nonneg finite above
  have near := (abs_le.1 (abs_decimal_sub_le_of_gt nonneg finite above h)).1
  rw [whole] at near ⊢
  have more : (32766 : ℚ) < (x + 0.5).truncate 18446744073709551615 := by linarith
  exact_mod_cast more

/-- Below 1 a larger number has no smaller decimal. -/
theorem decimal_mono_of_lt_one (x_nonneg : x.negative = false) (y_nonneg : y.negative = false)
    (x_finite : x.isFinite = true) (y_finite : y.isFinite = true) (le : x.toRat ≤ y.toRat)
    (below : y.toRat < 1) (x_large : ¬x < 0.000015) (y_large : ¬y < 0.000015) :
    x.decimal ≤ y.decimal := by
  have x_self := Binary.Near.self x_nonneg x_finite
  have y_self := Binary.Near.self y_nonneg y_finite
  have x_small : x < 1 := (lt_one_iff x_finite).2 (le.trans_lt below)
  have y_small : y < 1 := (lt_one_iff y_finite).2 below
  by_cases y_one : (1 : Double) ≤ y + 0.000005
  · refine (decimal_le_one x_nonneg x_finite (le.trans_lt below)).trans ?_
    rw [decimal, if_neg y_large, if_pos y_small, if_pos y_one]
  · have x_raised := raised_near x_self (by linarith)
    have y_raised := raised_near y_self (by linarith)
    have raised := x_self.toRat_add_mono y_self halfHundredThousandth_near le
    have x_one : ¬(1 : Double) ≤ x + 0.000005 := by
      rw [Binary.le_iff one_near.finite y_raised.finite, not_le] at y_one
      rw [Binary.le_iff one_near.finite x_raised.finite, not_le]
      exact raised.trans_lt y_one
    have units := (scaled_near x_self (by linarith)).truncate_mono 4294967295
      (scaled_near y_self (by linarith))
      (x_raised.toRat_mul_mono y_raised hundredThousand_near raised)
    rw [decimal, if_neg x_large, if_pos x_small, if_neg x_one, decimal, if_neg y_large,
      if_pos y_small, if_neg y_one]
    gcongr

/-- From 1 to 32767 a larger number has no smaller decimal. -/
theorem decimal_mono_of_le (x_nonneg : x.negative = false) (y_nonneg : y.negative = false)
    (x_finite : x.isFinite = true) (y_finite : y.isFinite = true) (le : x.toRat ≤ y.toRat)
    (at_least : 1 ≤ x.toRat) (at_most : y.toRat ≤ 32767) : x.decimal ≤ y.decimal := by
  have x_self := Binary.Near.self x_nonneg x_finite
  have y_self := Binary.Near.self y_nonneg y_finite
  have x_raised := raisedHundredth_near x_self (by linarith)
  have y_raised := raisedHundredth_near y_self (by linarith)
  have raised := x_self.toRat_add_mono y_self halfHundredth_near le
  have units := (scaledHundredths_near x_self (by linarith)).truncate_mono 18446744073709551615
    (scaledHundredths_near y_self (by linarith))
    (x_raised.toRat_mul_mono y_raised hundred_near raised)
  rw [decimal_of_le x_finite at_least (le.trans at_most),
    decimal_of_le y_finite (at_least.trans le) at_most]
  gcongr

/-- A larger number has no smaller decimal. -/
theorem decimal_mono (x_nonneg : x.negative = false) (y_nonneg : y.negative = false)
    (x_finite : x.isFinite = true) (y_finite : y.isFinite = true) (h : y.toRat < 2 ^ 52)
    (le : x.toRat ≤ y.toRat) : x.decimal ≤ y.decimal := by
  by_cases x_zero : x < 0.000015
  · rw [decimal, if_pos x_zero]
    exact decimal_nonneg y
  rcases lt_or_ge y.toRat 1 with y_below | y_above
  · refine decimal_mono_of_lt_one x_nonneg y_nonneg x_finite y_finite le y_below x_zero ?_
    rw [Binary.lt_iff x_finite zeroLimit_near.finite, not_lt] at x_zero
    rw [Binary.lt_iff y_finite zeroLimit_near.finite, not_lt]
    exact x_zero.trans le
  rcases lt_or_ge x.toRat 1 with x_below | x_above
  · have x_le := decimal_le_one x_nonneg x_finite x_below
    rcases le_or_gt y.toRat 32767 with y_within | y_beyond
    · exact x_le.trans (decimal_mem_hundredths y_nonneg y_finite y_above y_within).1
    · linarith [le_decimal_of_gt y_nonneg y_finite y_beyond h]
  rcases le_or_gt y.toRat 32767 with y_within | y_beyond
  · exact decimal_mono_of_le x_nonneg y_nonneg x_finite y_finite le x_above y_within
  have y_ge := le_decimal_of_gt y_nonneg y_finite y_beyond h
  rcases le_or_gt x.toRat 32767 with x_within | x_beyond
  · exact (decimal_mem_hundredths x_nonneg x_finite x_above x_within).2.trans y_ge
  · obtain ⟨-, -, x_whole⟩ := magnitudeText_of_gt x_nonneg x_finite x_beyond
    obtain ⟨-, -, y_whole⟩ := magnitudeText_of_gt y_nonneg y_finite y_beyond
    rw [x_whole, y_whole, Binary.add_eq_round x_nonneg half_near.nonneg x_finite half_near.finite,
      Binary.add_eq_round y_nonneg half_near.nonneg y_finite half_near.finite, half_near.toRat_eq]
    exact_mod_cast Binary.truncate_round_mono _ (by linarith) (by linarith)

end Decimal

end Double

/-! ## Texts read as numbers -/

namespace Operand

/-- The exact value of an operand that is a finite number. -/
def exactValue? : Operand → Option ℚ
  | integer value => some value.toInt
  | real value => if value.isFinite then some value.toRat else none
  | _ => none

/-- The operand as which a text is read as a number, if it is read to its end. -/
def ofNumberText? : Bytes → Option Operand
  | [] => none
  | b :: rest =>
    if h : isNumberByte b = true then
      match (readNumber b rest h).outcome with
      | .ok (operand, []) => some operand
      | _ => none
    else none

theorem ofNumberText?_text {n : Numeral} (written : n.Written) :
    ofNumberText? n.text = n.operand? := by
  have taken : Numeral.read n.text = (n, []) := by
    have ends : EndsToken [] := by simp [EndsToken]
    have appended := Numeral.read_text_append written ends
    rwa [List.append_nil] at appended
  obtain ⟨b, rest, text, head⟩ := Numeral.isNumberByte_head written
  have number : isNumberByte b = true := by
    rcases head with digit | rfl
    · simp [isNumberByte, digit]
    · rfl
  rw [text] at taken ⊢
  rw [ofNumberText?, dif_pos number, readNumber_outcome, taken]
  cases n.operand? <;> rfl

end Operand

/-- The exact value of the double nearest to a decimal, with a sign. -/
def Double.nearestValue (negative : Bool) (q : ℚ) : ℚ :=
  if negative then -(Binary.round false q : Double).toRat else (Binary.round false q : Double).toRat

namespace Numeral

/-- A whole number that fits the significand is read as an integer, which is exact. -/
theorem exactValue?_whole (negative : Bool) {n : ℕ} (h : n < 2 ^ 53) :
    ∃ operand, (ofParts (minusIf negative) n []).operand? = some operand ∧
      operand.exactValue? = some (Double.nearestValue negative n) := by
  rw [operand?_ofParts_nil negative n rfl, if_pos (by split <;> omega), Double.nearestValue,
    Double.toRat_round_natCast h]
  refine ⟨_, rfl, ?_⟩
  rw [Operand.exactValue?, Int64.toInt_ofInt_of_le (by split <;> omega) (by split <;> omega)]
  cases negative <;> simp

/-- A number with decimal places is read as the double nearest to it. -/
theorem exactValue?_places (negative : Bool) {whole width k : ℕ} {places : Bytes}
    (length : places.length = width) (fraction : digitsValue places ≠ 0)
    (units : whole * 10 ^ width + digitsValue places = k) (h : (k : ℚ) / 10 ^ width < 2 ^ (16 : ℤ)) :
    ∃ operand, (ofParts (minusIf negative) whole places).operand? = some operand ∧
      operand.exactValue? = some (Double.nearestValue negative (k / 10 ^ width)) := by
  have pos : 0 < k := by omega
  have finite := (Double.round_near (q := k / 10 ^ width) (by positivity) h).finite
  rw [operand?_ofParts negative length fraction units]
  refine ⟨_, rfl, ?_⟩
  unfold Double.nearestValue
  cases negative with
  | false => simp [Operand.exactValue?, finite]
  | true =>
    have finite_neg : (Binary.round false (k / 10 ^ width) : Double).neg.isFinite = true := finite
    simp only [if_true]
    rw [Binary.round_neg (by positivity), Operand.exactValue?, if_pos finite_neg, Binary.toRat_neg]

end Numeral

namespace Double

variable {x y : Double}

/-- The text of a number without sign is read as the double nearest to its decimal, also after a
minus sign. -/
theorem exactValue?_magnitudeText (nonneg : x.negative = false) (finite : x.isFinite = true)
    (h : x.toRat < 2 ^ 52) (large : ¬x < 0.000015) (negative : Bool) :
    ∃ operand,
      Operand.ofNumberText? ((Numeral.minusIf negative).toList ++ magnitudeText x) = some operand ∧
        operand.exactValue? = some (nearestValue negative x.decimal) := by
  by_cases below : x < 1
  · rcases magnitudeText_of_lt_one nonneg finite large below with
      ⟨text, decimal⟩ | ⟨k, lower, upper, text, decimal⟩
    · obtain ⟨operand, read, value⟩ := Numeral.exactValue?_whole negative (n := 1) (by norm_num)
      rw [text, ← Numeral.text_ofParts, Operand.ofNumberText?_text
        (Numeral.written_minusIf negative 1 (by simp)), decimal]
      exact ⟨operand, read, by exact_mod_cast value⟩
    · have most : (k : ℚ) < 100000 := by exact_mod_cast upper
      have digits := digitsValue_paddedDigits 5 k
      rw [text, ← Numeral.text_ofParts, Operand.ofNumberText?_text
        (Numeral.written_minusIf negative 0 fun _ => isDigit_of_mem_paddedDigits), decimal]
      exact Numeral.exactValue?_places negative (length_paddedDigits (by norm_num) (by omega))
        (by omega) (by omega) (by norm_num; linarith)
  rw [lt_one_iff finite, not_lt] at below
  rcases le_or_gt x.toRat 32767 with within | beyond
  · obtain ⟨k, lower, upper, text, decimal⟩ := magnitudeText_of_le nonneg finite below within
    rw [text, ← Numeral.text_ofParts, Operand.ofNumberText?_text
      (Numeral.written_minusIf negative _ fun _ => isDigit_of_mem_paddedDigits), decimal]
    by_cases whole : k % 100 = 0
    · obtain ⟨units, rfl⟩ : ∃ units, k = units * 100 := ⟨k / 100, by omega⟩
      have value : ((units * 100 : ℕ) : ℚ) / 10 ^ 2 = units := by
        push_cast
        ring
      rw [whole, Numeral.ofParts_zeros, value, Nat.mul_div_cancel _ (by norm_num)]
      exact Numeral.exactValue?_whole negative (by omega)
    · have most : (k : ℚ) ≤ 3276700 := by exact_mod_cast upper
      have digits := digitsValue_paddedDigits 2 (k % 100)
      exact Numeral.exactValue?_places negative (length_paddedDigits (by norm_num) (by omega))
        (by omega) (by omega) (by norm_num; linarith)
  · obtain ⟨-, text, decimal⟩ := magnitudeText_of_gt nonneg finite beyond
    rw [text, ← Numeral.text_ofParts, Operand.ofNumberText?_text
      (Numeral.written_minusIf negative _ (by simp)), decimal]
    exact Numeral.exactValue?_whole negative (truncate_add_half_lt_significand nonneg finite h below)

/-! ## Numbers of either sign -/

/-- The value as which the text of a number is read. -/
def printedValue (x : Double) : ℚ := nearestValue (x.toRat < 0) (decimal x.abs)

theorem exactValue?_numberText (finite : x.isFinite = true) (h : |x.toRat| < 2 ^ 52) :
    ∃ operand, Operand.ofNumberText? (numberText x) = some operand ∧
      operand.exactValue? = some x.printedValue := by
  have finite_abs : x.abs.isFinite = true := finite
  have negative : x < 0 ↔ x.toRat < 0 := by
    rw [Binary.lt_iff finite zero_near.finite, zero_near.toRat_eq]
  rw [← Binary.toRat_abs] at h
  unfold numberText printedValue
  rw [finite, Bool.not_true, if_neg Bool.false_ne_true]
  split
  · next zero =>
    rw [← Numeral.text_zero, Operand.ofNumberText?_text Numeral.written_zero, Numeral.operand?_zero,
      decimal, if_pos zero]
    refine ⟨_, rfl, ?_⟩
    have rounded : (Binary.round false 0 : Double).toRat = 0 := by
      exact_mod_cast toRat_round_natCast (n := 0) (by norm_num)
    unfold nearestValue
    rw [rounded, neg_zero, ite_self]
    rfl
  next large =>
  split
  · next below =>
    rw [decide_eq_true (negative.1 below)]
    exact exactValue?_magnitudeText rfl finite_abs h large true
  · next not_below =>
    rw [decide_eq_false (fun less => not_below (negative.2 less))]
    exact exactValue?_magnitudeText rfl finite_abs h large false

/-- The value that is read is as far from the number as the nearest double to the decimal of its
magnitude is from the magnitude. -/
theorem abs_printedValue_sub (x : Double) :
    |x.printedValue - x.toRat|
      = |(Binary.round false (decimal x.abs) : Double).toRat - (Binary.abs x).toRat| := by
  rw [Binary.toRat_abs]
  unfold printedValue nearestValue
  by_cases negative : x.toRat < 0
  · rw [decide_eq_true negative, if_pos rfl, abs_of_neg negative, ← abs_neg]
    congr 1
    ring
  · rw [decide_eq_false negative, if_neg Bool.false_ne_true, abs_of_nonneg (not_lt.1 negative)]

/-- Up to 32767 reading the decimal adds next to nothing to the distance. -/
theorem abs_round_decimal_sub_le (nonneg : 0 ≤ x.decimal) (small : x.decimal < 2 ^ (16 : ℤ)) {ε : ℚ}
    (h : |x.decimal - x.toRat| ≤ ε) :
    |(Binary.round false x.decimal : Double).toRat - x.toRat| ≤ ε + 1 / 10 ^ 10 := by
  have rounded := (round_near nonneg small).distance
  calc |(Binary.round false x.decimal : Double).toRat - x.toRat|
      ≤ |(Binary.round false x.decimal : Double).toRat - x.decimal| + |x.decimal - x.toRat| :=
        abs_sub_le ..
    _ ≤ ε + 1 / 10 ^ 10 := by linarith

theorem abs_printedValue_sub_lt_of_lt_one (finite : x.isFinite = true) (below : |x.toRat| < 1) :
    |x.printedValue - x.toRat| < 16 / 10 ^ 6 := by
  rw [← Binary.toRat_abs] at below
  have unit := decimal_le_one (x := x.abs) rfl finite below
  have distance := abs_round_decimal_sub_le (decimal_nonneg x.abs) (by norm_num; linarith)
    (abs_decimal_sub_le_of_lt_one (x := x.abs) rfl finite below)
  rw [abs_printedValue_sub]
  linarith

theorem abs_printedValue_sub_le_of_le (finite : x.isFinite = true) (at_least : 1 ≤ |x.toRat|)
    (at_most : |x.toRat| ≤ 32767) : |x.printedValue - x.toRat| ≤ 501 / 10 ^ 5 := by
  rw [← Binary.toRat_abs] at at_least at_most
  have bound := (decimal_mem_hundredths (x := x.abs) rfl finite at_least at_most).2
  have distance := abs_round_decimal_sub_le (decimal_nonneg x.abs) (by norm_num; linarith)
    (abs_decimal_sub_le_of_le (x := x.abs) rfl finite at_least at_most)
  rw [abs_printedValue_sub]
  linarith

theorem abs_printedValue_sub_le_of_gt (finite : x.isFinite = true) (above : 32767 < |x.toRat|)
    (h : |x.toRat| < 2 ^ 52) : |x.printedValue - x.toRat| ≤ 1 / 2 := by
  rw [← Binary.toRat_abs] at above h
  obtain ⟨-, -, whole⟩ := magnitudeText_of_gt (x := x.abs) rfl finite above
  have distance := abs_decimal_sub_le_of_gt (x := x.abs) rfl finite above h
  rw [whole] at distance
  rw [abs_printedValue_sub, whole, toRat_round_natCast
    (truncate_add_half_lt_significand (x := x.abs) rfl finite h (by linarith))]
  exact distance

/-- A larger number is not read as a smaller value. -/
theorem printedValue_mono (x_finite : x.isFinite = true) (y_finite : y.isFinite = true)
    (x_small : |x.toRat| < 2 ^ 52) (y_small : |y.toRat| < 2 ^ 52) (le : x.toRat ≤ y.toRat) :
    x.printedValue ≤ y.printedValue := by
  rw [← Binary.toRat_abs] at x_small y_small
  have nonneg (z : Double) : 0 ≤ (Binary.round false (decimal z.abs) : Double).toRat :=
    Binary.toRat_nonneg (Binary.negative_round (decimal_nonneg z.abs))
  unfold printedValue nearestValue
  by_cases y_negative : y.toRat < 0
  · have x_negative := le.trans_lt y_negative
    rw [decide_eq_true y_negative, decide_eq_true x_negative, if_pos rfl, if_pos rfl, neg_le_neg_iff]
    refine Binary.toRat_round_mono (decimal_nonneg y.abs)
      (decimal_mono rfl rfl y_finite x_finite x_small ?_)
    rw [Binary.toRat_abs, Binary.toRat_abs, abs_of_neg y_negative, abs_of_neg x_negative]
    exact neg_le_neg le
  rw [decide_eq_false y_negative, if_neg Bool.false_ne_true]
  by_cases x_negative : x.toRat < 0
  · rw [decide_eq_true x_negative, if_pos rfl]
    exact (neg_nonpos.2 (nonneg x)).trans (nonneg y)
  · rw [decide_eq_false x_negative, if_neg Bool.false_ne_true]
    refine Binary.toRat_round_mono (decimal_nonneg x.abs)
      (decimal_mono rfl rfl x_finite y_finite y_small ?_)
    rw [Binary.toRat_abs, Binary.toRat_abs, abs_of_nonneg (not_lt.1 x_negative), abs_of_nonneg (not_lt.1 y_negative)]
    exact le

end Double

/-! ## The form of a text -/

/-- An optional minus sign, digits, and optionally a point and digits that do not end in a zero; but
no negative zero. -/
structure IsNumberText (text : Bytes) : Prop where
  parts : ∃ sign whole fraction, text = sign ++ whole ++ fraction ∧
    (sign = [] ∨ sign = [0x2D]) ∧ whole ≠ [] ∧ (∀ b ∈ whole, isDigit b = true) ∧
    (fraction = [] ∨ ∃ places last, fraction = 0x2E :: places ++ [last] ∧ last ≠ 0x30 ∧
      ∀ b ∈ places ++ [last], isDigit b = true)
  not_negative_zero : text ≠ [0x2D, 0x30]

/-- What is left of digits without the zeros at the end does not end in a zero. -/
theorem trimZeros_eq_nil_or (digits : Bytes) :
    trimZeros digits = [] ∨ ∃ places last, trimZeros digits = places ++ [last] ∧ last ≠ 0x30 := by
  unfold trimZeros
  cases kept : digits.reverse.dropWhile (· == 0x30) with
  | nil => exact Or.inl rfl
  | cons last places =>
    refine Or.inr ⟨places.reverse, last, List.reverse_cons, ?_⟩
    have stop := List.head?_dropWhile_not (· == 0x30) digits.reverse
    rw [kept] at stop
    simpa using stop

namespace Numeral

/-- Only zero without decimal places is written with the digit zero alone. -/
theorem pointedText_eq_zero {whole : ℕ} {places : Bytes}
    (h : pointedText (decimalDigits whole) places = [0x30]) : whole = 0 ∧ trimZeros places = [] := by
  have value := digitsValue_decimalDigits whole
  unfold pointedText at h
  simp only at h
  split at h
  · next none =>
    rw [h] at value
    exact ⟨value.symm, List.isEmpty_iff.1 none⟩
  · have length := congrArg List.length h
    have pos := List.length_pos_iff.2 (decimalDigits_ne_nil whole)
    rw [List.length_append, List.length_cons, List.length_singleton] at length
    omega

/-- The text of a numeral whose value is not zero, or that has no sign. -/
theorem isNumberText_ofParts (negative : Bool) {whole : ℕ} {places : Bytes}
    (digits : ∀ b ∈ places, isDigit b = true)
    (h : negative = true → whole ≠ 0 ∨ trimZeros places ≠ []) :
    IsNumberText (ofParts (minusIf negative) whole places).text where
  parts := by
    refine ⟨(minusIf negative).toList, decimalDigits whole,
      if (trimZeros places).isEmpty then [] else 0x2E :: trimZeros places, ?_, ?_,
      decimalDigits_ne_nil whole, fun _ => isDigit_of_mem_decimalDigits, ?_⟩
    · rw [text_ofParts, pointedText]
      split <;> simp
    · cases negative
      · exact Or.inl rfl
      · exact Or.inr rfl
    · rcases trimZeros_eq_nil_or places with none | ⟨front, last, split, nonzero⟩
      · exact Or.inl (by rw [none]; rfl)
      · refine Or.inr ⟨front, last, by rw [split]; simp, nonzero, ?_⟩
        rw [← split]
        exact fun b member => digits b (mem_of_mem_trimZeros member)
  not_negative_zero := by
    rw [text_ofParts]
    cases negative with
    | false =>
      intro same
      obtain ⟨b, rest, cons⟩ := List.exists_cons_of_ne_nil (decimalDigits_ne_nil whole)
      have digit : isDigit b = true := isDigit_of_mem_decimalDigits (by rw [cons]; simp)
      have first : b = 0x2D := by
        rw [pointedText, cons] at same
        split at same <;> exact (List.cons.inj same).1
      rw [first] at digit
      exact absurd digit (by decide)
    | true =>
      intro same
      obtain ⟨zero, none⟩ := pointedText_eq_zero (List.cons.inj same).2
      exact (h rfl).elim (absurd zero) (absurd none)

theorem Compact.isNumberText {n : Numeral} (compact : n.Compact) : IsNumberText n.text := by
  cases compact with
  | zero => exact isNumberText_ofParts false (by simp) (by simp)
  | whole negative pos => exact isNumberText_ofParts negative (by simp) fun _ => Or.inl pos.ne'
  | small negative lower upper =>
    refine isNumberText_ofParts negative (fun _ => isDigit_of_mem_paddedDigits) fun _ =>
      Or.inr (trimZeros_ne_nil ?_)
    rw [digitsValue_paddedDigits]
    omega
  | hundredths negative lower upper =>
    exact isNumberText_ofParts negative (fun _ => isDigit_of_mem_paddedDigits) fun _ =>
      Or.inl (by omega)

end Numeral

/-! ## Accuracy, order and stability -/

/-- A finite number below `2 ^ 52` is written as a plain numeral that is read to its end. The value
that is read is near the number, as near as the number of decimal places allows; it is written with the
same text again; and a larger number is not read as a smaller value. -/
theorem numberText_accurate {x : Double} (finite : x.isFinite = true) (small : |x.toRat| < 2 ^ 52) :
    IsNumberText (numberText x) ∧
    ∃ operand value, Operand.ofNumberText? (numberText x) = some operand ∧
      operand.exactValue? = some value ∧
      operand.bytes = numberText x ∧
      (|x.toRat| < 1 → |value - x.toRat| < 16 / 10 ^ 6) ∧
      (1 ≤ |x.toRat| → |x.toRat| ≤ 32767 → |value - x.toRat| ≤ 501 / 10 ^ 5) ∧
      (32767 < |x.toRat| → |value - x.toRat| ≤ 1 / 2) ∧
      ∀ y : Double, y.isFinite = true → |y.toRat| < 2 ^ 52 → x ≤ y →
        ∃ larger larger_value, Operand.ofNumberText? (numberText y) = some larger ∧
          larger.exactValue? = some larger_value ∧ value ≤ larger_value := by
  obtain ⟨n, compact, text⟩ := numberText_compact x
  obtain ⟨operand, read, value⟩ := Double.exactValue?_numberText finite small
  refine ⟨text ▸ compact.isNumberText, operand, x.printedValue, read, value, ?_,
    Double.abs_printedValue_sub_lt_of_lt_one finite, Double.abs_printedValue_sub_le_of_le finite,
    fun above => Double.abs_printedValue_sub_le_of_gt finite above small, ?_⟩
  · rw [text, Operand.ofNumberText?_text compact.written] at read
    rw [text]
    exact compact.bytes_eq_text read
  · intro y y_finite y_small le
    obtain ⟨larger, larger_read, larger_value⟩ := Double.exactValue?_numberText y_finite y_small
    exact ⟨larger, _, larger_read, larger_value, Double.printedValue_mono finite y_finite small y_small
      ((Binary.le_iff finite y_finite).1 le)⟩

/-- Half a unit raises this number to 1. -/
theorem numberText_accurate_near_one :
    ((0.999996 : Double).isFinite = true ∧ |(0.999996 : Double).toRat| < 1) ∧
      ∃ operand value, Operand.ofNumberText? (numberText 0.999996) = some operand ∧
        operand.exactValue? = some value ∧ |value - (0.999996 : Double).toRat| < 16 / 10 ^ 6 := by
  have finite : (0.999996 : Double).isFinite = true := by decide +kernel
  have small : |(0.999996 : Double).toRat| < 1 := by decide +kernel
  obtain ⟨-, operand, value, read, exact_value, -, near, -⟩ :=
    numberText_accurate finite (small.trans (by norm_num))
  exact ⟨⟨finite, small⟩, operand, value, read, exact_value, near small⟩

end Preflight

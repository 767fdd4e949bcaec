import Mathlib
import Preflight.Proofs.Rounding

/-!
# Rounding errors

A rounded number differs from the exact one by at most half of a last place, so the result of a few
operations lies near the exact result, by a distance that is added up from operation to operation.
The order of finite numbers is that of their exact values, and rounding keeps it. The constants of
colors and numerals are evaluated once, at the end.
-/

namespace Preflight

/-! ## Nearest whole numbers and ranks -/

/-- The nearest whole number is at most one half away. -/
theorem abs_nearestNat_sub_le {x : ℚ} (nonneg : 0 ≤ x) : |(nearestNat x : ℚ) - x| ≤ 1 / 2 := by
  have below := Int.floor_le x
  have above := Int.lt_floor_add_one x
  have whole : ((x.floor.toNat : ℕ) : ℚ) = (x.floor : ℚ) := by
    have floor_nonneg : 0 ≤ x.floor := Int.floor_nonneg.2 nonneg
    exact_mod_cast Int.toNat_of_nonneg floor_nonneg
  have parity : (x.floor.toNat % 2 : ℕ) = 0 ∨ (x.floor.toNat % 2 : ℕ) = 1 := by omega
  change (x.floor : ℚ) ≤ x at below
  change x < (x.floor : ℚ) + 1 at above
  unfold nearestNat
  simp only
  rw [abs_le]
  split_ifs with less more
  · constructor <;> linarith
  · push_cast
    constructor <;> linarith
  · push_cast
    rcases parity with even | odd
    · rw [even]
      push_cast
      constructor <;> linarith
    · rw [odd]
      push_cast
      constructor <;> linarith

namespace FloatFormat

variable (f : FloatFormat)

/-- The magnitude of a rank that is put together from an exponent and a significand with all its
bits, or with fewer at the smallest exponent. -/
theorem magnitude_add (steps significand : ℕ) (upper : significand ≤ 2 ^ (f.fractionBits + 1))
    (lower : steps = 0 ∨ 2 ^ f.fractionBits ≤ significand) :
    f.magnitude (steps <<< f.fractionBits + significand)
      = significand * 2 ^ (f.minExponent + (steps : ℤ)) := by
  -- Upwards from the least such significand, each step adds one unit of the same last place.
  have grow (least : ℕ) (start : f.magnitude (steps <<< f.fractionBits + least)
      = least * 2 ^ (f.minExponent + (steps : ℤ)))
      (same : ∀ more, least ≤ more → more < 2 ^ (f.fractionBits + 1) →
        f.exponent (steps <<< f.fractionBits + more) = f.minExponent + (steps : ℤ))
      (more : ℕ) (from_least : least ≤ more) (bound : more ≤ 2 ^ (f.fractionBits + 1)) :
      f.magnitude (steps <<< f.fractionBits + more)
        = more * 2 ^ (f.minExponent + (steps : ℤ)) := by
    induction more, from_least using Nat.le_induction with
    | base => exact start
    | succ more at_least ih =>
      rw [← Nat.add_assoc, magnitude_succ, ih (by omega), same more at_least (by omega)]
      push_cast
      ring
  have pos : 0 < 2 ^ f.fractionBits := Nat.two_pow_pos _
  have double : 2 ^ (f.fractionBits + 1) = 2 * 2 ^ f.fractionBits := by
    rw [Nat.pow_succ, Nat.mul_comm]
  have field (more : ℕ) :
      (steps * 2 ^ f.fractionBits + more) / 2 ^ f.fractionBits
        = steps + more / 2 ^ f.fractionBits := by
    rw [Nat.add_comm, Nat.add_mul_div_right _ _ pos, Nat.add_comm]
  rcases lower with rfl | full
  · refine grow 0 ?_ ?_ significand (Nat.zero_le _) upper
    · simp [magnitude, FloatFormat.significand]
    · intro more _ bound
      have quotient : more / 2 ^ f.fractionBits < 2 := by
        rw [Nat.div_lt_iff_lt_mul pos]
        omega
      unfold exponent
      rw [Nat.shiftRight_eq_div_pow, Nat.shiftLeft_eq, field]
      have none : 0 + more / 2 ^ f.fractionBits - 1 = 0 := by omega
      rw [none]
  · refine grow (2 ^ f.fractionBits) ?_ ?_ significand full upper
    · unfold magnitude FloatFormat.significand exponent
      simp only [Nat.shiftRight_eq_div_pow, Nat.shiftLeft_eq, Nat.one_mul, field, Nat.div_self pos]
      have fraction : (steps * 2 ^ f.fractionBits + 2 ^ f.fractionBits) % 2 ^ f.fractionBits = 0 := by
        simp
      rw [fraction, if_neg (Nat.succ_ne_zero steps), Nat.add_sub_cancel]
      push_cast
      ring
    · intro more least bound
      have quotient : more / 2 ^ f.fractionBits = 1 := by
        rw [Nat.div_eq_iff pos]
        omega
      unfold exponent
      rw [Nat.shiftRight_eq_div_pow, Nat.shiftLeft_eq, field, quotient, Nat.add_sub_cancel]

/-- The magnitude of the nearest rank is the nearest multiple of the last place. -/
theorem magnitude_nearestRank {x : ℚ} (positive : 0 < x)
    (finite : f.nearestRank x < f.infinityRank) :
    f.magnitude (f.nearestRank x)
      = nearestNat (x / 2 ^ f.placeExponent x) * 2 ^ f.placeExponent x := by
  have least := f.minExponent_le_placeExponent x
  have upper : nearestNat (x / 2 ^ f.placeExponent x) ≤ 2 ^ (f.fractionBits + 1) :=
    nearestNat_le (by push_cast; exact (f.div_place_lt positive).le)
  have lower : (f.placeExponent x - f.minExponent).toNat = 0 ∨
      2 ^ f.fractionBits ≤ nearestNat (x / 2 ^ f.placeExponent x) := by
    by_cases normal : f.minExponent < f.placeExponent x
    · exact Or.inr (le_nearestNat (by push_cast; exact f.le_div_place positive normal))
    · exact Or.inl (by omega)
  have place : f.minExponent + ((f.placeExponent x - f.minExponent).toNat : ℤ)
      = f.placeExponent x := by omega
  have rank : f.nearestRank x = (f.placeExponent x - f.minExponent).toNat <<< f.fractionBits
      + nearestNat (x / 2 ^ f.placeExponent x) := by
    unfold nearestRank at finite ⊢
    simp only [if_neg positive.ne'] at finite ⊢
    split at finite
    · next below => rw [if_pos below]
    · exact absurd finite (lt_irrefl _)
  rw [rank, f.magnitude_add _ _ upper lower, place]

/-- Below a power of two the last place is at most that of the next smaller power. -/
theorem placeExponent_le {x : ℚ} {e : ℤ} (positive : 0 < x) (h : x < 2 ^ e)
    (normal : f.minExponent + f.fractionBits < e) : f.placeExponent x ≤ e - 1 - f.fractionBits := by
  have log : floorLog2 x < e := by
    have below := (floorLog2_bounds positive).1.trans_lt h
    exact (zpow_lt_zpow_iff_right₀ one_lt_two).1 below
  unfold placeExponent
  simp only
  split <;> omega

/-- Below a power of two, rounding changes a number by at most half of the last place there. -/
theorem abs_magnitude_nearestRank_sub_le {x : ℚ} {e : ℤ} (nonneg : 0 ≤ x) (h : x < 2 ^ e)
    (normal : f.minExponent + f.fractionBits < e) (finite : f.nearestRank x < f.infinityRank) :
    |f.magnitude (f.nearestRank x) - x| ≤ 2 ^ (e - f.fractionBits - 2) := by
  rcases nonneg.eq_or_lt with rfl | positive
  · have zero : f.magnitude (f.nearestRank 0) = 0 := by
      simp [nearestRank, magnitude, significand]
    rw [zero, sub_zero, abs_zero]
    positivity
  have power : (0 : ℚ) < 2 ^ f.placeExponent x := by positivity
  have nearest := abs_nearestNat_sub_le (x := x / 2 ^ f.placeExponent x) (by positivity)
  have scaled : f.magnitude (f.nearestRank x) - x
      = (nearestNat (x / 2 ^ f.placeExponent x) - x / 2 ^ f.placeExponent x)
        * 2 ^ f.placeExponent x := by
    rw [f.magnitude_nearestRank positive finite]
    field_simp
  have half : (2 : ℚ) ^ (e - f.fractionBits - 2) = 1 / 2 * 2 ^ (e - 1 - (f.fractionBits : ℤ)) := by
    have split : e - (f.fractionBits : ℤ) - 2 = -1 + (e - 1 - (f.fractionBits : ℤ)) := by ring
    rw [split, zpow_add₀ two_ne_zero]
    norm_num
  rw [scaled, abs_mul, abs_of_pos power, half]
  have place := zpow_le_zpow_right₀ (one_le_two (α := ℚ)) (f.placeExponent_le positive h normal)
  exact mul_le_mul nearest place power.le (by norm_num)

/-- Numbers below `2 ^ e` are finite, and rounded by at most half of the last place there. -/
structure Spans (f : FloatFormat) (e : ℤ) : Prop where
  normal : f.minExponent + f.fractionBits < e
  finite : f.nearestRank (2 ^ e) < f.infinityRank

/-- All powers of two that occur in colors and numerals are spanned. -/
theorem spans_of_le {e : ℤ} (lower : 0 ≤ e) (upper : e ≤ 64) : single.Spans e ∧ double.Spans e := by
  have smaller : (2 : ℚ) ^ e ≤ 2 ^ (64 : ℤ) := zpow_le_zpow_right₀ one_le_two upper
  have positive : (0 : ℚ) ≤ 2 ^ e := by positivity
  have finite : single.nearestRank (2 ^ (64 : ℤ)) < single.infinityRank ∧
      double.nearestRank (2 ^ (64 : ℤ)) < double.infinityRank := by decide +kernel
  exact ⟨⟨lt_of_lt_of_le (by decide) lower, (single.nearestRank_mono positive smaller).trans_lt finite.1⟩,
    ⟨lt_of_lt_of_le (by decide) lower, (double.nearestRank_mono positive smaller).trans_lt finite.2⟩⟩

end FloatFormat

/-! ## Order -/

namespace Binary

variable {f : FloatFormat}

theorem toRat_of_nonneg {x : Binary f} (h : x.negative = false) : x.toRat = f.magnitude x.rank := by
  rw [toRat, h]
  rfl

theorem toRat_nonneg {x : Binary f} (h : x.negative = false) : 0 ≤ x.toRat := by
  rw [toRat_of_nonneg h, FloatFormat.magnitude]
  positivity

theorem toRat_abs (x : Binary f) : x.abs.toRat = |x.toRat| := by
  have nonneg : 0 ≤ x.abs.toRat := toRat_nonneg rfl
  unfold toRat abs at nonneg ⊢
  simp only [Bool.false_eq_true, if_false] at nonneg ⊢
  split
  · rw [abs_neg, abs_of_nonneg nonneg]
  · rw [abs_of_nonneg nonneg]

theorem isNaN_of_isFinite {x : Binary f} (h : x.isFinite = true) : x.isNaN = false := by
  rw [isFinite, decide_eq_true_eq] at h
  rw [isNaN, decide_eq_false_iff_not]
  omega

/-- Finite numbers are in the order of their places. -/
theorem place_lt_place_iff {x y : Binary f} : x.place < y.place ↔ x.toRat < y.toRat := by
  have order := f.magnitude_strictMono.lt_iff_lt (a := x.rank) (b := y.rank)
  have reverse := f.magnitude_strictMono.lt_iff_lt (a := y.rank) (b := x.rank)
  have zero : f.magnitude 0 = 0 := by simp [FloatFormat.magnitude, FloatFormat.significand]
  have x_pos := f.magnitude_strictMono.lt_iff_lt (a := 0) (b := x.rank)
  have y_pos := f.magnitude_strictMono.lt_iff_lt (a := 0) (b := y.rank)
  have x_nonneg := f.magnitude_strictMono.monotone (Nat.zero_le x.rank)
  have y_nonneg := f.magnitude_strictMono.monotone (Nat.zero_le y.rank)
  rw [zero] at x_pos y_pos x_nonneg y_nonneg
  unfold place toRat
  cases x.negative <;> cases y.negative <;> simp only [Bool.false_eq_true, if_true, if_false]
  · rw [order]
    omega
  · constructor
    · intro less
      omega
    · intro less
      linarith
  · constructor
    · intro less
      have either : 0 < x.rank ∨ 0 < y.rank := by omega
      rcases either with x_rank | y_rank
      · linarith [x_pos.2 x_rank]
      · linarith [y_pos.2 y_rank]
    · intro less
      by_contra none
      have x_zero : x.rank = 0 := by omega
      have y_zero : y.rank = 0 := by omega
      rw [x_zero, y_zero, zero] at less
      linarith
  · rw [neg_lt_neg_iff, neg_lt_neg_iff, reverse]
    omega

theorem lt_iff {x y : Binary f} (hx : x.isFinite = true) (hy : y.isFinite = true) :
    x < y ↔ x.toRat < y.toRat := by
  rw [← place_lt_place_iff]
  show x.lt y = true ↔ _
  simp [lt, isNaN_of_isFinite hx, isNaN_of_isFinite hy]

theorem le_iff {x y : Binary f} (hx : x.isFinite = true) (hy : y.isFinite = true) :
    x ≤ y ↔ x.toRat ≤ y.toRat := by
  rw [← not_lt, ← place_lt_place_iff, not_lt]
  show x.le y = true ↔ _
  simp [le, isNaN_of_isFinite hx, isNaN_of_isFinite hy]

/-! ## Rounded numbers -/

theorem infinityRank_lt_ranks (f : FloatFormat) : f.infinityRank < f.ranks := by
  have bits : 0 < 2 ^ f.fractionBits := Nat.two_pow_pos _
  have fields : 0 < 2 ^ f.exponentBits := Nat.two_pow_pos _
  unfold FloatFormat.infinityRank FloatFormat.ranks
  rw [Nat.shiftLeft_eq, Nat.shiftLeft_eq, Nat.shiftLeft_eq, Nat.one_mul, Nat.one_mul, Nat.pow_add,
    Nat.mul_comm (2 ^ f.fractionBits)]
  exact Nat.mul_lt_mul_of_pos_right (by omega) bits

theorem rank_ofRank (negative : Bool) {rank : ℕ} (h : rank ≤ f.infinityRank) :
    (ofRank negative rank : Binary f).rank = rank :=
  Nat.mod_eq_of_lt (h.trans_lt (infinityRank_lt_ranks f))

theorem nearestRank_le_infinityRank (x : ℚ) : f.nearestRank x ≤ f.infinityRank := by
  unfold FloatFormat.nearestRank
  simp only
  split
  · exact Nat.zero_le _
  · split
    · next below => exact below.le
    · exact le_rfl

/-- The rank of a rounded number is the nearest one. -/
theorem rank_round {q : ℚ} (nonneg : 0 ≤ q) : (round false q : Binary f).rank = f.nearestRank q := by
  unfold round
  rw [if_neg (not_lt.2 nonneg)]
  split
  · next zero =>
    rw [zero, FloatFormat.nearestRank, if_pos rfl]
    exact rank_ofRank _ (Nat.zero_le _)
  · exact rank_ofRank _ (nearestRank_le_infinityRank q)

theorem toRat_round {q : ℚ} (nonneg : 0 ≤ q) :
    (round false q : Binary f).toRat = f.magnitude (f.nearestRank q) := by
  rw [toRat_of_nonneg (negative_round nonneg), rank_round nonneg]

/-- What is smaller than a number that is rounded to a finite one is rounded to a finite one. -/
theorem isFinite_round {q bound : ℚ} (nonneg : 0 ≤ q) (h : q ≤ bound)
    (finite : f.nearestRank bound < f.infinityRank) : (round false q : Binary f).isFinite = true := by
  rw [isFinite, decide_eq_true_eq, rank_round nonneg]
  exact (f.nearestRank_mono nonneg h).trans_lt finite

/-- Rounding keeps the order of exact values. -/
theorem toRat_round_mono {q r : ℚ} (nonneg : 0 ≤ q) (h : q ≤ r) :
    (round false q : Binary f).toRat ≤ (round false r : Binary f).toRat := by
  rw [toRat_round nonneg, toRat_round (nonneg.trans h)]
  exact f.magnitude_strictMono.monotone (f.nearestRank_mono nonneg h)

/-- A number without sign is rounded to the other format. -/
theorem convert_eq_round {g : FloatFormat} {x : Binary f} (hx : x.negative = false)
    (finite : x.isFinite = true) : (x.convert : Binary g) = round false x.toRat := by
  rw [convert, isNaN_of_isFinite finite, finite, hx]
  rfl

/-- The sum of numbers without sign is rounded once. -/
theorem add_eq_round {x y : Binary f} (hx : x.negative = false) (hy : y.negative = false)
    (x_finite : x.isFinite = true) (y_finite : y.isFinite = true) :
    x + y = round false (x.toRat + y.toRat) := by
  show add x y = _
  rw [add, isNaN_of_isFinite x_finite, isNaN_of_isFinite y_finite, x_finite, y_finite, hx, hy]
  rfl

/-- The product of numbers without sign is rounded once. -/
theorem mul_eq_round {x y : Binary f} (hx : x.negative = false) (hy : y.negative = false)
    (x_finite : x.isFinite = true) (y_finite : y.isFinite = true) :
    x * y = round false (x.toRat * y.toRat) := by
  show mul x y = _
  rw [mul, isNaN_of_isFinite x_finite, isNaN_of_isFinite y_finite, x_finite, y_finite, hx, hy]
  rfl

/-! ## Numbers near an exact value -/

/-- A finite number without sign, at most `error` away from `exact`. -/
structure Near (x : Binary f) (exact error : ℚ) : Prop where
  nonneg : x.negative = false
  finite : x.isFinite = true
  distance : |x.toRat - exact| ≤ error

namespace Near

variable {g : FloatFormat} {x y : Binary f} {q r ε δ : ℚ} {e : ℤ}

/-- A finite number is near itself. -/
theorem self (nonneg : x.negative = false) (finite : x.isFinite = true) : x.Near x.toRat 0 :=
  ⟨nonneg, finite, by simp⟩

theorem mono (near : x.Near q ε) (h : ε ≤ δ) : x.Near q δ :=
  ⟨near.nonneg, near.finite, near.distance.trans h⟩

theorem le_toRat (near : x.Near q ε) : q - ε ≤ x.toRat := by
  have := (abs_le.1 near.distance).1
  linarith

theorem toRat_le (near : x.Near q ε) : x.toRat ≤ q + ε := by
  have := (abs_le.1 near.distance).2
  linarith

theorem toRat_eq (near : x.Near q 0) : x.toRat = q := by
  have := near.le_toRat
  have := near.toRat_le
  linarith

/-- A rounded number is near the exact one. -/
theorem round {q : ℚ} {e : ℤ} (nonneg : 0 ≤ q) (h : q < 2 ^ e) (spans : f.Spans e) :
    (Binary.round false q : Binary f).Near q (2 ^ (e - f.fractionBits - 2)) where
  nonneg := negative_round nonneg
  finite := isFinite_round nonneg h.le spans.finite
  distance := by
    rw [toRat_round nonneg]
    exact f.abs_magnitude_nearestRank_sub_le nonneg h spans.normal
      ((f.nearestRank_mono nonneg h.le).trans_lt spans.finite)

/-- A number that is rounded again is near what it was near to. -/
theorem round_again (near : x.Near q ε) (h : q + ε < 2 ^ e) (spans : g.Spans e) :
    (Binary.round false x.toRat : Binary g).Near q (ε + 2 ^ (e - g.fractionBits - 2)) := by
  have rounded := round (toRat_nonneg near.nonneg) (near.toRat_le.trans_lt h) spans
  refine ⟨rounded.nonneg, rounded.finite, ?_⟩
  have := abs_le.1 rounded.distance
  have := near.le_toRat
  have := near.toRat_le
  rw [abs_le]
  constructor <;> linarith

/-- The same number in another format is near what it was near to. -/
theorem convert (near : x.Near q ε) (h : q + ε < 2 ^ e) (spans : g.Spans e) :
    (x.convert : Binary g).Near q (ε + 2 ^ (e - g.fractionBits - 2)) := by
  rw [convert_eq_round near.nonneg near.finite]
  exact near.round_again h spans

/-- The distances of two numbers and the rounding error add up in their sum. -/
theorem add (x_near : x.Near q ε) (y_near : y.Near r δ) (h : q + r + (ε + δ) < 2 ^ e)
    (spans : f.Spans e) :
    (x + y).Near (q + r) (ε + δ + 2 ^ (e - f.fractionBits - 2)) := by
  have sum_nonneg := add_nonneg (toRat_nonneg x_near.nonneg) (toRat_nonneg y_near.nonneg)
  have upper : x.toRat + y.toRat < 2 ^ e := by linarith [x_near.toRat_le, y_near.toRat_le]
  have rounded := round sum_nonneg upper spans
  rw [add_eq_round x_near.nonneg y_near.nonneg x_near.finite y_near.finite]
  refine ⟨rounded.nonneg, rounded.finite, ?_⟩
  have := abs_le.1 rounded.distance
  have := abs_le.1 x_near.distance
  have := abs_le.1 y_near.distance
  rw [abs_le]
  constructor <;> linarith

/-- In a product with a known number the distance is multiplied, and the rounding error is added. -/
theorem mul (x_near : x.Near q ε) (y_near : y.Near r 0) (h : (q + ε) * r < 2 ^ e)
    (spans : f.Spans e) :
    (x * y).Near (q * r) (ε * r + 2 ^ (e - f.fractionBits - 2)) := by
  obtain rfl := y_near.toRat_eq
  have factor := toRat_nonneg y_near.nonneg
  have product_nonneg := mul_nonneg (toRat_nonneg x_near.nonneg) factor
  have lower := mul_le_mul_of_nonneg_right x_near.le_toRat factor
  have upper := mul_le_mul_of_nonneg_right x_near.toRat_le factor
  have rounded := round product_nonneg (upper.trans_lt h) spans
  rw [mul_eq_round x_near.nonneg y_near.nonneg x_near.finite y_near.finite]
  refine ⟨rounded.nonneg, rounded.finite, ?_⟩
  have := abs_le.1 rounded.distance
  rw [abs_le]
  constructor <;> linarith

/-! Sums, products and whole parts keep the order. -/

section Order

variable {z : Binary f} {s η : ℚ}

theorem toRat_add_mono (x_near : x.Near q ε) (y_near : y.Near r δ) (z_near : z.Near s η)
    (h : x.toRat ≤ y.toRat) : (x + z).toRat ≤ (y + z).toRat := by
  rw [add_eq_round x_near.nonneg z_near.nonneg x_near.finite z_near.finite,
    add_eq_round y_near.nonneg z_near.nonneg y_near.finite z_near.finite]
  exact toRat_round_mono (add_nonneg (toRat_nonneg x_near.nonneg) (toRat_nonneg z_near.nonneg))
    (by linarith)

theorem toRat_mul_mono (x_near : x.Near q ε) (y_near : y.Near r δ) (z_near : z.Near s η)
    (h : x.toRat ≤ y.toRat) : (x * z).toRat ≤ (y * z).toRat := by
  have factor := toRat_nonneg z_near.nonneg
  rw [mul_eq_round x_near.nonneg z_near.nonneg x_near.finite z_near.finite,
    mul_eq_round y_near.nonneg z_near.nonneg y_near.finite z_near.finite]
  exact toRat_round_mono (mul_nonneg (toRat_nonneg x_near.nonneg) factor)
    (mul_le_mul_of_nonneg_right h factor)

theorem truncate_mono (limit : ℕ) (x_near : x.Near q ε) (y_near : y.Near r δ)
    (h : x.toRat ≤ y.toRat) : x.truncate limit ≤ y.truncate limit := by
  have floors : x.toRat.floor ≤ y.toRat.floor := Int.floor_le_floor h
  unfold truncate
  rw [isNaN_of_isFinite x_near.finite, isNaN_of_isFinite y_near.finite, x_near.nonneg, y_near.nonneg,
    x_near.finite, y_near.finite]
  simp only [Bool.or_self, Bool.false_eq_true, if_false, if_true]
  split <;> split <;> omega

end Order

/-- The whole part of a number that is near a value between two whole ones. -/
theorem truncate_bounds {k l limit : ℕ} (near : x.Near q ε) (lower : (k : ℚ) ≤ q - ε)
    (upper : q + ε < l + 1) (h : l < limit) : k ≤ x.truncate limit ∧ x.truncate limit ≤ l := by
  have least : (k : ℤ) ≤ x.toRat.floor := by
    have below : (k : ℚ) ≤ x.toRat := lower.trans near.le_toRat
    exact Int.le_floor.2 (by exact_mod_cast below)
  have most : x.toRat.floor < (l : ℤ) + 1 := by
    have above : x.toRat < l + 1 := near.toRat_le.trans_lt upper
    exact Int.floor_lt.2 (by exact_mod_cast above)
  unfold truncate
  rw [isNaN_of_isFinite near.finite, near.nonneg, near.finite]
  simp only [Bool.or_self, Bool.false_eq_true, if_false, if_true]
  rw [if_pos (by omega)]
  omega

/-- The whole part of a number that is near a value within a unit interval. -/
theorem truncate_eq {k limit : ℕ} (near : x.Near q ε) (lower : (k : ℚ) ≤ q - ε)
    (upper : q + ε < k + 1) (h : k < limit) : x.truncate limit = k :=
  (near.truncate_bounds lower upper h).elim fun least most => le_antisymm most least

end Near

/-- A number without sign beyond all finite ones is cut to the limit. -/
theorem truncate_round_of_infinite (limit : ℕ) {q : ℚ} (nonneg : 0 ≤ q)
    (infinite : (round false q : Binary f).isFinite = false) :
    (round false q : Binary f).truncate limit = limit := by
  have number : (round false q : Binary f).isNaN = false := by
    rw [isNaN, decide_eq_false_iff_not, rank_round nonneg, not_lt]
    exact nearestRank_le_infinityRank q
  unfold truncate
  rw [number, negative_round nonneg, infinite]
  rfl

/-- A larger number has no smaller whole part when both are rounded. -/
theorem truncate_round_mono (limit : ℕ) {q r : ℚ} (nonneg : 0 ≤ q) (h : q ≤ r) :
    (round false q : Binary f).truncate limit ≤ (round false r : Binary f).truncate limit := by
  have larger := nonneg.trans h
  cases r_finite : (round false r : Binary f).isFinite with
  | false =>
    rw [truncate_round_of_infinite limit larger r_finite]
    exact truncate_le limit _
  | true =>
    have r_rank : f.nearestRank r < f.infinityRank := by
      rw [isFinite, decide_eq_true_eq, rank_round larger] at r_finite
      exact r_finite
    have q_finite := isFinite_round nonneg h r_rank
    exact (Near.self (negative_round nonneg) q_finite).truncate_mono limit
      (.self (negative_round larger) r_finite) (toRat_round_mono nonneg h)

instance (x : Binary f) (exact error : ℚ) : Decidable (x.Near exact error) :=
  decidable_of_iff (x.negative = false ∧ x.isFinite = true ∧ |x.toRat - exact| ≤ error)
    ⟨fun h => ⟨h.1, h.2.1, h.2.2⟩, fun h => ⟨h.nonneg, h.finite, h.distance⟩⟩

/-! ## Constants -/

/-- The constants of colors and numerals: whole numbers and a half, which are exact, and three decimal
fractions. -/
theorem constants_near :
    ((0 : Single).Near 0 0 ∧ (1 : Single).Near 1 0) ∧
    ((0 : Double).Near 0 0 ∧ (0.5 : Double).Near (1 / 2) 0 ∧ (1 : Double).Near 1 0) ∧
    ((100 : Double).Near 100 0 ∧ (32767 : Double).Near 32767 0 ∧ (100000 : Double).Near 100000 0) ∧
    (0.000005 : Double).Near (5 / 10 ^ 6) (1 / 10 ^ 20) ∧
    (0.000015 : Double).Near (15 / 10 ^ 6) (1 / 10 ^ 20) ∧
    (0.005 : Double).Near (5 / 10 ^ 3) (1 / 10 ^ 18) := by
  decide +kernel

end Binary

theorem Single.zero_near : (0 : Single).Near 0 0 := Binary.constants_near.1.1

theorem Single.one_near : (1 : Single).Near 1 0 := Binary.constants_near.1.2

namespace Double

theorem zero_near : (0 : Double).Near 0 0 := Binary.constants_near.2.1.1

theorem half_near : (0.5 : Double).Near (1 / 2) 0 := Binary.constants_near.2.1.2.1

theorem one_near : (1 : Double).Near 1 0 := Binary.constants_near.2.1.2.2

theorem hundred_near : (100 : Double).Near 100 0 := Binary.constants_near.2.2.1.1

/-- Up to here numbers are written with hundredths. -/
theorem hundredthsLimit_near : (32767 : Double).Near 32767 0 := Binary.constants_near.2.2.1.2.1

theorem hundredThousand_near : (100000 : Double).Near 100000 0 := Binary.constants_near.2.2.1.2.2

theorem halfHundredThousandth_near : (0.000005 : Double).Near (5 / 10 ^ 6) (1 / 10 ^ 20) :=
  Binary.constants_near.2.2.2.1

/-- Below this numbers are written as zero. -/
theorem zeroLimit_near : (0.000015 : Double).Near (15 / 10 ^ 6) (1 / 10 ^ 20) :=
  Binary.constants_near.2.2.2.2.1

theorem halfHundredth_near : (0.005 : Double).Near (5 / 10 ^ 3) (1 / 10 ^ 18) :=
  Binary.constants_near.2.2.2.2.2

theorem round_one : (Binary.round false 1 : Double) = 1 :=
  congrArg (Binary.round false) Nat.cast_one.symm

/-- A number between 0 and 1 is rounded to one. -/
theorem round_mem_unit {q : ℚ} (nonneg : 0 ≤ q) (h : q ≤ 1) :
    (0 : Double) ≤ Binary.round false q ∧ Binary.round false q ≤ (1 : Double) := by
  have unit : FloatFormat.double.nearestRank 1 < FloatFormat.double.infinityRank := by
    have finite := one_near.finite
    rwa [← round_one, Binary.isFinite, decide_eq_true_eq, Binary.rank_round zero_le_one] at finite
  have finite : (Binary.round false q : Double).isFinite = true := Binary.isFinite_round nonneg h unit
  constructor
  · rw [Binary.le_iff zero_near.finite finite, zero_near.toRat_eq]
    exact Binary.toRat_nonneg (Binary.negative_round nonneg)
  · rw [Binary.le_iff finite one_near.finite, ← round_one]
    exact Binary.toRat_round_mono nonneg h

/-- `2 ^ 63` by its rank, with the doubles before and after it. -/
theorem magnitude_two_pow_63 :
    FloatFormat.double.magnitude 4890909195324358655 = 2 ^ 63 - 1024 ∧
      FloatFormat.double.magnitude 4890909195324358656 = 2 ^ 63 ∧
      FloatFormat.double.magnitude 4890909195324358657 = 2 ^ 63 + 2048 := by
  decide +kernel

/-- Half a unit more than these is rounded away. -/
theorem truncate_round_two_pow_63 :
    (Binary.round false (2 ^ 63 - 1024 + 1 / 2) : Double).truncate 18446744073709551615 < 2 ^ 63 ∧
      (Binary.round false (2 ^ 63 + 1 / 2) : Double).truncate 18446744073709551615 = 2 ^ 63 ∧
      2 ^ 63 < (Binary.round false (2 ^ 63 + 2048 + 1 / 2) : Double).truncate 18446744073709551615 := by
  decide +kernel

end Double

end Preflight

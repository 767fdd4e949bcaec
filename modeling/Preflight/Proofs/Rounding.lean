import Mathlib
import Preflight.Binary.Arithmetic

/-!
# Order and rounding

The magnitudes of a format grow with their ranks, and rounding to the nearest rank keeps the order
of the rational numbers. Bounds on rounded results follow from these two facts and a computation at
the bound itself.
-/

namespace Preflight

/-! ## Nearest whole numbers and powers of two -/

theorem nearestNat_le {x : ℚ} {bound : ℕ} (h : x ≤ bound) : nearestNat x ≤ bound := by
  have whole : x.floor.toNat ≤ bound := by
    have floor : x.floor ≤ bound := by
      rw [← Int.floor_natCast (R := ℚ) bound]
      exact Int.floor_le_floor h
    omega
  rcases whole.lt_or_eq with less | equal
  · unfold nearestNat
    simp only
    split
    · exact whole
    · split
      · exact less
      · omega
  · have excess : x - (x.floor.toNat : ℚ) < 1 / 2 := by
      rw [equal]
      linarith
    unfold nearestNat
    simp only
    rw [if_pos excess]
    exact whole

theorem le_nearestNat {x : ℚ} {bound : ℕ} (h : (bound : ℚ) ≤ x) : bound ≤ nearestNat x := by
  have whole : bound ≤ x.floor.toNat := by
    have floor : (bound : ℤ) ≤ x.floor := Int.le_floor.2 (by exact_mod_cast h)
    omega
  unfold nearestNat
  simp only
  split
  · exact whole
  · split <;> omega

/-- Rounding to a whole number keeps the order. Above the whole part of the smaller number the two
results can only meet, and with a common whole part the larger number has the larger excess. -/
theorem nearestNat_mono {x y : ℚ} (nonneg : 0 ≤ x) (h : x ≤ y) : nearestNat x ≤ nearestNat y := by
  have floors : x.floor ≤ y.floor := Int.floor_le_floor h
  have floor_nonneg : 0 ≤ x.floor := Int.floor_nonneg.2 nonneg
  rcases floors.lt_or_eq with less | equal
  · have above : x ≤ ((x.floor.toNat + 1 : ℕ) : ℚ) := by
      have := Int.lt_floor_add_one x
      have cast : ((x.floor.toNat : ℤ) : ℚ) = (x.floor : ℚ) := by
        rw [Int.toNat_of_nonneg floor_nonneg]
      push_cast at cast ⊢
      rw [cast]
      exact this.le
    have below : ((x.floor.toNat + 1 : ℕ) : ℚ) ≤ y := by
      have := Int.floor_le y
      have bound : ((x.floor.toNat + 1 : ℕ) : ℤ) ≤ y.floor := by omega
      calc ((x.floor.toNat + 1 : ℕ) : ℚ) = (((x.floor.toNat + 1 : ℕ) : ℤ) : ℚ) := by push_cast; rfl
        _ ≤ (y.floor : ℚ) := by exact_mod_cast bound
        _ ≤ y := this
    exact (nearestNat_le above).trans (le_nearestNat below)
  · unfold nearestNat
    simp only
    rw [← equal]
    split_ifs <;> first | omega | (exfalso; linarith)

/-- The whole power of two at or below a positive number, and the next one above it. -/
theorem floorLog2_bounds {x : ℚ} (positive : 0 < x) :
    (2 : ℚ) ^ floorLog2 x ≤ x ∧ x < 2 ^ (floorLog2 x + 1) := by
  have numerator : x.num.natAbs ≠ 0 := Int.natAbs_ne_zero.2 (Rat.num_pos.2 positive).ne'
  have value : x * x.den = x.num.natAbs := by
    have sign : (x.num.natAbs : ℤ) = x.num := Int.natAbs_of_nonneg (Rat.num_pos.2 positive).le
    rw [Rat.mul_den_eq_num, ← Int.cast_natCast (R := ℚ) x.num.natAbs, sign]
  have den_pos : (0 : ℚ) < x.den := by exact_mod_cast x.den_pos
  have low_n : (2 : ℚ) ^ x.num.natAbs.log2 ≤ x.num.natAbs := by
    exact_mod_cast Nat.log2_self_le numerator
  have high_n : (x.num.natAbs : ℚ) < 2 ^ (x.num.natAbs.log2 + 1) := by
    exact_mod_cast Nat.lt_log2_self
  have low_d : (2 : ℚ) ^ x.den.log2 ≤ x.den := by
    exact_mod_cast Nat.log2_self_le x.den_nz
  have high_d : (x.den : ℚ) < 2 ^ (x.den.log2 + 1) := by
    exact_mod_cast Nat.lt_log2_self
  set a := x.num.natAbs.log2 with ha
  set b := x.den.log2 with hb
  -- the quotient of the leading powers is at most one place off
  have below : (2 : ℚ) ^ ((a : ℤ) - b - 1) ≤ x := by
    have split : (2 : ℚ) ^ ((a : ℤ) - b - 1) * 2 ^ (b + 1) = 2 ^ a := by
      rw [← zpow_natCast, ← zpow_natCast, ← zpow_add₀ two_ne_zero]
      congr 1
      push_cast
      ring
    have power : (0 : ℚ) < 2 ^ ((a : ℤ) - b - 1) := by positivity
    nlinarith
  have above : x < (2 : ℚ) ^ ((a : ℤ) - b + 1) := by
    have split : (2 : ℚ) ^ ((a : ℤ) - b + 1) * 2 ^ b = 2 ^ (a + 1) := by
      rw [← zpow_natCast, ← zpow_natCast, ← zpow_add₀ two_ne_zero]
      congr 1
      push_cast
      ring
    have power : (0 : ℚ) < 2 ^ ((a : ℤ) - b + 1) := by positivity
    by_contra reached
    push Not at reached
    nlinarith
  have unfolded : floorLog2 x = if (2 : ℚ) ^ ((a : ℤ) - b) ≤ x then (a : ℤ) - b else (a : ℤ) - b - 1 :=
    rfl
  rw [unfolded]
  split
  · next reached => exact ⟨reached, above⟩
  · next missed =>
    refine ⟨below, ?_⟩
    rw [sub_add_cancel]
    exact not_le.1 missed

namespace FloatFormat

variable (f : FloatFormat)

/-! ## Magnitudes -/

/-- From one rank to the next the magnitude grows by the last place of the smaller one, also where
the exponent changes. -/
theorem magnitude_succ (rank : ℕ) :
    f.magnitude (rank + 1) = f.magnitude rank + 2 ^ f.exponent rank := by
  have pos : 0 < 2 ^ f.fractionBits := Nat.two_pow_pos _
  obtain ⟨field, fraction, less, rfl⟩ :
      ∃ field fraction, fraction < 2 ^ f.fractionBits ∧ rank = field * 2 ^ f.fractionBits + fraction :=
    ⟨rank / 2 ^ f.fractionBits, rank % 2 ^ f.fractionBits, Nat.mod_lt _ pos,
      (Nat.div_add_mod' rank _).symm⟩
  have fields {i j : ℕ} (h : j < 2 ^ f.fractionBits) :
      (i * 2 ^ f.fractionBits + j) / 2 ^ f.fractionBits = i ∧
        (i * 2 ^ f.fractionBits + j) % 2 ^ f.fractionBits = j :=
    ⟨by rw [Nat.add_comm, Nat.add_mul_div_right _ _ pos, Nat.div_eq_of_lt h, Nat.zero_add],
      by rw [Nat.add_comm, Nat.add_mul_mod_self_right, Nat.mod_eq_of_lt h]⟩
  unfold magnitude significand exponent
  simp only [Nat.shiftRight_eq_div_pow, Nat.shiftLeft_eq, Nat.one_mul, (fields less).1,
    (fields less).2]
  rcases Nat.lt_or_eq_of_le (Nat.succ_le_of_lt less) with within | carry
  · rw [Nat.add_assoc, (fields within).1, (fields within).2]
    push_cast
    ring
  · -- A full fraction carries into the next field; from a subnormal one the exponent stays.
    have next : field * 2 ^ f.fractionBits + fraction + 1 = (field + 1) * 2 ^ f.fractionBits + 0 := by
      rw [Nat.add_mul, ← carry]
      omega
    have full : ((fraction : ℕ) : ℚ) = 2 ^ f.fractionBits - 1 := by
      have cast : ((fraction + 1 : ℕ) : ℚ) = ((2 ^ f.fractionBits : ℕ) : ℚ) := by exact_mod_cast carry
      push_cast at cast
      linarith
    rw [next, (fields pos).1, (fields pos).2]
    cases field with
    | zero => simp [full]; ring
    | succ field =>
      have exponents : (2 : ℚ) ^ (f.minExponent + ((field + 1 + 1 - 1 : ℕ) : ℤ))
          = 2 * 2 ^ (f.minExponent + ((field + 1 - 1 : ℕ) : ℤ)) := by
        rw [← zpow_one_add₀ two_ne_zero]
        congr 1
        simp
        ring
      rw [exponents]
      push_cast
      rw [full]
      simp
      ring

/-- Magnitudes grow with their ranks. -/
theorem magnitude_strictMono : StrictMono f.magnitude := by
  refine strictMono_nat_of_lt_succ fun rank => ?_
  rw [magnitude_succ]
  have : (0 : ℚ) < 2 ^ f.exponent rank := by positivity
  linarith

/-! ## Nearest ranks -/

theorem minExponent_le_placeExponent (x : ℚ) : f.minExponent ≤ f.placeExponent x := by
  unfold placeExponent
  simp only
  split <;> omega

/-- Counted in its last place, a number has at most one bit more than a fraction. -/
theorem div_place_lt {x : ℚ} (positive : 0 < x) :
    x / 2 ^ f.placeExponent x < 2 ^ (f.fractionBits + 1) := by
  have power : (0 : ℚ) < 2 ^ f.placeExponent x := by positivity
  rw [div_lt_iff₀ power, ← zpow_natCast, ← zpow_add₀ two_ne_zero]
  refine (floorLog2_bounds positive).2.trans_le (zpow_le_zpow_right₀ one_le_two ?_)
  unfold placeExponent
  simp only
  split <;> push_cast <;> omega

/-- Above the smallest exponent, a number counted in its last place has all the bits of a
significand. -/
theorem le_div_place {x : ℚ} (positive : 0 < x) (normal : f.minExponent < f.placeExponent x) :
    (2 : ℚ) ^ f.fractionBits ≤ x / 2 ^ f.placeExponent x := by
  have power : (0 : ℚ) < 2 ^ f.placeExponent x := by positivity
  rw [le_div_iff₀ power, ← zpow_natCast, ← zpow_add₀ two_ne_zero]
  refine le_trans (zpow_le_zpow_right₀ one_le_two ?_) (floorLog2_bounds positive).1
  unfold placeExponent at normal ⊢
  simp only at normal ⊢
  split at normal <;> split <;> omega

theorem placeExponent_mono {x y : ℚ} (positive : 0 < x) (h : x ≤ y) :
    f.placeExponent x ≤ f.placeExponent y := by
  have logs : floorLog2 x ≤ floorLog2 y := by
    by_contra less
    have step : floorLog2 y + 1 ≤ floorLog2 x := by omega
    have := zpow_le_zpow_right₀ (one_le_two (α := ℚ)) step
    have := (floorLog2_bounds positive).1
    have := (floorLog2_bounds (positive.trans_le h)).2
    linarith
  unfold placeExponent
  simp only
  split <;> split <;> omega

/-- Rounding to the nearest rank keeps the order. With a common last place this is rounding to whole
numbers; otherwise the full significand of the smaller exponent lies between. -/
theorem nearestRank_mono {x y : ℚ} (nonneg : 0 ≤ x) (h : x ≤ y) :
    f.nearestRank x ≤ f.nearestRank y := by
  rcases nonneg.eq_or_lt with rfl | positive
  · simp [nearestRank]
  have larger : 0 < y := positive.trans_le h
  have ranks : (f.placeExponent x - f.minExponent).toNat <<< f.fractionBits
        + nearestNat (x / 2 ^ f.placeExponent x)
      ≤ (f.placeExponent y - f.minExponent).toNat <<< f.fractionBits
        + nearestNat (y / 2 ^ f.placeExponent y) := by
    rw [Nat.shiftLeft_eq, Nat.shiftLeft_eq]
    rcases (f.placeExponent_mono positive h).eq_or_lt with same | apart
    · rw [same]
      refine Nat.add_le_add_left (nearestNat_mono ?_ ?_) _
      · positivity
      · gcongr
    · -- The smaller significand is at most twice the full one, and the larger one is full.
      have least := f.minExponent_le_placeExponent x
      have upper : nearestNat (x / 2 ^ f.placeExponent x) ≤ 2 ^ (f.fractionBits + 1) :=
        nearestNat_le (by push_cast; exact (f.div_place_lt positive).le)
      have lower : 2 ^ f.fractionBits ≤ nearestNat (y / 2 ^ f.placeExponent y) :=
        le_nearestNat (by push_cast; exact f.le_div_place larger (by omega))
      have steps : (f.placeExponent x - f.minExponent).toNat + 1
          ≤ (f.placeExponent y - f.minExponent).toNat := by omega
      have scaled := Nat.mul_le_mul_right (2 ^ f.fractionBits) steps
      rw [Nat.add_mul] at scaled
      rw [Nat.pow_succ] at upper
      omega
  unfold nearestRank
  simp only
  rw [if_neg positive.ne', if_neg larger.ne']
  split <;> split <;> omega

end FloatFormat

/-! ## Rounded numbers -/

namespace Binary

variable {f : FloatFormat}

theorem negative_round {q : ℚ} (nonneg : 0 ≤ q) : (round false q : Binary f).negative = false := by
  unfold round
  rw [if_neg (not_lt.2 nonneg)]
  split <;> rfl

theorem rank_round_le {q bound : ℚ} (nonneg : 0 ≤ q) (h : q ≤ bound) :
    (round false q : Binary f).rank ≤ f.nearestRank bound := by
  unfold round
  rw [if_neg (not_lt.2 nonneg)]
  split
  · simp [zero, ofRank]
  · exact (Nat.mod_le _ _).trans (f.nearestRank_mono nonneg h)

/-- A whole part is cut to the limit. -/
theorem truncate_le (limit : ℕ) (x : Binary f) : x.truncate limit ≤ limit := by
  unfold truncate
  split
  · exact Nat.zero_le limit
  split
  · simp only
    split
    · next below => exact below.le
    · exact le_rfl
  · exact le_rfl

end Binary

end Preflight

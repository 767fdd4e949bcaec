import Mathlib
import Preflight.Profile.Cmyk

/-!
# Exact gray component replacement

Gray component replacement loses nothing but what rounding loses. The same steps in exact arithmetic
map the colors that are brighter than black to the inks that have no gray in common, other than full
black, and the way back is the inverse. Numbers out of range count as the nearest ones in range.
-/

namespace Preflight

/-! ## Numbers in range -/

theorem clampUnit_eq (x : ℚ) : clampUnit x = max 0 (min x 1) := by
  unfold clampUnit
  split_ifs with negative large
  · exact (max_eq_left ((min_le_left x 1).trans negative.le)).symm
  · rw [min_eq_right large.le, max_eq_right zero_le_one]
  · rw [min_eq_left (not_lt.1 large), max_eq_right (not_lt.1 negative)]
  · exact absurd le_rfl ‹¬x ≤ x›

theorem clampUnit_of_mem {x : ℚ} (inside : x ∈ Set.Icc 0 1) : clampUnit x = x := by
  rw [clampUnit_eq, min_eq_left inside.2, max_eq_right inside.1]

theorem clampUnit_mem (x : ℚ) : clampUnit x ∈ Set.Icc 0 1 := by
  rw [clampUnit_eq]
  exact ⟨le_max_left 0 _, max_le zero_le_one (min_le_right x 1)⟩

theorem clampUnit_clamped (x : ℚ) : clampUnit (max 0 (min x 1)) = clampUnit x := by
  rw [← clampUnit_eq, clampUnit_of_mem (clampUnit_mem x)]

theorem larger_eq_max (a b : ℚ) : larger a b = max a b := by
  unfold larger
  split_ifs with less
  · exact (max_eq_right less.le).symm
  · exact (max_eq_left (not_lt.1 less)).symm

/-- A component relative to the largest one. -/
theorem div_mem_unit {x largest : ℚ} (nonneg : 0 ≤ x) (le : x ≤ largest) :
    x / largest ∈ Set.Icc 0 1 :=
  ⟨div_nonneg nonneg (nonneg.trans le), div_le_one_of_le₀ le (nonneg.trans le)⟩

theorem one_sub_mem_unit {x : ℚ} (inside : x ∈ Set.Icc 0 1) : 1 - x ∈ Set.Icc 0 1 :=
  ⟨sub_nonneg.2 inside.2, sub_le_self 1 inside.1⟩

theorem mul_mem_unit {x y : ℚ} (x_inside : x ∈ Set.Icc 0 1) (y_inside : y ∈ Set.Icc 0 1) :
    x * y ∈ Set.Icc 0 1 :=
  ⟨mul_nonneg x_inside.1 y_inside.1, mul_le_one₀ x_inside.2 y_inside.1 y_inside.2⟩

/-! ## Colors -/

namespace Rgb

variable {color : Rgb ℚ} {tolerance : ℚ}

/-- All components are in range. -/
structure InUnit (color : Rgb ℚ) : Prop where
  red : color.red ∈ Set.Icc 0 1
  green : color.green ∈ Set.Icc 0 1
  blue : color.blue ∈ Set.Icc 0 1

/-- The largest component. -/
def brightness (color : Rgb ℚ) : ℚ := max (max color.red color.green) color.blue

theorem red_le_brightness : color.red ≤ color.brightness :=
  (le_max_left color.red color.green).trans (le_max_left _ color.blue)

theorem green_le_brightness : color.green ≤ color.brightness :=
  (le_max_right color.red color.green).trans (le_max_left _ color.blue)

theorem blue_le_brightness : color.blue ≤ color.brightness := le_max_right _ color.blue

theorem InUnit.brightness (inside : color.InUnit) : color.brightness ∈ Set.Icc 0 1 :=
  ⟨inside.red.1.trans red_le_brightness, max_le (max_le inside.red.2 inside.green.2) inside.blue.2⟩

theorem InUnit.map_clampUnit (inside : color.InUnit) : color.map clampUnit = color := by
  unfold map
  rw [clampUnit_of_mem inside.red, clampUnit_of_mem inside.green, clampUnit_of_mem inside.blue]

end Rgb

/-! ## Inks -/

namespace Cmyk

variable {inks : Cmyk ℚ}

/-- All amounts are in range. -/
structure InUnit (inks : Cmyk ℚ) : Prop where
  cyan : inks.cyan ∈ Set.Icc 0 1
  magenta : inks.magenta ∈ Set.Icc 0 1
  yellow : inks.yellow ∈ Set.Icc 0 1
  black : inks.black ∈ Set.Icc 0 1

/-- The gray that the three colored inks have in common. -/
def commonGray (inks : Cmyk ℚ) : ℚ := min (min inks.cyan inks.magenta) inks.yellow

theorem InUnit.map_clampUnit (inside : inks.InUnit) : inks.map clampUnit = inks := by
  unfold map
  rw [clampUnit_of_mem inside.cyan, clampUnit_of_mem inside.magenta, clampUnit_of_mem inside.yellow,
    clampUnit_of_mem inside.black]

theorem toRgb_eq (inside : inks.InUnit) :
    inks.toRgb = ⟨(1 - inks.cyan) * (1 - inks.black), (1 - inks.magenta) * (1 - inks.black),
      (1 - inks.yellow) * (1 - inks.black)⟩ := by
  unfold toRgb
  rw [inside.map_clampUnit]

theorem inUnit_toRgb (inside : inks.InUnit) : inks.toRgb.InUnit := by
  have light := one_sub_mem_unit inside.black
  rw [toRgb_eq inside]
  exact ⟨mul_mem_unit (one_sub_mem_unit inside.cyan) light,
    mul_mem_unit (one_sub_mem_unit inside.magenta) light,
    mul_mem_unit (one_sub_mem_unit inside.yellow) light⟩

/-- The largest component of the color of inks: black and the common gray are taken away. -/
theorem brightness_toRgb (inside : inks.InUnit) :
    inks.toRgb.brightness = (1 - inks.commonGray) * (1 - inks.black) := by
  have light := (one_sub_mem_unit inside.black).1
  rw [toRgb_eq inside]
  unfold Rgb.brightness commonGray
  simp only
  rw [← max_mul_of_nonneg _ _ light, ← max_mul_of_nonneg _ _ light, max_sub_sub_left,
    max_sub_sub_left]

end Cmyk

/-! ## There and back -/

namespace Rgb

variable {color : Rgb ℚ} {tolerance : ℚ}

/-- The amount of a colored ink, where `largest` is the largest component. -/
theorem ink_eq {x largest : ℚ} (positive : 0 < largest) (nonneg : 0 ≤ x) (le : x ≤ largest) :
    clampUnit ((1 - x - (1 - largest)) / (1 - (1 - largest))) = 1 - x / largest := by
  have quotient : (1 - x - (1 - largest)) / (1 - (1 - largest)) = 1 - x / largest := by
    rw [sub_sub_cancel, sub_sub_sub_cancel_left, sub_div, div_self positive.ne']
  rw [quotient, clampUnit_of_mem (one_sub_mem_unit (div_mem_unit nonneg le))]

/-- The inks of a color that is brighter than black. -/
theorem toCmyk_eq (nonneg : 0 ≤ tolerance) (inside : color.InUnit)
    (bright : tolerance < color.brightness) :
    color.toCmyk tolerance =
      ⟨1 - color.red / color.brightness, 1 - color.green / color.brightness,
        1 - color.blue / color.brightness, 1 - color.brightness⟩ := by
  have positive : 0 < color.brightness := nonneg.trans_lt bright
  have largest : larger (larger color.red color.green) color.blue = color.brightness := by
    rw [larger_eq_max, larger_eq_max, brightness]
  unfold toCmyk
  rw [inside.map_clampUnit]
  simp only
  rw [largest, if_neg (not_le.2 (sub_lt_sub_left bright 1)),
    ink_eq positive inside.red.1 red_le_brightness,
    ink_eq positive inside.green.1 green_le_brightness,
    ink_eq positive inside.blue.1 blue_le_brightness,
    clampUnit_of_mem (one_sub_mem_unit inside.brightness)]

theorem inUnit_toCmyk (nonneg : 0 ≤ tolerance) (inside : color.InUnit)
    (bright : tolerance < color.brightness) : (color.toCmyk tolerance).InUnit := by
  rw [toCmyk_eq nonneg inside bright]
  exact ⟨one_sub_mem_unit (div_mem_unit inside.red.1 red_le_brightness),
    one_sub_mem_unit (div_mem_unit inside.green.1 green_le_brightness),
    one_sub_mem_unit (div_mem_unit inside.blue.1 blue_le_brightness),
    one_sub_mem_unit inside.brightness⟩

/-- The largest component leaves no gray to the colored inks. -/
theorem commonGray_toCmyk (nonneg : 0 ≤ tolerance) (inside : color.InUnit)
    (bright : tolerance < color.brightness) : (color.toCmyk tolerance).commonGray = 0 := by
  have positive : 0 < color.brightness := nonneg.trans_lt bright
  rw [toCmyk_eq nonneg inside bright]
  unfold Cmyk.commonGray
  simp only
  rw [min_sub_sub_left, min_sub_sub_left, max_div_div_right positive.le,
    max_div_div_right positive.le]
  change 1 - color.brightness / color.brightness = 0
  rw [div_self positive.ne', sub_self]

/-- The way back takes from full light what the inks took from it. -/
theorem toRgb_toCmyk (nonneg : 0 ≤ tolerance) (inside : color.InUnit)
    (bright : tolerance < color.brightness) : (color.toCmyk tolerance).toRgb = color := by
  have positive : 0 < color.brightness := nonneg.trans_lt bright
  rw [Cmyk.toRgb_eq (inUnit_toCmyk nonneg inside bright), toCmyk_eq nonneg inside bright]
  simp only [sub_sub_cancel, div_mul_cancel₀ _ positive.ne']

end Rgb

namespace Cmyk

variable {inks : Cmyk ℚ} {tolerance : ℚ}

/-- Inks without common gray are those of their color. -/
theorem toCmyk_toRgb (nonneg : 0 ≤ tolerance) (inside : inks.InUnit)
    (colored : inks.commonGray = 0) (light : tolerance < 1 - inks.black) :
    inks.toRgb.toCmyk tolerance = inks := by
  have positive : 0 < 1 - inks.black := nonneg.trans_lt light
  have brightness : inks.toRgb.brightness = 1 - inks.black := by
    rw [brightness_toRgb inside, colored, sub_zero, one_mul]
  rw [Rgb.toCmyk_eq nonneg (inUnit_toRgb inside) (brightness ▸ light), brightness,
    toRgb_eq inside]
  simp only [mul_div_cancel_right₀ _ positive.ne', sub_sub_cancel]

end Cmyk

/-- The tolerance is the distance of 1 to the next double. -/
theorem toRat_tolerance : Double.tolerance.toRat = 1 / 2 ^ 52 := by decide +kernel

/-- In exact arithmetic, a color in range that is brighter than the tolerance has inks in range
without common gray, and they have that very color; inks in range without common gray, with black
short of full by more than the tolerance, are the very inks of their color; and numbers out of range
give what the nearest numbers in range give. -/
theorem grayReplacement_exact :
    (∀ color : Rgb ℚ, color.InUnit → Double.tolerance.toRat < color.brightness →
      (color.toCmyk Double.tolerance.toRat).InUnit ∧
      (color.toCmyk Double.tolerance.toRat).commonGray = 0 ∧
      (color.toCmyk Double.tolerance.toRat).toRgb = color) ∧
    (∀ inks : Cmyk ℚ, inks.InUnit → inks.commonGray = 0 →
      Double.tolerance.toRat < 1 - inks.black →
      inks.toRgb.toCmyk Double.tolerance.toRat = inks) ∧
    (∀ color : Rgb ℚ, color.toCmyk Double.tolerance.toRat
      = (color.map fun x => max 0 (min x 1)).toCmyk Double.tolerance.toRat) ∧
    ∀ inks : Cmyk ℚ, inks.toRgb = (inks.map fun x => max 0 (min x 1)).toRgb := by
  have nonneg : 0 ≤ Double.tolerance.toRat := by
    rw [toRat_tolerance]
    positivity
  refine ⟨fun color inside bright => ?_, fun inks inside colored light => ?_, fun color => ?_,
    fun inks => ?_⟩
  · exact ⟨color.inUnit_toCmyk nonneg inside bright, color.commonGray_toCmyk nonneg inside bright,
      color.toRgb_toCmyk nonneg inside bright⟩
  · exact Cmyk.toCmyk_toRgb nonneg inside colored light
  · unfold Rgb.toCmyk Rgb.map
    simp only [clampUnit_clamped]
  · unfold Cmyk.toRgb Cmyk.map
    simp only [clampUnit_clamped]

/-- A color without gray. -/
def orange : Rgb ℚ := ⟨1, 1 / 2, 0⟩

/-- A color with gray, in black. -/
def brown : Cmyk ℚ := ⟨0, 1 / 2, 1, 3 / 4⟩

theorem grayReplacement_exact_orange :
    (orange.InUnit ∧ Double.tolerance.toRat < orange.brightness ∧
      (orange.toCmyk Double.tolerance.toRat).toRgb = orange) ∧
    brown.InUnit ∧ brown.commonGray = 0 ∧ Double.tolerance.toRat < 1 - brown.black ∧
      brown.toRgb.toCmyk Double.tolerance.toRat = brown := by
  have orange_inside : orange.InUnit := by constructor <;> norm_num [orange]
  have orange_bright : Double.tolerance.toRat < orange.brightness := by
    norm_num [toRat_tolerance, orange, Rgb.brightness]
  have brown_inside : brown.InUnit := by constructor <;> norm_num [brown]
  have brown_colored : brown.commonGray = 0 := by norm_num [brown, Cmyk.commonGray]
  have brown_light : Double.tolerance.toRat < 1 - brown.black := by
    norm_num [toRat_tolerance, brown]
  obtain ⟨color_back, inks_back, -⟩ := grayReplacement_exact
  exact ⟨⟨orange_inside, orange_bright, (color_back orange orange_inside orange_bright).2.2⟩,
    brown_inside, brown_colored, brown_light,
    inks_back brown brown_inside brown_colored brown_light⟩

end Preflight

import Mathlib
import Preflight.Proofs.PaintedSpaces
import Preflight.Proofs.WiderLimits

/-!
# Painting in a space and shading in it

The color that operands give in a space is judged like the space. A color nests no deeper than its
space: a profile, a palette and several colorants together give a color of the space under them, and
only a single colorant adds a level of its own. So where a shading in the space can be judged within
the limit, the color can be judged too, with the same verdict; and the numbers of a color never
matter.
-/

namespace Preflight

namespace ColorSpace

variable {maxDepth : ℕ}

/-- Two colors that one space gives get the same verdict, whatever their numbers are. -/
theorem Gives.checkWithin_eq {space : ColorSpace} {color other : Color}
    (gives : space.Gives color) (gives' : space.Gives other) (level : ℕ) :
    color.checkWithin maxDepth level = other.checkWithin maxDepth level := by
  induction gives generalizing other level with
  | deviceGray _ | calGray _ | deviceCmyk _ _ _ _ | deviceRgb _ _ _ | calRgb _ _ _ =>
    cases gives'
    cases level <;> rfl
  | iccBased _ _ ih =>
    cases gives' with
    | iccBased _ inner => exact ih inner level
  | indexed _ _ _ ih =>
    cases gives' with
    | indexed _ _ inner => exact ih inner level
  | deviceN _ _ ih =>
    cases gives' with
    | deviceN _ inner => exact ih inner level
  | separation _ _ _ ih =>
    cases gives' with
    | separation _ _ inner =>
      cases level with
      | zero => rfl
      | succ level => exact ih inner level

end ColorSpace

namespace Settings

variable [StreamDecoder] {settings : Settings} {space : ColorSpace} {components : List Single}
  {color : Color}

/-- The strict check of a color. -/
theorem check_color (strict : settings.level.isStrict = true) (color : Color) :
    settings.check (.color color)
      = color.checkWithin settings.maxColorDepth (settings.maxColorDepth + 1) := by
  unfold check checkColor
  rw [isRequired_of_isStrict strict, strict]
  rfl

/-- Where a shading in a space can be judged within the limit, the color that operands give in the
space can be judged too, and it passes exactly if the shading does. The verdict on a color is the
same for all operands that give one. -/
theorem check_painted (strict : settings.level.isStrict = true)
    (painted : space.color? components = some color) :
    ((∀ failure, settings.check (.color (.shading space)) = .error failure →
        ¬failure.IsLimit) →
      (∀ failure, settings.check (.color color) = .error failure → ¬failure.IsLimit) ∧
      (settings.check (.color color) = .ok () ↔
        settings.check (.color (.shading space)) = .ok ())) ∧
    ∀ values other, space.color? values = some other →
      settings.check (.color other) = settings.check (.color color) := by
  have gives : space.Gives color := ColorSpace.gives_of_color? painted
  have deeper : settings.maxColorDepth ≤ settings.maxColorDepth + 1 := Nat.le_succ _
  constructor
  · intro settled
    rw [check_shading strict] at settled ⊢
    rw [check_color strict]
    rcases gives.judged settings.maxColorDepth deeper with
      ⟨passes, color_passes⟩ | ⟨objection, violates, color_violates⟩ | limited
    · rw [passes, color_passes]
      refine ⟨?_, Iff.rfl⟩
      rintro failure ⟨⟩
    · rw [violates, color_violates]
      constructor
      · rintro failure ⟨⟩ limit
        exact limit
      · constructor <;> rintro ⟨⟩
    · exact absurd (StreamFailure.isLimit_limitExceeded ..) (settled _ limited)
  · intro values other other_painted
    have other_gives : space.Gives other := ColorSpace.gives_of_color? other_painted
    rw [check_color strict, check_color strict]
    exact other_gives.checkWithin_eq gives _

end Settings

/-! ## A colorant over a palette -/

attribute [local instance] StreamDecoder.withoutFilters

/-- A single colorant over a palette of two colors in calibrated RGB. -/
def paletteColorant : ColorSpace := .separation "Gold" (.indexed .calRgb 1 [255, 0, 0, 0, 255, 0])

/-- A tint of the palette colorant stands over the first color of the palette, and is a violation as
the shading is. -/
theorem check_painted_paletteColorant :
    let strict := Settings.ofLevel .x1a
    let tint : Single := 1 / 2
    paletteColorant.color? [tint] = some (.separation "Gold" tint (.rgb 1 0 0)) ∧
    strict.check (.color (.shading paletteColorant)) = .error (.violation .color .calRgb) ∧
    strict.check (.color (.separation "Gold" tint (.rgb 1 0 0))) ≠ .ok () := by
  intro strict tint
  have painted : paletteColorant.color? [tint] = some (.separation "Gold" tint (.rgb 1 0 0)) := by
    decide +kernel
  have shading : strict.check (.color (.shading paletteColorant))
      = .error (.violation .color .calRgb) := rfl
  have settled : ∀ failure, strict.check (.color (.shading paletteColorant)) = .error failure →
      ¬failure.IsLimit := by
    rw [shading]
    rintro failure ⟨⟩ limit
    exact limit
  have level : strict.level.isStrict = true := rfl
  obtain ⟨judged, -⟩ := Settings.check_painted level painted
  refine ⟨painted, shading, fun passes => ?_⟩
  have shading_passes := (judged settled).2.1 passes
  rw [shading] at shading_passes
  cases shading_passes

end Preflight

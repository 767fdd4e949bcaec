import Mathlib
import Preflight.Color

/-!
# The number of components of a color

A space gives a color only for as many components as it has, with two exceptions. A profile hands the
components on to its alternate and does not compare their number with the one it declares, and a
palette reads the first component and passes over the others. The space under all profiles therefore
decides how many components are taken.
-/

namespace Preflight

namespace ColorSpace

/-- The space in which the colors of a profile are given: the alternate under all profiles. -/
def underProfiles : ColorSpace → ColorSpace
  | iccBased _ alternate => alternate.underProfiles
  | space => space

/-- Whether the colors of a space are numbered by a palette. -/
def isPalette : ColorSpace → Bool
  | indexed .. => true
  | _ => false

/-- Whether each profile declares as many components as its alternate has, down to the space under
all profiles. -/
def profilesAgree : ColorSpace → Bool
  | iccBased components alternate => alternate.componentCount == components && alternate.profilesAgree
  | _ => true

/-- A profile gives the colors of its alternate. -/
theorem color?_underProfiles (space : ColorSpace) (components : List Single) :
    space.underProfiles.color? components = space.color? components := by
  induction space with
  | iccBased _ alternate ih =>
    rw [underProfiles, color?]
    exact ih
  | _ => rfl

theorem componentCount_underProfiles {space : ColorSpace} (agree : space.profilesAgree = true) :
    space.underProfiles.componentCount = space.componentCount := by
  induction space with
  | iccBased components alternate ih =>
    rw [profilesAgree, Bool.and_eq_true, beq_iff_eq] at agree
    rw [underProfiles, ih agree.2, agree.1, componentCount]
  | _ => rfl

/-- What lies under all profiles is not a profile. -/
theorem underProfiles_ne_iccBased (space : ColorSpace) (components : ℕ) (alternate : ColorSpace) :
    space.underProfiles ≠ iccBased components alternate := by
  induction space with
  | iccBased _ _ ih => exact ih
  | _ => exact ColorSpace.noConfusion

/-- A space that is neither a profile nor a palette gives a color only for as many components as it
has. -/
theorem length_of_color? {space : ColorSpace} {components : List Single} {color : Color}
    (h : space.color? components = some color) (no_palette : space.isPalette = false)
    (no_profile : ∀ declared alternate, space ≠ iccBased declared alternate) :
    components.length = space.componentCount := by
  unfold color? at h
  split at h
  · rfl
  · rfl
  · rfl
  · rfl
  · rfl
  · exact absurd rfl (no_profile _ _)
  · cases no_palette
  · rfl
  · split at h
    · assumption
    · cases h
  · cases h

/-- A palette reads the first component only. -/
theorem exists_index_of_color? {space : ColorSpace} {components : List Single} {color : Color}
    (h : space.color? components = some color) (palette : space.isPalette = true) :
    ∃ index more, components = index :: more ∧
      ∀ others, space.color? (index :: others) = some color := by
  cases space with
  | indexed base last entries =>
    cases components with
    | nil =>
      rw [color?] at h
      · cases h
      all_goals simp
    | cons index more =>
      refine ⟨index, more, rfl, fun others => ?_⟩
      rw [color?] at h ⊢
      exact h
  | _ => cases palette

/-- Where a space gives a color, the number of components is that of the space under all profiles,
unless that is a palette, which passes over all components but the first. It is the number of
components of the space itself if its profiles declare what their alternates have. -/
theorem componentCount_of_color? {space : ColorSpace} {components : List Single} {color : Color}
    (h : space.color? components = some color) :
    (space.underProfiles.isPalette = false →
      components.length = space.underProfiles.componentCount ∧
        (space.profilesAgree = true → components.length = space.componentCount)) ∧
    (space.underProfiles.isPalette = true →
      ∃ index more, components = index :: more ∧
        ∀ others, space.color? (index :: others) = some color) := by
  have under := h
  rw [← color?_underProfiles] at under
  constructor
  · intro no_palette
    have length := length_of_color? under no_palette space.underProfiles_ne_iccBased
    refine ⟨length, fun agree => ?_⟩
    rw [length, componentCount_underProfiles agree]
  · intro palette
    obtain ⟨index, more, split, first⟩ := exists_index_of_color? under palette
    refine ⟨index, more, split, fun others => ?_⟩
    rw [← color?_underProfiles]
    exact first others

/-- A profile over two colorants. -/
theorem componentCount_of_color?_duotone :
    let duotone := iccBased 2 (deviceN ["Gold", "Silver"] (separation "Spot" deviceCmyk))
    ∃ color, duotone.color? [0, 1] = some color ∧ [(0 : Single), 1].length = duotone.componentCount := by
  have h : (iccBased 2 (deviceN ["Gold", "Silver"] (separation "Spot" deviceCmyk))).color? [0, 1]
      = some (.ofSeparation "Spot" 1 (.cmyk 0 0 0 1)) := by
    simp [color?, initialColor?]
  exact ⟨_, h, ((componentCount_of_color? h).1 rfl).2 rfl⟩

/-- A palette takes two components, and a profile of four components takes the three of its
alternate. -/
theorem componentCount_of_color?_ne :
    (((indexed deviceGray 0 [0]).color? [0, 1]).isSome = true ∧
      [(0 : Single), 1].length ≠ (indexed deviceGray 0 [0]).componentCount) ∧
    ((iccBased 4 deviceRgb).color? [0, 0, 0]).isSome = true ∧
      [(0 : Single), 0, 0].length ≠ (iccBased 4 deviceRgb).componentCount := by
  decide +kernel

end ColorSpace

end Preflight

import Mathlib
import Preflight.Proofs.CheckedResources
import Preflight.Proofs.Rounding

/-!
# Painting in a color space

A shading is judged by its color space, but content that paints in a space is judged by the color
that its operands give there. Where they give one, it is judged like the space. But a space may hold
no color for its operands, and then nothing is judged: so a space of which RGB is a part passes
exactly where it is not consistent enough to give a color.
-/

namespace Preflight

namespace ColorSpace

/-! ## Colors of a space -/

/-- The colors that a space may give: colors of its device, which a special space takes from its
alternate or base, and tints of a named ink over them. -/
inductive Gives : ColorSpace → Color → Prop where
  | deviceGray (level : Single) : Gives deviceGray (.gray level)
  | calGray (level : Single) : Gives calGray (.gray level)
  | deviceRgb (red green blue : Single) : Gives deviceRgb (.rgb red green blue)
  | calRgb (red green blue : Single) : Gives calRgb (.rgb red green blue)
  | deviceCmyk (cyan magenta yellow black : Single) :
      Gives deviceCmyk (.cmyk cyan magenta yellow black)
  | iccBased {alternate : ColorSpace} {color : Color} (components : ℕ)
      (inner : Gives alternate color) : Gives (iccBased components alternate) color
  | indexed {base : ColorSpace} {color : Color} (last : ℕ) (palette : Bytes)
      (inner : Gives base color) : Gives (indexed base last palette) color
  | separation {alternate : ColorSpace} {color : Color} (name : String) (tint : Single)
      (inner : Gives alternate color) :
      Gives (separation name alternate) (.separation name tint color)
  | deviceN {alternate : ColorSpace} {color : Color} (names : List String)
      (inner : Gives alternate color) : Gives (deviceN names alternate) color

mutual

/-- The color with given components is one that the space gives. -/
theorem gives_of_color? {space : ColorSpace} {components : List Single} {color : Color}
    (h : space.color? components = some color) : space.Gives color := by
  rw [color?.eq_def] at h
  split at h
  · cases h
    exact .deviceGray _
  · cases h
    exact .calGray _
  · cases h
    exact .deviceRgb ..
  · cases h
    exact .calRgb ..
  · cases h
    exact .deviceCmyk ..
  · exact .iccBased _ (gives_of_color? h)
  · split at h
    · exact .indexed _ _ (gives_of_color? h)
    · cases h
  · split at h
    · next initial =>
      cases h
      exact .separation _ _ (gives_of_initialColor? initial)
    · cases h
  · split at h
    · exact .deviceN _ (gives_of_initialColor? h)
    · cases h
  · cases h

/-- The color with which a space begins is one that the space gives. -/
theorem gives_of_initialColor? {space : ColorSpace} {color : Color}
    (h : space.initialColor? = some color) : space.Gives color := by
  rw [initialColor?.eq_def] at h
  split at h
  · cases h
    exact .deviceGray _
  · cases h
    exact .calGray _
  · cases h
    exact .deviceRgb ..
  · cases h
    exact .calRgb ..
  · cases h
    exact .deviceCmyk ..
  · exact .iccBased _ (gives_of_initialColor? h)
  · split at h
    · exact .indexed _ _ (gives_of_color? h)
    · cases h
  · split at h
    · next initial =>
      cases h
      exact .separation _ _ (gives_of_initialColor? initial)
    · cases h
  · exact .deviceN _ (gives_of_initialColor? h)
  · cases h
  · cases h
  · cases h

end

/-! ## Colors are judged like their space -/

/-- A color that a space gives is judged like the space, also with more levels left, unless the space
nests too deep: both pass, or both are violations. -/
theorem Gives.judged {space : ColorSpace} {color : Color} (gives : space.Gives color)
    (maxDepth : ℕ) {level more : ℕ} (le : level ≤ more) :
    (space.checkWithin maxDepth level = .ok () ∧ color.checkWithin maxDepth more = .ok ()) ∨
      (∃ objection, space.checkWithin maxDepth level = .error (.violation .color objection) ∧
        color.checkWithin maxDepth more = .error (.violation .color .rgb)) ∨
      space.checkWithin maxDepth level
        = .error (.limitExceeded .colorDepth maxDepth (maxDepth + 1)) := by
  -- On how the space gives the color. The inner space is judged with one level less, and the color
  -- with one level less only below a single colorant.
  induction gives generalizing level more with
  | deviceGray _ | calGray _ | deviceCmyk _ _ _ _ =>
    cases level with
    | zero => exact Or.inr (Or.inr rfl)
    | succ level =>
      obtain ⟨more, rfl⟩ := Nat.exists_eq_add_of_le' ((Nat.le_add_left 1 level).trans le)
      exact Or.inl ⟨rfl, rfl⟩
  | deviceRgb _ _ _ | calRgb _ _ _ =>
    cases level with
    | zero => exact Or.inr (Or.inr rfl)
    | succ level =>
      obtain ⟨more, rfl⟩ := Nat.exists_eq_add_of_le' ((Nat.le_add_left 1 level).trans le)
      exact Or.inr (Or.inl ⟨_, rfl, rfl⟩)
  | iccBased _ _ ih | indexed _ _ _ ih | deviceN _ _ ih =>
    cases level with
    | zero => exact Or.inr (Or.inr rfl)
    | succ level => exact ih (Nat.le_of_succ_le le)
  | separation _ _ _ ih =>
    cases level with
    | zero => exact Or.inr (Or.inr rfl)
    | succ level =>
      obtain ⟨more, rfl⟩ := Nat.exists_eq_add_of_le' ((Nat.le_add_left 1 level).trans le)
      exact ih (Nat.le_of_succ_le_succ le)

/-- A color that a space gives violates where the space does, also with more levels left. -/
theorem Gives.violates {space : ColorSpace} {color : Color} (gives : space.Gives color)
    {maxDepth level more : ℕ} (le : level ≤ more) {aspect : Aspect} {objection : Objection}
    (violates : space.checkWithin maxDepth level = .error (.violation aspect objection)) :
    color.checkWithin maxDepth more = .error (.violation .color .rgb) := by
  rcases gives.judged maxDepth le with ⟨passes, -⟩ | ⟨_, -, color_violates⟩ | limited
  · rw [passes] at violates
    cases violates
  · exact color_violates
  · rw [limited] at violates
    cases violates

/-! ## Spaces that give a color for all operands -/

/-- Whether a space has a color for all its operands, as far as its parts are concerned: the alternate
of a profile has as many components as the profile, a palette holds all its entries, and no part of
the space is a space of patterns. -/
def isConsistent : ColorSpace → Bool
  | deviceGray | deviceRgb | deviceCmyk | calGray | calRgb | lab => true
  | iccBased components alternate => alternate.componentCount == components && alternate.isConsistent
  | indexed base last palette =>
    (last + 1) * base.componentCount ≤ palette.length && base.isConsistent
  | separation _ alternate | deviceN _ alternate => alternate.isConsistent
  | pattern | patternOver _ => false

/-- A palette that holds all its entries has one at each index up to the last. -/
theorem exists_paletteEntry {palette : Bytes} {count last index : ℕ} (le : index ≤ last)
    (full : (last + 1) * count ≤ palette.length) :
    ∃ entry, paletteEntry? palette count index = some entry ∧ entry.length = count := by
  have reaches : index * count + count ≤ palette.length := by
    calc index * count + count = (index + 1) * count := (Nat.succ_mul index count).symm
      _ ≤ (last + 1) * count := Nat.mul_le_mul_right count (Nat.succ_le_succ le)
      _ ≤ palette.length := full
  unfold paletteEntry?
  rw [if_pos reaches]
  refine ⟨_, rfl, ?_⟩
  rw [List.length_map, List.length_take, List.length_drop]
  omega

/-- A consistent space that is judged a violation gives a color for as many operands as it has
components, and has a color to begin with. -/
theorem exists_color_of_isConsistent {space : ColorSpace} (consistent : space.isConsistent = true)
    {maxDepth level : ℕ} {aspect : Aspect} {objection : Objection}
    (violates : space.checkWithin maxDepth level = .error (.violation aspect objection)) :
    (∀ components : List Single, components.length = space.componentCount →
      (space.color? components).isSome) ∧ space.initialColor?.isSome := by
  induction space generalizing level with
  | deviceGray | deviceCmyk | calGray | lab | pattern => cases level <;> cases violates
  | deviceRgb | calRgb =>
    refine ⟨fun components count => ?_, rfl⟩
    match components, count with
    | [red, green, blue], _ => rfl
  | patternOver _ _ => cases consistent
  | iccBased declared alternate ih =>
    rw [isConsistent, Bool.and_eq_true, beq_iff_eq] at consistent
    obtain ⟨same, alternate_consistent⟩ := consistent
    cases level with
    | zero => cases violates
    | succ level =>
      obtain ⟨colors, initial⟩ := ih alternate_consistent violates
      refine ⟨fun components count => ?_, ?_⟩
      · rw [color?]
        exact colors components (count.trans same.symm)
      · rw [initialColor?]
        exact initial
  | indexed base last palette ih =>
    rw [isConsistent, Bool.and_eq_true, decide_eq_true_iff] at consistent
    obtain ⟨full, base_consistent⟩ := consistent
    cases level with
    | zero => cases violates
    | succ level =>
      obtain ⟨colors, -⟩ := ih base_consistent violates
      refine ⟨fun components count => ?_, ?_⟩
      · match components, count with
        | [index], _ =>
          obtain ⟨entry, found, length⟩ := exists_paletteEntry (Binary.truncate_le last index) full
          rw [color?, found]
          exact colors entry length
      · obtain ⟨entry, found, length⟩ := exists_paletteEntry (Nat.zero_le last) full
        rw [initialColor?, found]
        exact colors entry length
  | separation name alternate ih =>
    cases level with
    | zero => cases violates
    | succ level =>
      obtain ⟨-, initial⟩ := ih consistent violates
      obtain ⟨color, found⟩ := Option.isSome_iff_exists.1 initial
      refine ⟨fun components count => ?_, ?_⟩
      · match components, count with
        | [tint], _ =>
          rw [color?, found]
          rfl
      · rw [initialColor?, found]
        rfl
  | deviceN names alternate ih =>
    cases level with
    | zero => cases violates
    | succ level =>
      obtain ⟨-, initial⟩ := ih consistent violates
      refine ⟨fun components count => ?_, ?_⟩
      · rw [color?, if_pos (show components.length = names.length from count)]
        exact initial
      · rw [initialColor?]
        exact initial

/-- Whether the colors of a space are patterns. -/
def isPattern : ColorSpace → Bool
  | pattern | patternOver _ => true
  | _ => false

end ColorSpace

/-! ## Content that paints in a space -/

theorem numbers_of_number? (operator : Operator) {operands : List Operand} {values : List Double}
    (numeric : operands.map Operand.number? = values.map some) :
    operator.numbers operands = .ok (values.map Double.toSingle) := by
  induction operands generalizing values with
  | nil =>
    cases values with
    | nil => rfl
    | cons value values => cases numeric
  | cons operand operands ih =>
    cases values with
    | nil => cases numeric
    | cons value values =>
      obtain ⟨first, following⟩ := List.cons.inj numeric
      unfold Operator.numbers at ih ⊢
      rw [List.mapM_cons, ih following, first]
      rfl

theorem length_of_number? {operands : List Operand} {values : List Double}
    (numeric : operands.map Operand.number? = values.map some) :
    (values.map Double.toSingle).length = operands.length := by
  have same := congrArg List.length numeric
  rw [List.length_map, List.length_map] at same
  rw [List.length_map, same]

namespace ContentScope

variable [StreamDecoder] {scope : ContentScope} {nested : Nested}

/-- In a space without patterns, an operator is judged by the color that its operands give, if they
give one. -/
theorem checkColorOperator_eq (scope : ContentScope) (nested : Nested) {operator : Operator}
    {space : ColorSpace} {components : List Single} (plain : space.isPattern = false)
    (numbers : operator.numbers operator.operands = .ok components)
    (count : components.length = space.componentCount) :
    scope.checkColorOperator nested operator space =
      match space.color? components with
      | some color => scope.settings.checkColor color
      | none => .ok () := by
  unfold checkColorOperator
  split
  · cases plain
  · cases plain
  · rw [numbers, ok_bind]
    simp only [count, ne_eq, not_true_eq_false, if_false]
    rfl

/-- Selecting a space for fills. -/
theorem step_cs (paint : PaintState) (name : String) :
    scope.step nested paint ⟨"cs", [.name name]⟩ = .ok (paint.set .fill name) := by
  have fill : PaintTarget.ofOperator "cs" = .fill := by decide
  show Except.ok (paint.set (PaintTarget.ofOperator "cs") name) = _
  rw [fill]

/-- Filling in the space that was selected. -/
theorem step_scn {paint : PaintState} {name : String} (selected : paint.fill = some name)
    (operands : List Operand) :
    scope.step nested paint ⟨"scn", operands⟩ =
      (ColorSpace.resolveName scope.document scope.resources scope.settings.maxColorDepth name
        >>= fun
          | none => .ok ()
          | some space => scope.checkColorOperator nested ⟨"scn", operands⟩ space)
        >>= fun _ => .ok paint := by
  have fill : PaintTarget.ofOperator "scn" = .fill := by decide
  show (scope.checkSelectedColor nested paint ⟨"scn", operands⟩ >>= fun _ => .ok paint) = _
  unfold checkSelectedColor
  rw [fill, PaintState.current?, selected]
  rfl

end ContentScope

namespace Settings

theorem isRequired_of_isStrict {settings : Settings}
    (strict : settings.level.isStrict = true) :
    settings.level.isRequired = true := by
  revert strict
  cases settings.level <;> decide

variable [StreamDecoder] {settings : Settings} {document : Option Document} {resources : Dictionary}

/-- The content of a page passes if it is not too long, can be read to its end, and each operator
passes. -/
theorem checkContent_eq_ok (required : settings.level.isRequired = true) {content : Bytes} :
    settings.checkContent document content resources = .ok () ↔
      content.length ≤ settings.maxStreamBytes ∧ (readOperators content).stop = none ∧
        ∃ paint, (readOperators content).operators.foldlM
          (ContentScope.step ⟨settings, document, resources⟩
            (settings.checkContentWithin document settings.maxRecursionDepth))
          PaintState.initial = .ok paint := by
  unfold checkContent checkContentAt
  rw [required, if_neg (by decide), if_neg (Nat.not_lt_zero _), Nat.sub_zero, checkContentWithin]
  constructor
  · intro h
    obtain ⟨paint, obeyed, -⟩ := bind_eq_ok.1 h
    obtain ⟨fits, ended, steps⟩ := obeyOperators_eq_ok.1 obeyed
    exact ⟨fits, ended, paint, steps⟩
  · rintro ⟨fits, ended, paint, steps⟩
    exact bind_eq_ok.2 ⟨paint, obeyOperators_eq_ok.2 ⟨fits, ended, steps⟩, rfl⟩

/-- The strict check of a shading is that of its color space, one level deeper. -/
theorem check_shading (strict : settings.level.isStrict = true) (space : ColorSpace) :
    settings.check (.color (.shading space))
      = space.checkWithin settings.maxColorDepth settings.maxColorDepth := by
  unfold check checkColor
  rw [isRequired_of_isStrict strict, strict]
  rfl

/-- Where the shading in a space is a violation, so is each color that the space gives. -/
theorem checkColor_of_gives (strict : settings.level.isStrict = true) {space : ColorSpace}
    {color : Color} (gives : space.Gives color) {violation : Violation}
    (violates : settings.check (.color (.shading space)) = .error (.conformance violation)) :
    settings.checkColor color = .error (.violation .color .rgb) := by
  rw [check_shading strict] at violates
  unfold checkColor
  rw [if_pos strict]
  exact gives.violates (Nat.le_succ _) violates

/-- The two operators that select a space by its name and paint in it. -/
def paintingIn (name : String) (operands : List Operand) : List Operator :=
  [⟨"cs", [.name name]⟩, ⟨"scn", operands⟩]

/-- Painting in a space that the resources define is judged by the color that the operands give. -/
theorem steps_paintingIn {nested : ContentScope.Nested} {name : String} {object : Object}
    {space : ColorSpace} {operands : List Operand} {values : List Double}
    (custom : ColorSpace.ofFamilyName? name = none)
    (bound : (resources.dictionary? document "ColorSpace").bind (·.lookup (Utf8.encode name))
      = some object)
    (resolved : ColorSpace.resolve document settings.maxColorDepth object = .ok (some space))
    (plain : space.isPattern = false)
    (numeric : operands.map Operand.number? = values.map some)
    (count : operands.length = space.componentCount) :
    (paintingIn name operands).foldlM (ContentScope.step ⟨settings, document, resources⟩ nested)
        PaintState.initial =
      (match space.color? (values.map Double.toSingle) with
        | some color => settings.checkColor color
        | none => .ok ()) >>= fun _ => .ok ⟨none, some name⟩ := by
  have named : ColorSpace.resolveName document resources settings.maxColorDepth name
      = .ok (some space) := by
    unfold ColorSpace.resolveName
    rw [custom, bound]
    exact resolved
  have numbers := numbers_of_number? ⟨"scn", operands⟩ numeric
  have length := (length_of_number? numeric).trans count
  have judged := ContentScope.checkColorOperator_eq ⟨settings, document, resources⟩ nested plain
    numbers length
  unfold paintingIn
  rw [List.foldlM_cons, ContentScope.step_cs, ok_bind, List.foldlM_cons,
    ContentScope.step_scn rfl, named, ok_bind]
  simp only
  rw [judged]
  cases space.color? (values.map Double.toSingle) with
  | none => rfl
  | some color =>
    simp only
    cases settings.checkColor color <;> rfl

/-- Content that does nothing but paint in a space whose shadings are violations passes only if the
space gives no color for its operands, which a consistent space always does. -/
theorem checkContent_paintingIn (strict : settings.level.isStrict = true) {name : String}
    {object : Object} {space : ColorSpace} {operands : List Operand} {values : List Double}
    {content : Bytes} {violation : Violation}
    (custom : ColorSpace.ofFamilyName? name = none)
    (bound : (resources.dictionary? document "ColorSpace").bind (·.lookup (Utf8.encode name))
      = some object)
    (resolved : ColorSpace.resolve document settings.maxColorDepth object = .ok (some space))
    (plain : space.isPattern = false)
    (numeric : operands.map Operand.number? = values.map some)
    (count : operands.length = space.componentCount)
    (read : tokenize content = .ok (paintingIn name operands))
    (violates : settings.check (.color (.shading space)) = .error (.conformance violation)) :
    (settings.checkContent document content resources = .ok () ↔
      content.length ≤ settings.maxStreamBytes ∧
        space.color? (values.map Double.toSingle) = none) ∧
    (space.isConsistent = true →
      ∃ failure, settings.checkContent document content resources = .error failure) := by
  have passes_iff : settings.checkContent document content resources = .ok () ↔
      content.length ≤ settings.maxStreamBytes ∧
        space.color? (values.map Double.toSingle) = none := by
    obtain ⟨ended, operators⟩ := tokenize_eq_ok.1 read
    rw [checkContent_eq_ok (isRequired_of_isStrict strict), operators,
      steps_paintingIn custom bound resolved plain numeric count]
    cases color : space.color? (values.map Double.toSingle) with
    | none =>
      constructor
      · rintro ⟨fits, -⟩
        exact ⟨fits, rfl⟩
      · rintro ⟨fits, -⟩
        exact ⟨fits, ended, _, rfl⟩
    | some color =>
      simp only
      rw [checkColor_of_gives strict (ColorSpace.gives_of_color? color) violates]
      constructor
      · rintro ⟨-, -, paint, steps⟩
        cases steps
      · rintro ⟨-, missing⟩
        cases missing
  refine ⟨passes_iff, fun consistent => ?_⟩
  rw [check_shading strict] at violates
  have length := (length_of_number? numeric).trans count
  have gives := (ColorSpace.exists_color_of_isConsistent consistent violates).1 _ length
  cases verdict : settings.checkContent document content resources with
  | error failure => exact ⟨failure, rfl⟩
  | ok =>
    rw [(passes_iff.1 verdict).2] at gives
    cases gives

end Settings

/-! ## A palette without entries -/

attribute [local instance] StreamDecoder.withoutFilters

/-- Resources that define a space with the name `X`. -/
def definingX (definition : Object) : Dictionary :=
  keyed [("ColorSpace", .dictionary (keyed [("X", definition)]))]

/-- A palette of two colors in RGB. -/
def rgbPalette (entries : Bytes) : Object :=
  .array [.ofName "Indexed", .ofName "DeviceRGB", .integer 1, .literal entries]

theorem checkContent_paintingIn_palette :
    (Settings.ofLevel .x1a).check (.color (.shading (.indexed .deviceRgb 1 [255, 0, 0, 0, 255, 0])))
        = .error (.conformance ⟨.color, .rgb⟩) ∧
      ∃ failure, (Settings.ofLevel .x1a).checkContent none (Bytes.ofLatin "/X cs 1 scn")
        (definingX (rgbPalette [255, 0, 0, 0, 255, 0])) = .error failure := by
  have violates : (Settings.ofLevel .x1a).check
      (.color (.shading (.indexed .deviceRgb 1 [255, 0, 0, 0, 255, 0])))
        = .error (.conformance ⟨.color, .rgb⟩) := rfl
  have bound : ((definingX (rgbPalette [255, 0, 0, 0, 255, 0])).dictionary? none "ColorSpace").bind
      (·.lookup (Utf8.encode "X")) = some (rgbPalette [255, 0, 0, 0, 255, 0]) := rfl
  have resolved : ColorSpace.resolve none 16 (rgbPalette [255, 0, 0, 0, 255, 0])
      = .ok (some (.indexed .deviceRgb 1 [255, 0, 0, 0, 255, 0])) := by
    decide +kernel
  have numeric : [Operand.integer 1].map Operand.number? = [Double.ofInt 1].map some := rfl
  have read : tokenize (Bytes.ofLatin "/X cs 1 scn")
      = .ok (Settings.paintingIn "X" [.integer 1]) := by cbv
  exact ⟨violates, (Settings.checkContent_paintingIn rfl rfl bound resolved rfl numeric rfl read
    violates).2 rfl⟩

/-- Where the palette of RGB holds no entry, painting passes, though the shading is a violation. -/
theorem checkContent_paintingIn_ne :
    ColorSpace.resolve none 16 (rgbPalette []) = .ok (some (.indexed .deviceRgb 1 [])) ∧
      (Settings.ofLevel .x1a).check (.color (.shading (.indexed .deviceRgb 1 [])))
        = .error (.conformance ⟨.color, .rgb⟩) ∧
      (Settings.ofLevel .x1a).checkContent none (Bytes.ofLatin "/X cs 1 scn")
        (definingX (rgbPalette [])) = .ok () := by
  exact ⟨by decide +kernel, rfl, by decide +kernel⟩

end Preflight

import Mathlib
import Preflight.Proofs.PaintedSpaces
import Preflight.Proofs.StoredDefinitions

/-!
# Towers of colorants

A colorant is defined over an alternate space, which may be a space of colorants again, and so on
down to a base. Resolving the definition, finding the color of the operands and judging that color
all descend the tower, each with a count of its own. The counts agree: painting exceeds the limit
exactly if the tower is higher than the limit, and otherwise it is judged by the base alone.
-/

namespace Preflight

namespace ColorSpace

/-! ## Towers and their definitions -/

/-- How many spaces of colorants stand above the base. -/
def towerHeight : ColorSpace → ℕ
  | separation _ alternate | deviceN _ alternate => alternate.towerHeight + 1
  | _ => 0

/-- The space below all spaces of colorants. -/
def towerBase : ColorSpace → ColorSpace
  | separation _ alternate | deviceN _ alternate => alternate.towerBase
  | space => space

/-- An object defines a device space, or a calibrated one with its parameters. -/
inductive DefinesBase : Object → ColorSpace → Prop where
  | deviceGray : DefinesBase (.ofName "DeviceGray") deviceGray
  | deviceRgb : DefinesBase (.ofName "DeviceRGB") deviceRgb
  | deviceCmyk : DefinesBase (.ofName "DeviceCMYK") deviceCmyk
  | calGray (parameters : List Object) :
      DefinesBase (.array (.ofName "CalGray" :: parameters)) calGray
  | calRgb (parameters : List Object) :
      DefinesBase (.array (.ofName "CalRGB" :: parameters)) calRgb

/-- An object defines a tower of colorants over a base. The names of the colorants stand in their
arrays; each definition may stand behind a reference. -/
inductive DefinesTower (document : Option Document) : Object → ColorSpace → Prop where
  | base {object : Object} {space : ColorSpace} (defines : DefinesBase object space) :
      DefinesTower document object space
  | separation (colorant : Bytes) {object : Object} {alternate : ColorSpace}
      (further : List Object) (inner : DefinesTower document object alternate) :
      DefinesTower document (.array (.ofName "Separation" :: .name colorant :: object :: further))
        (separation (Utf8.decode colorant) alternate)
  | deviceN (colorants : List Bytes) {object : Object} {alternate : ColorSpace}
      (further : List Object) (inner : DefinesTower document object alternate) :
      DefinesTower document
        (.array (.ofName "DeviceN" :: .array (colorants.map .name) :: object :: further))
        (deviceN (colorants.map Utf8.decode) alternate)
  | behind {file : Document} {id : ObjectId} {object : Object} {space : ColorSpace}
      (opened : document = some file) (held : file.fetch id = .ok object)
      (inner : DefinesTower document object space) : DefinesTower document (.reference id) space

section

variable {document : Option Document} {object : Object} {space : ColorSpace} {maxDepth : ℕ}

theorem towerHeight_of_base (base : DefinesBase object space) : space.towerHeight = 0 := by
  cases base <;> rfl

/-! ## Resolving -/

section Resolving

variable [StreamDecoder]

/-- A base is understood at any depth within the limit. -/
theorem resolveWithin_base (base : DefinesBase object space) (level : ℕ) :
    resolveWithin document maxDepth (level + 1) object = .ok (some space) := by
  have named {name : String} {device : ColorSpace}
      (family : ofFamilyName? (Utf8.decode (Bytes.ofLatin name)) = some device) :
      resolveWithin document maxDepth (level + 1) (.ofName name) = .ok (some device) :=
    congrArg Except.ok family
  cases base with
  | deviceGray => exact named (by decide +kernel)
  | deviceRgb => exact named (by decide +kernel)
  | deviceCmyk => exact named (by decide +kernel)
  | calGray parameters =>
    have family : (Object.ofName "CalGray").name? = some "CalGray" := by decide +kernel
    show resolveArray document (resolveWithin document maxDepth level)
      (.ofName "CalGray" :: parameters) = _
    rw [resolveArray]
    simp only [List.head?_cons, Option.bind_some, family]
  | calRgb parameters =>
    have family : (Object.ofName "CalRGB").name? = some "CalRGB" := by decide +kernel
    show resolveArray document (resolveWithin document maxDepth level)
      (.ofName "CalRGB" :: parameters) = _
    rw [resolveArray]
    simp only [List.head?_cons, Option.bind_some, family]

/-- An array that begins with the name of a single colorant. -/
theorem resolveArray_separation {family : Object} (single : family.name? = some "Separation")
    (nested : Object → Except StreamFailure (Option ColorSpace)) (colorant : Bytes)
    (object : Object) (further : List Object) :
    resolveArray document nested (family :: .name colorant :: object :: further) =
      (nested object).map (Option.map (separation (Utf8.decode colorant))) := by
  rw [resolveArray]
  simp only [List.head?_cons, Option.bind_some, single]
  show (nested object >>= fun alternate => .ok (alternate.map _)) = _
  cases nested object <;> rfl

/-- An array that begins with the names of several colorants. -/
theorem resolveArray_deviceN {family : Object} (several : family.name? = some "DeviceN")
    (nested : Object → Except StreamFailure (Option ColorSpace)) (colorants : List Bytes)
    (object : Object) (further : List Object) :
    resolveArray document nested
        (family :: .array (colorants.map .name) :: object :: further) =
      (nested object).map (Option.map (deviceN (colorants.map Utf8.decode))) := by
  have names : (colorants.map Object.name).filterMap Object.name? = colorants.map Utf8.decode := by
    rw [List.filterMap_map]
    exact congrFun List.filterMap_eq_map colorants
  rw [resolveArray]
  simp only [List.head?_cons, Option.bind_some, several]
  show (nested object >>= fun alternate => .ok (alternate.map (deviceN
    ((colorants.map Object.name).filterMap Object.name?)))) = _
  rw [names]
  cases nested object <;> rfl

/-- An array that adds a level to a tower takes one of the levels that are left. -/
theorem resolveWithin_level {items : List Object} {add : ColorSpace → ColorSpace}
    (opens : ∀ nested, resolveArray document nested items = (nested object).map (Option.map add))
    (higher : (add space).towerHeight = space.towerHeight + 1)
    (inner : ∀ level, resolveWithin document maxDepth level object =
      if space.towerHeight < level then .ok (some space)
      else .error (.limitExceeded .colorDepth maxDepth (maxDepth + 1))) (levels : ℕ) :
    resolveWithin document maxDepth levels (.array items) =
      if (add space).towerHeight < levels then .ok (some (add space))
      else .error (.limitExceeded .colorDepth maxDepth (maxDepth + 1)) := by
  cases levels with
  | zero => rfl
  | succ level =>
    show resolveArray document (resolveWithin document maxDepth level) items = _
    rw [opens, inner level, higher]
    simp only [Nat.succ_lt_succ_iff]
    split <;> rfl

/-- The definition of a tower gives the tower if there are more levels left than the tower is high,
and exceeds the limit otherwise. -/
theorem resolveWithin_tower (tower : DefinesTower document object space) (levels : ℕ) :
    resolveWithin document maxDepth levels object =
      if space.towerHeight < levels then .ok (some space)
      else .error (.limitExceeded .colorDepth maxDepth (maxDepth + 1)) := by
  -- On the definition; each array takes one level, and a reference takes none.
  induction tower generalizing levels with
  | base defines =>
    rw [towerHeight_of_base defines]
    cases levels with
    | zero => rfl
    | succ level => rw [if_pos (Nat.succ_pos level), resolveWithin_base defines]
  | separation colorant further inner ih =>
    have family : (Object.ofName "Separation").name? = some "Separation" := by decide +kernel
    exact resolveWithin_level
      (fun nested => resolveArray_separation family nested colorant _ further) rfl ih levels
  | deviceN colorants further inner ih =>
    have family : (Object.ofName "DeviceN").name? = some "DeviceN" := by decide +kernel
    exact resolveWithin_level
      (fun nested => resolveArray_deviceN family nested colorants _ further) rfl ih levels
  | @behind file id object space opened held inner ih =>
    subst opened
    cases levels with
    | zero => rfl
    | succ level =>
      have leads : (Object.reference id).resolve (some file) = object := by
        rw [Object.resolve_reference, held]
      have direct : object.resolve (some file) = object := by
        rw [← leads, Object.resolve_resolve]
      have same : resolveWithin (some file) maxDepth (level + 1) (.reference id)
          = resolveWithin (some file) maxDepth (level + 1) object := by
        rw [resolveWithin, resolveWithin, leads, direct]
      rw [same, ih]

theorem resolve_tower (tower : DefinesTower document object space) :
    resolve document maxDepth object =
      if maxDepth < space.towerHeight then
        .error (.limitExceeded .colorDepth maxDepth (maxDepth + 1))
      else .ok (some space) := by
  rw [resolve, resolveWithin_tower tower]
  simp only [Nat.lt_succ_iff, ← Nat.not_lt, ite_not]

end Resolving

/-! ## Colors -/

/-- A base has a color for as many operands as it has components, and one to begin with. -/
theorem exists_color_of_base (base : DefinesBase object space) :
    (∀ components : List Single, components.length = space.componentCount →
      ∃ color, space.color? components = some color) ∧
    ∃ color, space.initialColor? = some color := by
  cases base with
  | deviceGray | calGray _ =>
    refine ⟨fun components count => ?_, _, rfl⟩
    match components, count with
    | [level], _ => exact ⟨_, rfl⟩
  | deviceRgb | calRgb _ =>
    refine ⟨fun components count => ?_, _, rfl⟩
    match components, count with
    | [red, green, blue], _ => exact ⟨_, rfl⟩
  | deviceCmyk =>
    refine ⟨fun components count => ?_, _, rfl⟩
    match components, count with
    | [cyan, magenta, yellow, black], _ => exact ⟨_, rfl⟩

/-- A tower has a color for as many operands as it has components, and one to begin with. -/
theorem exists_color_of_tower (tower : DefinesTower document object space) :
    (∀ components : List Single, components.length = space.componentCount →
      ∃ color, space.color? components = some color) ∧
    ∃ color, space.initialColor? = some color := by
  induction tower with
  | base defines => exact exists_color_of_base defines
  | separation colorant further inner ih =>
    obtain ⟨-, color, initial⟩ := ih
    constructor
    · intro components count
      match components, count with
      | [tint], _ =>
        rw [color?, initial]
        exact ⟨_, rfl⟩
    · rw [initialColor?, initial]
      exact ⟨_, rfl⟩
  | deviceN colorants further inner ih =>
    obtain ⟨-, color, initial⟩ := ih
    constructor
    · intro components count
      have same : components.length = (colorants.map Utf8.decode).length := count
      rw [color?, if_pos same]
      exact ⟨color, initial⟩
    · rw [initialColor?]
      exact ⟨color, initial⟩
  | behind _ _ _ ih => exact ih

theorem isPattern_of_tower (tower : DefinesTower document object space) :
    space.isPattern = false := by
  induction tower with
  | base defines => cases defines <;> rfl
  | separation _ _ _ _ | deviceN _ _ _ _ => rfl
  | behind _ _ _ ih => exact ih

/-! ## Judging -/

/-- A tower is judged by its base with the levels that the colorants above it leave. -/
theorem checkWithin_towerHeight (space : ColorSpace) (maxDepth level : ℕ) :
    space.checkWithin maxDepth (space.towerHeight + level)
      = space.towerBase.checkWithin maxDepth level := by
  induction space with
  | separation _ alternate ih | deviceN _ alternate ih =>
    rw [towerHeight, Nat.add_right_comm, towerBase]
    exact ih
  | _ => rw [towerHeight, Nat.zero_add, towerBase] <;> rintro _ _ ⟨⟩

/-- A base is a violation if it is RGB, and passes otherwise. -/
theorem checkWithin_towerBase (tower : DefinesTower document object space) (maxDepth level : ℕ) :
    ((space.towerBase = deviceRgb ∨ space.towerBase = calRgb) ∧
      ∃ objection, space.towerBase.checkWithin maxDepth (level + 1)
        = .error (.violation .color objection)) ∨
    (¬(space.towerBase = deviceRgb ∨ space.towerBase = calRgb) ∧
      space.towerBase.checkWithin maxDepth (level + 1) = .ok ()) := by
  induction tower with
  | base defines =>
    cases defines with
    | deviceGray | deviceCmyk | calGray _ => exact Or.inr ⟨by decide, rfl⟩
    | deviceRgb => exact Or.inl ⟨Or.inl rfl, _, rfl⟩
    | calRgb _ => exact Or.inl ⟨Or.inr rfl, _, rfl⟩
  | separation _ _ _ ih | deviceN _ _ _ ih => exact ih
  | behind _ _ _ ih => exact ih

end

end ColorSpace

namespace Settings

variable {settings : Settings} {document : Option Document} {resources : Dictionary}
  {object : Object} {space : ColorSpace}

/-- A color that a tower within the limit gives is judged by the base of the tower. -/
theorem checkColor_of_tower (strict : settings.level.isStrict = true)
    (tower : ColorSpace.DefinesTower document object space)
    (within : space.towerHeight ≤ settings.maxColorDepth) {color : Color}
    (gives : space.Gives color) :
    settings.checkColor color =
      if space.towerBase = .deviceRgb ∨ space.towerBase = .calRgb then
        .error (.violation .color .rgb)
      else .ok () := by
  obtain ⟨left, depth⟩ := Nat.exists_eq_add_of_le within
  have judged := gives.judged settings.maxColorDepth
    (Nat.le_refl (settings.maxColorDepth + 1))
  have levels : settings.maxColorDepth + 1 = space.towerHeight + (left + 1) := by
    rw [depth, Nat.add_assoc]
  unfold checkColor
  rw [if_pos strict]
  -- The space itself is judged with one level more than the tower is high, at least.
  have space_judged := space.checkWithin_towerHeight settings.maxColorDepth (left + 1)
  rw [← levels] at space_judged
  rw [space_judged] at judged
  rcases ColorSpace.checkWithin_towerBase tower settings.maxColorDepth left with
    ⟨rgb, objection, violates⟩ | ⟨other, passes⟩
  · rw [if_pos rgb]
    rcases judged with ⟨base_passes, -⟩ | ⟨_, -, color_violates⟩ | limited
    · rw [violates] at base_passes
      cases base_passes
    · exact color_violates
    · rw [violates] at limited
      cases limited
  · rw [if_neg other]
    rcases judged with ⟨-, color_passes⟩ | ⟨_, base_violates, -⟩ | limited
    · exact color_passes
    · rw [passes] at base_violates
      cases base_violates
    · rw [passes] at limited
      cases limited

variable [StreamDecoder]

/-- Content that is not too long and can be read is judged operator by operator. -/
theorem checkContent_eq_steps (required : settings.level.isRequired = true) {content : Bytes}
    {operators : List Operator} (fits : content.length ≤ settings.maxStreamBytes)
    (read : tokenize content = .ok operators) :
    settings.checkContent document content resources =
      (operators.foldlM (ContentScope.step ⟨settings, document, resources⟩
        (settings.checkContentWithin document settings.maxRecursionDepth)) PaintState.initial).map
        fun _ => () := by
  have discard (run : Except StreamFailure PaintState) :
      (run >>= fun _ => pure ()) = run.map fun _ => () := by
    cases run <;> rfl
  unfold checkContent checkContentAt
  rw [required, if_neg (by decide), if_neg (Nat.not_lt_zero _), Nat.sub_zero, checkContentWithin,
    obeyOperators_of_tokenize fits read]
  exact discard _

/-- Painting in a space whose definition cannot be resolved fails as resolving it does. -/
theorem steps_paintingIn_of_error {nested : ContentScope.Nested} {name : String}
    {failure : StreamFailure} (custom : ColorSpace.ofFamilyName? name = none)
    (bound : (resources.dictionary? document "ColorSpace").bind (·.lookup (Utf8.encode name))
      = some object)
    (fails : ColorSpace.resolve document settings.maxColorDepth object = .error failure)
    (operands : List Operand) :
    (paintingIn name operands).foldlM (ContentScope.step ⟨settings, document, resources⟩ nested)
      PaintState.initial = .error failure := by
  have named : ColorSpace.resolveName document resources settings.maxColorDepth name
      = .error failure := by
    unfold ColorSpace.resolveName
    rw [custom, bound]
    exact fails
  unfold paintingIn
  rw [List.foldlM_cons, ContentScope.step_cs, ok_bind, List.foldlM_cons,
    ContentScope.step_scn rfl, named]
  rfl

/-- **A tower of colorants is judged by its base, at any height.** Content that paints in a tower,
with as many numbers as the tower has components, exceeds the limit if the tower is higher than the
limit; otherwise it is a violation if the base is RGB, and passes if not. -/
theorem checkContent_tower (strict : settings.level.isStrict = true) {name : String}
    {operands : List Operand} {values : List Double} {content : Bytes}
    (custom : ColorSpace.ofFamilyName? name = none)
    (bound : (resources.dictionary? document "ColorSpace").bind (·.lookup (Utf8.encode name))
      = some object)
    (tower : ColorSpace.DefinesTower document object space)
    (numeric : operands.map Operand.number? = values.map some)
    (count : operands.length = space.componentCount)
    (read : tokenize content = .ok (paintingIn name operands))
    (fits : content.length ≤ settings.maxStreamBytes) :
    settings.checkContent document content resources =
      if settings.maxColorDepth < space.towerHeight then
        .error (.limitExceeded .colorDepth settings.maxColorDepth (settings.maxColorDepth + 1))
      else if space.towerBase = .deviceRgb ∨ space.towerBase = .calRgb then
        .error (.violation .color .rgb)
      else .ok () := by
  rw [checkContent_eq_steps (isRequired_of_isStrict strict) fits read]
  have resolved : ColorSpace.resolve document settings.maxColorDepth object = _ :=
    ColorSpace.resolve_tower tower
  by_cases above : settings.maxColorDepth < space.towerHeight
  · rw [if_pos above] at resolved ⊢
    rw [steps_paintingIn_of_error custom bound resolved]
    rfl
  · rw [if_neg above] at resolved ⊢
    have plain := ColorSpace.isPattern_of_tower tower
    have length := (length_of_number? numeric).trans count
    obtain ⟨color, found⟩ := (ColorSpace.exists_color_of_tower tower).1 _ length
    have judged := checkColor_of_tower strict tower (Nat.not_lt.1 above)
      (ColorSpace.gives_of_color? found)
    rw [steps_paintingIn custom bound resolved plain numeric count, found]
    simp only
    rw [judged]
    split_ifs <;> rfl

end Settings

/-! ## A tower of three over calibrated RGB -/

attribute [local instance] StreamDecoder.withoutFilters

/-- A document that holds the two lower definitions of a tower. -/
def spotDocument : Document := .ofList [
    (⟨1, 0⟩, .array [.ofName "DeviceN", .array [.ofName "Cyan", .ofName "Gold"],
      .reference ⟨2, 0⟩]),
    (⟨2, 0⟩, .array [.ofName "Separation", .ofName "Silver", .array [.ofName "CalRGB"]])] []

/-- The highest definition of the tower. -/
def spotDefinition : Object :=
  .array [.ofName "Separation", .ofName "Spot", .reference ⟨1, 0⟩]

/-- The tower: a single colorant over two of them, over a single one in calibrated RGB. -/
def spotTower : ColorSpace :=
  .separation "Spot" (.deviceN ["Cyan", "Gold"] (.separation "Silver" .calRgb))

theorem definesTower_spot :
    ColorSpace.DefinesTower (some spotDocument) spotDefinition spotTower := by
  have spot : "Spot" = Utf8.decode (Bytes.ofLatin "Spot") := by decide +kernel
  have silver : "Silver" = Utf8.decode (Bytes.ofLatin "Silver") := by decide +kernel
  have colorants : ["Cyan", "Gold"]
      = [Bytes.ofLatin "Cyan", Bytes.ofLatin "Gold"].map Utf8.decode := by decide +kernel
  rw [spotTower, spot, silver, colorants]
  have lowest : ColorSpace.DefinesTower (some spotDocument)
      (.array [.ofName "Separation", .ofName "Silver", .array [.ofName "CalRGB"]])
      (.separation (Utf8.decode (Bytes.ofLatin "Silver")) .calRgb) :=
    .separation _ [] (.base (.calRgb []))
  have held : spotDocument.fetch ⟨2, 0⟩
      = .ok (.array [.ofName "Separation", .ofName "Silver", .array [.ofName "CalRGB"]]) := rfl
  have middle := ColorSpace.DefinesTower.deviceN
    [Bytes.ofLatin "Cyan", Bytes.ofLatin "Gold"] [] (.behind rfl held lowest)
  exact .separation _ [] (.behind rfl rfl middle)

/-- The tower is a violation within the usual limit, and exceeds a limit of two. -/
theorem checkContent_tower_spot :
    (Settings.ofLevel .x1a).checkContent (some spotDocument) (Bytes.ofLatin "/X cs 1 scn")
        (definingX spotDefinition) = .error (.violation .color .rgb) ∧
    { Settings.ofLevel .x1a with maxColorDepth := 2 }.checkContent (some spotDocument)
        (Bytes.ofLatin "/X cs 1 scn") (definingX spotDefinition)
      = .error (.limitExceeded .colorDepth 2 3) := by
  have bound : ((definingX spotDefinition).dictionary? (some spotDocument) "ColorSpace").bind
      (·.lookup (Utf8.encode "X")) = some spotDefinition := rfl
  have numeric : [Operand.integer 1].map Operand.number? = [Double.ofInt 1].map some := rfl
  have read : tokenize (Bytes.ofLatin "/X cs 1 scn")
      = .ok (Settings.paintingIn "X" [.integer 1]) := by cbv
  have usual : (Settings.ofLevel .x1a).level.isStrict = true := rfl
  have narrow : { Settings.ofLevel .x1a with maxColorDepth := 2 }.level.isStrict = true := rfl
  exact ⟨Settings.checkContent_tower usual rfl bound definesTower_spot numeric rfl read
      (by decide +kernel),
    Settings.checkContent_tower narrow rfl bound definesTower_spot numeric rfl read
      (by decide +kernel)⟩

end Preflight

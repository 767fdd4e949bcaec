import Mathlib
import Preflight.ColorSpace.Resolve
import Preflight.Proofs.Success

/-!
# Where definitions are stored

An element of a color space definition can stand in its array, or behind a reference in the array.
Two definitions that say the same, element by element, define the same space wherever their elements
are stored, as long as the names of the family and of the colorants stand in the arrays themselves.
These names are read in place: behind a reference, the name of the family or of a single colorant is
not understood, and that of one of several colorants is left out.
-/

namespace Preflight

/-! ## What references lead to -/

namespace Document

variable {document : Document}

/-- Following references ends at an object that is none. -/
theorem reference?_of_follow {limit : ℕ} {id found : ObjectId} {object target : Object}
    (h : document.follow limit id object = .ok (found, target)) : target.reference? = none := by
  have direct (h : ∀ next, target ≠ .reference next) : target.reference? = none := by
    cases target with
    | reference next => exact absurd rfl (h next)
    | _ => rfl
  induction limit generalizing id object with
  | zero =>
    unfold follow at h
    split at h
    · split at h <;> cases h
    · cases h
      exact direct ‹_›
  | succ limit ih =>
    unfold follow at h
    split at h
    · split at h
      · cases h
      · exact ih h
    · cases h
      exact direct ‹_›

theorem reference?_of_fetch {id : ObjectId} {target : Object}
    (h : document.fetch id = .ok target) : target.reference? = none := by
  obtain ⟨⟨found, object⟩, located, rfl⟩ := map_eq_ok.1 h
  unfold locate at located
  split at located
  · cases located
  · exact reference?_of_follow located

end Document

/-- What an object leads to leads to itself. -/
theorem Object.resolve_resolve (document : Document) (object : Object) :
    (object.resolve (some document)).resolve (some document) = object.resolve (some document) := by
  have direct {other : Object} (h : other.reference? = none) :
      other.resolve (some document) = other := by
    cases other with
    | reference id => cases h
    | _ => rfl
  cases object with
  | reference id =>
    cases found : document.fetch id with
    | ok target =>
      rw [resolve_reference, found]
      exact direct (Document.reference?_of_fetch found)
    | error fault =>
      rw [resolve_reference, found]
      simp only
      rw [resolve_reference, found]
  | _ => rfl

namespace ColorSpace

/-! ## Related parts -/

/-- Related options are both empty, or both hold something. -/
theorem rel_cases {R : Object → Object → Prop} {first second : Option Object}
    (h : Option.Rel R first second) :
    (first = none ∧ second = none) ∨
      ∃ object other, first = some object ∧ second = some other ∧ R object other := by
  cases h with
  | none => exact .inl ⟨rfl, rfl⟩
  | some related => exact .inr ⟨_, _, rfl, rfl, related⟩

/-- An array with one element replaced by a related one. -/
theorem forall₂_set {R : Object → Object → Prop} (refl : ∀ object, R object object)
    {items : List Object} {index : ℕ}
    {element other : Object} (place : items[index]? = some element) (related : R element other) :
    List.Forall₂ R items (items.set index other) := by
  induction items generalizing index with
  | nil => cases place
  | cons item items ih =>
    cases index with
    | zero =>
      cases place
      exact .cons related (List.forall₂_same.2 fun object _ => refl object)
    | succ index => exact .cons (refl item) (ih place)

/-! ## Definitions that say the same -/

section

variable [StreamDecoder]

/-- The names in the list of colorants of a definition, as far as they stand in the list itself. -/
def colorantsOf (document : Document) (items : List Object) : Option (List String) :=
  ((items[1]?.map (·.resolve (some document))).bind Object.array?).map
    (·.filterMap Object.name?)

/-- The names that are read in place are the same: that of the family, and those of colorants. -/
structure KeepsNames (before after : Document) (items others : List Object) : Prop where
  family : others.head?.bind Object.name? = items.head?.bind Object.name?
  colorant : items.head?.bind Object.name? = some "Separation" →
    others[1]?.bind Object.name? = items[1]?.bind Object.name?
  colorants : items.head?.bind Object.name? = some "DeviceN" →
    colorantsOf after others = colorantsOf before items

/-- Two objects, each in its document and not behind a reference, say the same if related parts
do. -/
inductive Corresponds (before after : Document) (R : Object → Object → Prop) :
    Object → Object → Prop where
  /-- An object without parts that a definition reads. -/
  | same {object : Object} (flat : object.array? = none ∧ object.stream? = none) :
      Corresponds before after R object object
  /-- References that lead nowhere. -/
  | dangling {id other : ObjectId} : Corresponds before after R (.reference id) (.reference other)
  | array {items others : List Object} (elements : List.Forall₂ R items others)
      (names : KeepsNames before after items others) :
      Corresponds before after R (.array items) (.array others)
  /-- Streams with the same palette, number of components and alternate space. -/
  | stream {entries others : Dictionary} {data moved : Bytes}
      (palette : palette? (.stream others moved) = palette? (.stream entries data))
      (components : (others.resolved? (some after) "N").bind Object.integer?
        = (entries.resolved? (some before) "N").bind Object.integer?)
      (alternate : Option.Rel R (entries.entry? "Alternate") (others.entry? "Alternate")) :
      Corresponds before after R (.stream entries data) (.stream others moved)

/-- A relation between the objects of two documents under which what they lead to says the same. -/
def IsRelocation (before after : Document) (R : Object → Object → Prop) : Prop :=
  ∀ object other, R object other →
    Corresponds before after R (object.resolve (some before)) (other.resolve (some after))

/-- A definition in one document says the same as another one in another document, wherever the
elements are stored. -/
def SaysSame (before after : Document) (object other : Object) : Prop :=
  ∃ R, IsRelocation before after R ∧ R object other

section

variable {before after : Document} {R S : Object → Object → Prop}

theorem Corresponds.mono (h : ∀ object other, R object other → S object other)
    {object other : Object} (corresponds : Corresponds before after R object other) :
    Corresponds before after S object other := by
  cases corresponds with
  | same flat => exact .same flat
  | dangling => exact .dangling
  | array elements names => exact .array (elements.imp h) names
  | stream palette components alternate =>
    refine .stream palette components ?_
    obtain ⟨absent, absent'⟩ | ⟨space, otherSpace, found, found', related⟩ := rel_cases alternate
    · rw [absent, absent']
      exact .none
    · rw [found, found']
      exact .some (h _ _ related)

theorem isRelocation_saysSame : IsRelocation before after (SaysSame before after) := by
  rintro object other ⟨R, relocation, related⟩
  exact (relocation object other related).mono fun _ _ part => ⟨R, relocation, part⟩

/-- Definitions say the same if what they lead to does, part by part. -/
theorem SaysSame.of_corresponds {object other : Object}
    (h : Corresponds before after (SaysSame before after) (object.resolve (some before))
      (other.resolve (some after))) : SaysSame before after object other := by
  refine ⟨fun a b => SaysSame before after a b ∨ a = object ∧ b = other, ?_, Or.inr ⟨rfl, rfl⟩⟩
  rintro a b (same | ⟨rfl, rfl⟩)
  · exact (isRelocation_saysSame a b same).mono fun _ _ => Or.inl
  · exact h.mono fun _ _ => Or.inl

/-- What definitions that say the same lead to says the same. -/
theorem SaysSame.resolved {object other : Object} (same : SaysSame before after object other) :
    SaysSame before after (object.resolve (some before)) (other.resolve (some after)) := by
  refine .of_corresponds ?_
  rw [Object.resolve_resolve, Object.resolve_resolve]
  exact isRelocation_saysSame object other same

/-- In one document, every definition says the same as itself. -/
theorem SaysSame.refl (document : Document) (object : Object) :
    SaysSame document document object object := by
  refine ⟨Eq, ?_, rfl⟩
  rintro object _ rfl
  generalize object.resolve (some document) = target
  cases target with
  | array items => exact .array (List.forall₂_refl items) ⟨rfl, fun _ => rfl, fun _ => rfl⟩
  | stream entries data =>
    refine .stream rfl rfl ?_
    cases Dictionary.entry? entries "Alternate" with
    | none => exact .none
    | some alternate => exact .some rfl
  | _ => exact .same ⟨rfl, rfl⟩

/-- A definition says the same behind a reference that leads to what says the same. -/
theorem SaysSame.behind {object other : Object} {id : ObjectId}
    (same : SaysSame before after object other)
    (held : after.fetch id = .ok (other.resolve (some after))) :
    SaysSame before after object (.reference id) := by
  refine .of_corresponds ?_
  rw [Object.resolve_reference, held]
  exact isRelocation_saysSame object other same

/-- Arrays say the same if their elements do, in which the names that are read in place are the
same. -/
theorem SaysSame.array {items others : List Object}
    (elements : List.Forall₂ (SaysSame before after) items others)
    (names : KeepsNames before after items others) :
    SaysSame before after (.array items) (.array others) :=
  .of_corresponds (.array elements names)

/-- In a document, an element of an array can move behind a reference, apart from the name of the
family and that of a single colorant. -/
theorem SaysSame.set {document : Document} {items : List Object} {index : ℕ} {element : Object}
    {id : ObjectId} (place : items[index]? = some element)
    (held : document.fetch id = .ok (element.resolve (some document)))
    (family : index ≠ 0)
    (colorant : index = 1 → items.head?.bind Object.name? ≠ some "Separation") :
    SaysSame document document (.array items) (.array (items.set index (.reference id))) := by
  have elements : List.Forall₂ (SaysSame document document) items
      (items.set index (.reference id)) :=
    forall₂_set (.refl document) place ((SaysSame.refl document element).behind held)
  have head : (items.set index (.reference id)).head? = items.head? := by
    rw [List.head?_eq_getElem?, List.head?_eq_getElem?, List.getElem?_set_ne family]
  refine .array elements ⟨by rw [head], fun separation => ?_, fun _ => ?_⟩
  · rw [List.getElem?_set_ne fun first => colorant first separation]
  · by_cases first : index = 1
    · subst first
      obtain ⟨bound, rfl⟩ := List.getElem?_eq_some_iff.1 place
      unfold colorantsOf
      rw [List.getElem?_set_self bound, List.getElem?_eq_getElem bound, Option.map_some,
        Option.map_some, Object.resolve_reference, held]
    · unfold colorantsOf
      rw [List.getElem?_set_ne first]

end

/-! ## What a definition reads -/

section

variable {before after : Document} {items others : List Object}

theorem Corresponds.integer?_eq {R : Object → Object → Prop} {object other : Object}
    (h : Corresponds before after R object other) : other.integer? = object.integer? := by
  cases h <;> rfl

theorem Corresponds.palette?_eq {R : Object → Object → Prop} {object other : Object}
    (h : Corresponds before after R object other) : palette? other = palette? object := by
  cases h with
  | stream palette => exact palette
  | _ => rfl

/-- The elements at one place of two arrays say the same, if the arrays reach so far. -/
theorem rel_getElem? (elements : List.Forall₂ (SaysSame before after) items others) (index : ℕ) :
    Option.Rel (SaysSame before after) items[index]? others[index]? := by
  induction elements generalizing index with
  | nil => exact .none
  | cons same _ ih =>
    cases index with
    | zero => exact .some same
    | succ index => exact ih index

/-- What is read of an element is the same, if it is so for objects that correspond. -/
theorem bind_resolved_eq {α : Type} {read : Object → Option α}
    (h : ∀ object other, Corresponds before after (SaysSame before after) object other →
      read other = read object)
    (elements : List.Forall₂ (SaysSame before after) items others) (index : ℕ) :
    (others[index]?.map (·.resolve (some after))).bind read
      = (items[index]?.map (·.resolve (some before))).bind read := by
  obtain ⟨absent, absent'⟩ | ⟨object, other, found, found', same⟩ :=
    rel_cases (rel_getElem? elements index)
  · rw [absent, absent']
    rfl
  · rw [found, found']
    exact h _ _ (isRelocation_saysSame object other same)

variable {nested moved : Object → Except StreamFailure (Option ColorSpace)}

theorem resolveItem_congr
    (h : ∀ object other, SaysSame before after object other → moved other = nested object)
    (elements : List.Forall₂ (SaysSame before after) items others) (index : ℕ) :
    resolveItem moved others index = resolveItem nested items index := by
  unfold resolveItem
  obtain ⟨absent, absent'⟩ | ⟨object, other, found, found', same⟩ :=
    rel_cases (rel_getElem? elements index)
  · rw [absent, absent']
  · rw [found, found']
    exact h object other same

/-- The streams at one place of two arrays have the same number of components, and alternate spaces
that say the same, if streams stand there. -/
theorem stream?_cases (elements : List.Forall₂ (SaysSame before after) items others) (index : ℕ) :
    ((items[index]?.map (·.resolve (some before))).bind Object.stream? = none ∧
      (others[index]?.map (·.resolve (some after))).bind Object.stream? = none) ∨
    ∃ stream other : Stream,
      (items[index]?.map (·.resolve (some before))).bind Object.stream? = some stream ∧
      (others[index]?.map (·.resolve (some after))).bind Object.stream? = some other ∧
      (other.dictionary.resolved? (some after) "N").bind Object.integer?
        = (stream.dictionary.resolved? (some before) "N").bind Object.integer? ∧
      Option.Rel (SaysSame before after) (stream.dictionary.resolved? (some before) "Alternate")
        (other.dictionary.resolved? (some after) "Alternate") := by
  obtain ⟨absent, absent'⟩ | ⟨object, other, found, found', same⟩ :=
    rel_cases (rel_getElem? elements index)
  · rw [absent, absent']
    exact .inl ⟨rfl, rfl⟩
  · rw [found, found', Option.map_some, Option.map_some, Option.bind_some, Option.bind_some]
    have corresponds := isRelocation_saysSame object other same
    revert corresponds
    generalize object.resolve _ = target
    generalize other.resolve _ = moved
    rintro (flat | _ | _ | ⟨-, components, alternate⟩)
    · exact .inl ⟨flat.2, flat.2⟩
    · exact .inl ⟨rfl, rfl⟩
    · exact .inl ⟨rfl, rfl⟩
    · refine .inr ⟨_, _, rfl, rfl, components, ?_⟩
      unfold Dictionary.resolved?
      obtain ⟨absent, absent'⟩ | ⟨space, space', found, found', same⟩ := rel_cases alternate
      · rw [absent, absent']
        exact .none
      · rw [found, found']
        exact .some same.resolved

/-- Arrays whose elements say the same define the same space, if the definitions in them do. -/
theorem resolveArray_congr
    (h : ∀ object other, SaysSame before after object other → moved other = nested object)
    (elements : List.Forall₂ (SaysSame before after) items others)
    (names : KeepsNames before after items others) :
    resolveArray (some after) moved others = resolveArray (some before) nested items := by
  have item := resolveItem_congr h elements
  have integer := bind_resolved_eq (fun _ _ => Corresponds.integer?_eq) elements 2
  have palette := bind_resolved_eq (fun _ _ => Corresponds.palette?_eq) elements 3
  unfold resolveArray
  simp only [names.family, item, integer, palette]
  -- The families in their order; only a profile and colorants are read in ways of their own.
  split
  · rfl
  · rfl
  · rfl
  · rfl
  · obtain ⟨absent, absent'⟩ | ⟨stream, other, found, found', components, alternate⟩ :=
      stream?_cases elements 1
    · rw [absent, absent']
    · rw [found, found']
      simp only [components]
      obtain ⟨bare, bare'⟩ | ⟨space, space', held, held', same⟩ := rel_cases alternate
      · rw [bare, bare']
      · rw [held, held']
        simp only [h space space' same]
  · rfl
  · rfl
  · next separation => rw [names.colorant separation]
  · next deviceN =>
    have colorants := names.colorants deviceN
    unfold colorantsOf at colorants
    generalize (others[1]?.map _).bind Object.array? = list' at colorants ⊢
    generalize (items[1]?.map _).bind Object.array? = list at colorants ⊢
    match list, list', colorants with
    | none, none, _ => rfl
    | some names, some names', colorants =>
      have same : names'.filterMap Object.name? = names.filterMap Object.name? :=
        Option.some.inj colorants
      simp only [same]
  · rfl
  · rfl

/-- Definitions that say the same define the same space, with as many levels to follow. -/
theorem resolveWithin_congr (maxDepth levels : ℕ) {object other : Object}
    (same : SaysSame before after object other) :
    resolveWithin (some after) maxDepth levels other
      = resolveWithin (some before) maxDepth levels object := by
  -- On the levels; what the objects lead to corresponds, and its parts have one level less.
  induction levels generalizing object other with
  | zero => rfl
  | succ levels ih =>
    unfold resolveWithin
    have corresponds := isRelocation_saysSame object other same
    revert corresponds
    generalize object.resolve (some before) = target
    generalize other.resolve (some after) = moved
    intro corresponds
    cases corresponds with
    | same flat =>
      cases target with
      | array items => cases flat.1
      | _ => rfl
    | dangling => rfl
    | array elements names => exact resolveArray_congr (fun _ _ => ih) elements names
    | stream => rfl

end

/-! ## Names behind references -/

section

variable (document : Document) (maxDepth : ℕ) (id : ObjectId) (items : List Object)

theorem resolve_array (document : Option Document) :
    resolve document maxDepth (.array items)
      = resolveArray document (resolveWithin document maxDepth maxDepth) items := rfl

/-- The name of a family is not read behind a reference. -/
theorem resolve_familyBehind :
    resolve (some document) maxDepth (.array (.reference id :: items)) = .ok none := rfl

variable {family : Object}

/-- The name of a single colorant is not read behind a reference. -/
theorem resolve_colorantBehind (separation : family.name? = some "Separation") :
    resolve (some document) maxDepth (.array (family :: .reference id :: items)) = .ok none := by
  rw [resolve_array, resolveArray]
  simp only [List.head?_cons, Option.bind_some, separation]
  rfl

/-- A space of several colorants, of which the list holds the names. -/
theorem resolve_colorants (severalColorants : family.name? = some "DeviceN") (names : List Object) :
    resolve (some document) maxDepth (.array (family :: .array names :: items)) = (do
      let alternate ← resolveItem (resolveWithin (some document) maxDepth maxDepth) items 0
      return alternate.map (deviceN (names.filterMap Object.name?))) := by
  rw [resolve_array, resolveArray]
  simp only [List.head?_cons, Option.bind_some, severalColorants]
  rfl

/-- Of the names of several colorants, those behind references are left out. -/
theorem resolve_colorantsBehind (severalColorants : family.name? = some "DeviceN")
    (front back : List Object) :
    resolve (some document) maxDepth
        (.array (family :: .array (front ++ .reference id :: back) :: items))
      = resolve (some document) maxDepth (.array (family :: .array (front ++ back) :: items)) := by
  have names : (front ++ .reference id :: back).filterMap Object.name?
      = (front ++ back).filterMap Object.name? := by
    rw [List.filterMap_append, List.filterMap_append]
    rfl
  rw [resolve_colorants _ _ _ severalColorants, resolve_colorants _ _ _ severalColorants, names]

end

/-- **Where the elements of a definition are stored matters for its names only.** Definitions that
say the same define the same space, to any depth, wherever their elements are stored, if the names
that are read in place are the same; so any element of an array can move behind a reference that
leads to the same, apart from the name of the family and that of a single colorant. Behind a
reference, these names define no space, and that of one of several colorants is left out. -/
theorem resolve_stored (document : Document) (maxDepth : ℕ) :
    (∀ (before : Document) (object other : Object), SaysSame before document object other →
      resolve (some document) maxDepth other = resolve (some before) maxDepth object) ∧
    (∀ (items : List Object) (index : ℕ) (element : Object) (id : ObjectId),
      items[index]? = some element → document.fetch id = .ok (element.resolve (some document)) →
      index ≠ 0 → (index = 1 → items.head?.bind Object.name? ≠ some "Separation") →
      resolve (some document) maxDepth (.array (items.set index (.reference id)))
        = resolve (some document) maxDepth (.array items)) ∧
    (∀ id items, resolve (some document) maxDepth (.array (.reference id :: items)) = .ok none) ∧
    (∀ id items (family : Object), family.name? = some "Separation" →
      resolve (some document) maxDepth (.array (family :: .reference id :: items)) = .ok none) ∧
    ∀ id items (family : Object), family.name? = some "DeviceN" → ∀ front back : List Object,
      resolve (some document) maxDepth
          (.array (family :: .array (front ++ .reference id :: back) :: items))
        = resolve (some document) maxDepth
          (.array (family :: .array (front ++ back) :: items)) := by
  refine ⟨fun _ _ _ same => resolveWithin_congr maxDepth (maxDepth + 1) same, ?_,
    resolve_familyBehind document maxDepth, fun id items _ => resolve_colorantBehind _ _ id items,
    fun id items _ => resolve_colorantsBehind _ _ id items⟩
  intro items index element id place held family colorant
  exact resolveWithin_congr maxDepth (maxDepth + 1) (.set place held family colorant)

end

attribute [local instance] StreamDecoder.withoutFilters

/-- A document that holds elements of definitions: a space, a last number, a palette, and two names.
-/
def elementsDocument : Document :=
  .ofList
    [(⟨1, 0⟩, .ofName "DeviceRGB"), (⟨2, 0⟩, .integer 1),
      (⟨3, 0⟩, .hex [0, 0, 0, 255, 255, 255]), (⟨4, 0⟩, .ofName "Separation"),
      (⟨5, 0⟩, .ofName "Gold")]
    []

/-- A palette of black and white, with its elements in the array. -/
def paletteItems : List Object :=
  [.ofName "Indexed", .ofName "DeviceRGB", .integer 1, .hex [0, 0, 0, 255, 255, 255]]

/-- A palette of black and white, with its elements behind references. -/
def paletteBehind : Object :=
  .array [.ofName "Indexed", .reference ⟨1, 0⟩, .reference ⟨2, 0⟩, .reference ⟨3, 0⟩]

theorem saysSame_palette :
    SaysSame elementsDocument elementsDocument (.array paletteItems) paletteBehind := by
  refine .array (.cons (.refl _ _) (.cons (.behind (.refl _ _) rfl)
    (.cons (.behind (.refl _ _) rfl) (.cons (.behind (.refl _ _) rfl) .nil)))) ⟨rfl, ?_, ?_⟩
  · intro separation
    exact absurd separation (by decide +kernel)
  · intro severalColorants
    exact absurd severalColorants (by decide +kernel)

theorem resolve_stored_palette :
    SaysSame elementsDocument elementsDocument (.array paletteItems) paletteBehind ∧
    (Object.ofName "Separation").name? = some "Separation" ∧
    (Object.ofName "DeviceN").name? = some "DeviceN" ∧
    resolve (some elementsDocument) 16 paletteBehind
      = resolve (some elementsDocument) 16 (.array paletteItems) ∧
    paletteItems.head?.bind Object.name? ≠ some "Separation" ∧
    resolve (some elementsDocument) 16 (.array (paletteItems.set 1 (.reference ⟨1, 0⟩)))
      = resolve (some elementsDocument) 16 (.array paletteItems) ∧
    resolve (some elementsDocument) 16 (.array paletteItems)
      = .ok (some (indexed deviceRgb 1 [0, 0, 0, 255, 255, 255])) ∧
    resolve (some elementsDocument) 16
      (.array [.ofName "Separation", .reference ⟨5, 0⟩, .ofName "DeviceRGB"]) = .ok none ∧
    resolve (some elementsDocument) 16
        (.array [.ofName "DeviceN", .array [.ofName "Cyan", .reference ⟨5, 0⟩],
          .ofName "DeviceRGB"])
      = resolve (some elementsDocument) 16
        (.array [.ofName "DeviceN", .array [.ofName "Cyan"], .ofName "DeviceRGB"]) := by
  have separation : (Object.ofName "Separation").name? = some "Separation" := by decide +kernel
  have severalColorants : (Object.ofName "DeviceN").name? = some "DeviceN" := by decide +kernel
  have indexed : paletteItems.head?.bind Object.name? ≠ some "Separation" := by decide +kernel
  obtain ⟨stored, moved, -, colorant, colorants⟩ := resolve_stored elementsDocument 16
  exact ⟨saysSame_palette, separation, severalColorants, stored _ _ _ saysSame_palette, indexed,
    moved _ 1 (.ofName "DeviceRGB") _ rfl rfl (by decide) fun _ => indexed,
    by decide +kernel, colorant _ _ _ separation,
    colorants _ _ _ severalColorants [.ofName "Cyan"] []⟩

/-- A family, a colorant and one of several colorants are lost behind references that lead to their
names. -/
theorem resolve_stored_ne :
    elementsDocument.fetch ⟨4, 0⟩ = .ok (.ofName "Separation") ∧
    elementsDocument.fetch ⟨5, 0⟩ = .ok (.ofName "Gold") ∧
    resolve (some elementsDocument) 16
        (.array [.reference ⟨4, 0⟩, .ofName "Gold", .ofName "DeviceRGB"])
      ≠ resolve (some elementsDocument) 16
        (.array [.ofName "Separation", .ofName "Gold", .ofName "DeviceRGB"]) ∧
    resolve (some elementsDocument) 16
        (.array [.ofName "Separation", .reference ⟨5, 0⟩, .ofName "DeviceRGB"])
      ≠ resolve (some elementsDocument) 16
        (.array [.ofName "Separation", .ofName "Gold", .ofName "DeviceRGB"]) ∧
    resolve (some elementsDocument) 16
        (.array [.ofName "DeviceN", .array [.ofName "Cyan", .reference ⟨5, 0⟩],
          .ofName "DeviceRGB"])
      ≠ resolve (some elementsDocument) 16
        (.array [.ofName "DeviceN", .array [.ofName "Cyan", .ofName "Gold"],
          .ofName "DeviceRGB"]) := by
  exact ⟨rfl, rfl, by decide +kernel, by decide +kernel, by decide +kernel⟩

end ColorSpace

end Preflight

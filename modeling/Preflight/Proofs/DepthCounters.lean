import Mathlib
import Preflight.Check.Content
import Preflight.Proofs.Success

/-!
# Recursion that counts its depth

Page groups belong to other groups, color space definitions hold other definitions, and the content
of a tiling pattern selects other patterns; all of these may come back to themselves. Nothing that
is followed becomes smaller, so the only thing that ends the recursion is that it counts how deep it
is. Here each of the three is given by one step that leaves the deeper calls to another function,
without any limit on the recursion itself. What a step makes of the deeper calls depends on finitely
many of them, all of which return.
-/

namespace Preflight

/-! ## Recursion by steps -/

section

variable {C R : Type} {step : (C → R) → C → R} {within : C → Prop}

/-- A recursive computation, of which a step leaves the deeper calls to another function, returns a
result: this is determined by the answers to finitely many calls, which return in turn. All calls
lie within bounds. -/
inductive Returns (step : (C → R) → C → R) (within : C → Prop) : C → R → Prop where
  | intro {call : C} {result : R} (inside : within call) (calls : List C) (answers : C → R)
      (answered : ∀ next ∈ calls, Returns step within next (answers next))
      (determined : ∀ self : C → R, (∀ next ∈ calls, self next = answers next) →
        step self call = result) :
      Returns step within call result

/-- A call returns one result only. -/
theorem Returns.unique {call : C} {result other : R} (h : Returns step within call result)
    (h' : Returns step within call other) : result = other := by
  classical
  -- On the first computation; a function that gives the answers of both determines both results.
  induction h generalizing other with
  | intro _ calls answers _ determined ih =>
    obtain ⟨-, calls', answers', answered', determined'⟩ := h'
    let self (next : C) : R := if next ∈ calls then answers next else answers' next
    rw [← determined self fun next made => if_pos made]
    refine determined' self fun next made => ?_
    by_cases known : next ∈ calls
    · exact (if_pos known).trans (ih next known (answered' next made))
    · exact if_neg known

/-- A function that follows the steps gives the results, if the calls on which each step depends
stay within the bounds and have a smaller measure. -/
theorem returns_iff (f : C → R) (measure : C → ℕ) (calls : C → List C)
    (deeper : ∀ call, within call → ∀ next ∈ calls call, within next ∧ measure next < measure call)
    (determined : ∀ call, within call → ∀ self : C → R,
      (∀ next ∈ calls call, self next = f next) → step self call = f call)
    (call : C) (inside : within call) (result : R) :
    Returns step within call result ↔ result = f call := by
  have returns : Returns step within call (f call) := by
    induction bound : measure call using Nat.strong_induction_on generalizing call with
    | _ n ih =>
      refine .intro inside (calls call) f (fun next made => ?_) (determined call inside)
      obtain ⟨inside', less⟩ := deeper call inside next made
      exact ih (measure next) (bound ▸ less) next inside' rfl
  constructor
  · exact fun h => h.unique returns
  · rintro rfl
    exact returns

end

namespace Document

/-! ## Attributes of pages -/

variable (document : Document) (key : String)

/-- A page, or a group so far above one. -/
structure Ancestor where
  above : ℕ
  id : ObjectId

/-- The group to which a page or a group belongs. -/
def parent? (id : ObjectId) : Option ObjectId :=
  ((document.pageDictionary id).toOption.bind fun dictionary =>
    dictionary.entry? "Parent").bind Object.reference?

/-- Search a page or a group for an attribute, where `self` searches the group above it. -/
def inheritStep (self : Ancestor → Except StructureFault (Option Object)) (call : Ancestor) :
    Except StructureFault (Option Object) :=
  if inheritanceLimit ≤ call.above then .error .parentChain
  else do
    let dictionary ← document.pageDictionary call.id
    match dictionary.entry? key with
    | some value => return some value
    | none =>
      match dictionary.entry? "Parent" with
      | none => return none
      | some parent =>
        match parent.expectReference with
        | .ok parentId => self ⟨call.above + 1, parentId⟩
        | .error fault => .error (.parent fault)

/-- The groups that searching a page or a group depends on. -/
def ancestors (call : Ancestor) : List Ancestor :=
  if inheritanceLimit ≤ call.above then []
  else (document.parent? call.id).toList.map fun id => ⟨call.above + 1, id⟩

variable {document key}

theorem inheritStep_eq {self : Ancestor → Except StructureFault (Option Object)} {call : Ancestor}
    (inside : call.above ≤ inheritanceLimit)
    (h : ∀ next ∈ document.ancestors call,
      self next = document.inheritedWithin key (inheritanceLimit - next.above) next.id) :
    document.inheritStep key self call
      = document.inheritedWithin key (inheritanceLimit - call.above) call.id := by
  obtain ⟨above, id⟩ := call
  unfold inheritStep
  unfold ancestors at h
  simp only at inside h ⊢
  split
  · next far =>
    have last : above = inheritanceLimit := Nat.le_antisymm inside far
    rw [last, Nat.sub_self]
    rfl
  next near =>
  rw [if_neg near] at h
  have levels : inheritanceLimit - above = inheritanceLimit - (above + 1) + 1 := by omega
  rw [levels, inheritedWithin]
  cases found : document.pageDictionary id with
  | error fault => rfl
  | ok dictionary =>
    simp only [ok_bind]
    cases dictionary.entry? key with
    | some value => rfl
    | none =>
    cases belongs : dictionary.entry? "Parent" with
    | none => rfl
    | some parent =>
    cases parent with
    | reference parentId =>
      have listed : document.parent? id = some parentId := by
        unfold parent?
        rw [found]
        show (dictionary.entry? "Parent").bind Object.reference? = some parentId
        rw [belongs]
        rfl
      rw [listed] at h
      exact h ⟨above + 1, parentId⟩ List.mem_cons_self
    | _ => rfl

/-- The search for an attribute returns, and is never further above a page than the limit. -/
theorem returns_inherited (id : ObjectId) (result : Except StructureFault (Option Object)) :
    Returns (document.inheritStep key) (·.above ≤ inheritanceLimit) ⟨0, id⟩ result ↔
      result = document.inherited id key := by
  refine returns_iff
    (fun call => document.inheritedWithin key (inheritanceLimit - call.above) call.id)
    (fun call => inheritanceLimit - call.above) document.ancestors ?_
    (fun call inside self => inheritStep_eq inside) ⟨0, id⟩ (Nat.zero_le _) result
  intro call inside next made
  have one : call.above + 1 ≤ inheritanceLimit ∧ next.above = call.above + 1 := by
    unfold ancestors at made
    split at made
    · cases made
    next near =>
    obtain ⟨parentId, -, rfl⟩ := List.mem_map.1 made
    exact ⟨Nat.not_le.1 near, rfl⟩
  omega

end Document

namespace ColorSpace

/-! ## Color space definitions -/

variable (document : Option Document)

/-- The objects that an array can take for definitions: its elements, and the alternate space of the
stream of a profile. -/
def definitionsIn (items : List Object) : List Object :=
  match (items[1]?.map (·.resolve document)).bind Object.stream? with
  | some stream => (stream.dictionary.resolved? document "Alternate").toList ++ items
  | none => items

theorem mem_definitionsIn {document : Option Document} {items : List Object} {object : Object}
    (h : object ∈ items) :
    object ∈ definitionsIn document items := by
  unfold definitionsIn
  split
  · exact List.mem_append_right _ h
  · exact h

variable [StreamDecoder] (maxDepth : ℕ)

/-- A definition that is met so deep in others. -/
structure NestedDefinition where
  depth : ℕ
  object : Object

/-- Resolve a definition, where `self` resolves those in it. -/
def resolveStep (self : NestedDefinition → Except StreamFailure (Option ColorSpace))
    (call : NestedDefinition) : Except StreamFailure (Option ColorSpace) :=
  if maxDepth < call.depth then .error (.limitExceeded .colorDepth maxDepth call.depth)
  else
    match call.object.resolve document with
    | .name bytes => .ok (ofFamilyName? (Utf8.decode bytes))
    | .array items => resolveArray document (fun object => self ⟨call.depth + 1, object⟩) items
    | _ => .ok none

variable {document}

/-- The space of an array depends on the definitions in it. -/
theorem resolveArray_eq_of_definitionsIn
    {nested other : Object → Except StreamFailure (Option ColorSpace)} {items : List Object}
    (h : ∀ object ∈ definitionsIn document items, nested object = other object) :
    resolveArray document nested items = resolveArray document other items := by
  have item (index : ℕ) : resolveItem nested items index = resolveItem other items index := by
    unfold resolveItem
    split
    · next found => exact h _ (mem_definitionsIn (List.mem_of_getElem? found))
    · rfl
  unfold resolveArray
  simp only [item]
  -- Only the family of profiles holds a definition elsewhere than among the items.
  split
  · rfl
  · rfl
  · rfl
  · rfl
  · split
    · rfl
    · next stream found =>
      split
      · next object alternate =>
        have listed : object ∈ definitionsIn document items := by
          unfold definitionsIn
          rw [found]
          simp only [alternate, Option.toList_some]
          exact List.mem_append_left _ List.mem_cons_self
        rw [h object listed]
      · rfl
  · rfl
  · rfl
  · rfl
  · rfl
  · rfl
  · rfl

/-- The definitions that resolving one depends on. -/
def nestedDefinitions (document : Option Document) (maxDepth : ℕ) (call : NestedDefinition) :
    List NestedDefinition :=
  if maxDepth < call.depth then []
  else
    match call.object.resolve document with
    | .array items => (definitionsIn document items).map fun object => ⟨call.depth + 1, object⟩
    | _ => []

theorem resolveStep_eq {self : NestedDefinition → Except StreamFailure (Option ColorSpace)}
    {call : NestedDefinition} (inside : call.depth ≤ maxDepth + 1)
    (h : ∀ next ∈ nestedDefinitions document maxDepth call,
      self next = resolveWithin document maxDepth (maxDepth + 1 - next.depth) next.object) :
    resolveStep document maxDepth self call
      = resolveWithin document maxDepth (maxDepth + 1 - call.depth) call.object := by
  obtain ⟨depth, object⟩ := call
  unfold resolveStep
  unfold nestedDefinitions at h
  simp only at inside h ⊢
  split
  · next deep =>
    have last : depth = maxDepth + 1 := Nat.le_antisymm inside deep
    rw [last, Nat.sub_self]
    rfl
  · next allowed =>
    rw [if_neg allowed] at h
    have levels : maxDepth + 1 - depth = maxDepth + 1 - (depth + 1) + 1 := by omega
    rw [levels, resolveWithin]
    revert h
    generalize object.resolve document = target
    intro h
    cases target with
    | array items =>
      exact resolveArray_eq_of_definitionsIn fun item listed =>
        h ⟨depth + 1, item⟩ (List.mem_map_of_mem listed)
    | _ => rfl

/-- Resolving a definition returns, and is never deeper than one above the limit. -/
theorem returns_resolve (object : Object) (result : Except StreamFailure (Option ColorSpace)) :
    Returns (resolveStep document maxDepth) (·.depth ≤ maxDepth + 1) ⟨0, object⟩ result ↔
      result = resolve document maxDepth object := by
  refine returns_iff
    (fun call => resolveWithin document maxDepth (maxDepth + 1 - call.depth) call.object)
    (fun call => maxDepth + 1 - call.depth) (nestedDefinitions document maxDepth) ?_
    (fun call inside self => resolveStep_eq maxDepth inside) ⟨0, object⟩ (Nat.zero_le _) result
  intro call inside next made
  have one : call.depth ≤ maxDepth ∧ next.depth = call.depth + 1 := by
    unfold nestedDefinitions at made
    split at made
    · cases made
    next allowed =>
    split at made
    · obtain ⟨item, -, rfl⟩ := List.mem_map.1 made
      exact ⟨Nat.not_lt.1 allowed, rfl⟩
    · cases made
  omega

end ColorSpace

/-! ## Content streams and tiling patterns -/

namespace ContentScope

variable [StreamDecoder] (scope : ContentScope)

/-- The content of the tiling patterns that can be selected, with the resources of each. -/
def tiles : List (Bytes × Dictionary) :=
  match scope.resources.dictionary? scope.document "Pattern" with
  | none => []
  | some entries => entries.filterMap fun entry => do
    let stream ← (entry.2.resolve scope.document).stream?
    let content ← stream.content.toOption
    return (content, (stream.dictionary.dictionary? scope.document "Resources").getD [])

variable {scope}

theorem mem_tiles {name : String} {pattern : Object} {stream : Stream} {content : Bytes}
    (found : scope.pattern? name = some pattern) (isStream : pattern.stream? = some stream)
    (content_ok : stream.content = .ok content) :
    (content, (stream.dictionary.dictionary? scope.document "Resources").getD [])
      ∈ scope.tiles := by
  obtain ⟨object, held, rfl⟩ := Option.map_eq_some_iff.1 found
  obtain ⟨entries, listed, held⟩ := Option.bind_eq_some_iff.1 held
  obtain ⟨front, back, split, -⟩ := List.lookup_eq_some_iff.1 held
  unfold tiles
  rw [listed]
  refine List.mem_filterMap.2 ⟨(Utf8.encode name, object), ?_, ?_⟩
  · rw [split]
    exact List.mem_append_right front List.mem_cons_self
  · simp only [isStream]
    show (stream.content.toOption >>= _) = _
    rw [content_ok]
    rfl

variable {nested other : Nested}
  (h : ∀ tile ∈ scope.tiles, nested tile.1 tile.2 = other tile.1 tile.2)
include h

/-- The verdict on a pattern depends on the tiles that can be selected. -/
theorem checkPattern_eq_of_tiles : scope.checkPattern nested = scope.checkPattern other := by
  funext name underlying components
  unfold checkPattern
  split
  · rfl
  next pattern found =>
  split
  · rfl
  split
  · rfl
  · unfold checkTilingPattern
    split
    · rfl
    split
    · rfl
    · next stream isStream =>
      cases content_ok : stream.content with
      | error fault => rfl
      | ok content => exact h _ (mem_tiles found isStream content_ok)
  · rfl

/-- The verdict on an operator depends on the tiles that can be selected. -/
theorem step_eq_of_tiles : scope.step nested = scope.step other := by
  funext paint operator
  unfold step checkSelectedColor checkColorOperator checkPatternOperator
  rw [checkPattern_eq_of_tiles h]

end ContentScope

namespace Settings

variable [StreamDecoder] (settings : Settings) (document : Option Document)

/-- A content stream that is met so deep below a page, with its resources. -/
structure NestedContent where
  depth : ℕ
  content : Bytes
  resources : Dictionary

/-- Judge a content stream, where `self` judges those of its patterns. -/
def contentStep (self : NestedContent → Except StreamFailure Unit) (call : NestedContent) :
    Except StreamFailure Unit := do
  let scope : ContentScope := ⟨settings, document, call.resources⟩
  let nested (content : Bytes) (resources : Dictionary) : Except StreamFailure Unit :=
    if settings.maxRecursionDepth < call.depth + 1 then
      .error (.limitExceeded .recursionDepth settings.maxRecursionDepth (call.depth + 1))
    else self ⟨call.depth + 1, content, resources⟩
  let _ ← obeyOperators (some settings.maxStreamBytes) call.content fun operators =>
    operators.foldlM (scope.step nested) PaintState.initial
  return ()

/-- The content streams that judging one depends on. -/
def nestedContents (call : NestedContent) : List NestedContent :=
  if settings.maxRecursionDepth < call.depth + 1 then []
  else (ContentScope.tiles ⟨settings, document, call.resources⟩).map fun tile =>
    ⟨call.depth + 1, tile.1, tile.2⟩

variable {settings document} (required : settings.level.isRequired = true)
include required

/-- Content that is too deep is refused. -/
theorem checkContentAt_of_lt {depth : ℕ} (deep : settings.maxRecursionDepth < depth)
    (content : Bytes) (resources : Dictionary) :
    settings.checkContentAt document depth content resources
      = .error (.limitExceeded .recursionDepth settings.maxRecursionDepth depth) := by
  unfold checkContentAt
  rw [required, if_neg (by decide), if_pos deep]

theorem checkContentAt_eq_within {depth : ℕ} (allowed : depth ≤ settings.maxRecursionDepth)
    (content : Bytes) (resources : Dictionary) :
    settings.checkContentAt document depth content resources =
      settings.checkContentWithin document (settings.maxRecursionDepth + 1 - depth) content
        resources := by
  unfold checkContentAt
  rw [required, if_neg (by decide), if_neg (Nat.not_lt.2 allowed)]

theorem contentStep_eq {self : NestedContent → Except StreamFailure Unit} {call : NestedContent}
    (inside : call.depth ≤ settings.maxRecursionDepth)
    (h : ∀ next ∈ settings.nestedContents document call,
      self next = settings.checkContentAt document next.depth next.content next.resources) :
    settings.contentStep document self call
      = settings.checkContentAt document call.depth call.content call.resources := by
  obtain ⟨depth, content, resources⟩ := call
  simp only at inside
  have levels : settings.maxRecursionDepth + 1 - depth = settings.maxRecursionDepth - depth + 1 :=
    Nat.sub_add_comm inside
  rw [checkContentAt_eq_within required inside, levels, checkContentWithin]
  unfold contentStep
  simp only
  rw [ContentScope.step_eq_of_tiles]
  intro tile selectable
  unfold nestedContents at h
  simp only at h
  split
  · next deep =>
    have last : settings.maxRecursionDepth - depth = 0 := by omega
    have deepest : depth + 1 = settings.maxRecursionDepth + 1 := by omega
    rw [last, deepest]
    rfl
  · next allowed =>
    rw [if_neg allowed] at h
    rw [h _ (List.mem_map_of_mem selectable),
      checkContentAt_eq_within required (Nat.not_lt.1 allowed)]
    congr 1
    omega

/-- Judging a content stream returns, and is never deeper than the limit. -/
theorem returns_checkContentAt {depth : ℕ} (allowed : depth ≤ settings.maxRecursionDepth)
    (content : Bytes) (resources : Dictionary) (result : Except StreamFailure Unit) :
    Returns (settings.contentStep document) (·.depth ≤ settings.maxRecursionDepth)
      ⟨depth, content, resources⟩ result ↔
      result = settings.checkContentAt document depth content resources := by
  refine returns_iff
    (fun call => settings.checkContentAt document call.depth call.content call.resources)
    (fun call => settings.maxRecursionDepth - call.depth) (settings.nestedContents document) ?_
    (fun call inside self => contentStep_eq required inside)
    ⟨depth, content, resources⟩ allowed result
  intro call inside next made
  have one : call.depth + 1 ≤ settings.maxRecursionDepth ∧ next.depth = call.depth + 1 := by
    unfold nestedContents at made
    split at made
    · cases made
    next allowed =>
    obtain ⟨tile, -, rfl⟩ := List.mem_map.1 made
    exact ⟨Nat.not_lt.1 allowed, rfl⟩
  omega

end Settings

end Preflight

import Mathlib
import Preflight.Proofs.DepthCounters

/-!
# Chains of definitions

A color space definition goes on with at most one other definition: the alternate space of a profile
or of colorants, the base of a palette, or the space under a pattern. So the definitions that lie in
an object form a chain, which is endless where a definition comes back to itself. The length of the
chain is the limit from which on resolving the object succeeds, always with the same result; and the
space that results holds no more spaces, one within another, than the chain has definitions, apart
from the one that a profile without an alternate space adds.
-/

namespace Preflight.ColorSpace

/-! ## Spaces within spaces -/

/-- The space that a space refers to. -/
def inner? : ColorSpace → Option ColorSpace
  | iccBased _ inner | indexed inner _ _ | separation _ inner | deviceN _ inner
  | patternOver inner => some inner
  | _ => none

/-- The space that lies so many levels within a space. -/
def partAt? : ℕ → ColorSpace → Option ColorSpace
  | 0, space => some space
  | level + 1, space => space.inner?.bind (partAt? level)

/-- How many levels of spaces a space holds, each within the one before. -/
def nesting : ColorSpace → ℕ
  | iccBased _ inner | indexed inner _ _ | separation _ inner | deviceN _ inner
  | patternOver inner => inner.nesting + 1
  | _ => 0

theorem nesting_of_inner? {space inner : ColorSpace} (h : space.inner? = some inner) :
    space.nesting = inner.nesting + 1 := by
  cases space <;> cases h <;> rfl

theorem nesting_eq_zero {space : ColorSpace} (h : space.inner? = none) : space.nesting = 0 := by
  cases space with
  | iccBased | indexed | separation | deviceN | patternOver => cases h
  | _ => rfl

theorem inner?_of_ofFamilyName? {name : String} {space : ColorSpace}
    (h : ofFamilyName? name = some space) : space.inner? = none := by
  unfold ofFamilyName? ofDeviceName? at h
  split_ifs at h <;> cases h <;> rfl

theorem inner?_ofComponentCount (count : ℕ) : (ofComponentCount count).inner? = none := by
  unfold ofComponentCount
  split_ifs <;> rfl

/-! ## Frames -/

/-- What resolving a definition comes to. -/
structure Frame where
  /-- The definition with which it goes on. -/
  next : Option Object
  /-- The space that is made of what the next definition defines. -/
  build : Option ColorSpace → Option ColorSpace

namespace Frame

/-- A definition that is resolved by itself. -/
def final (result : Option ColorSpace) : Frame := ⟨none, fun _ => result⟩

/-- Resolve the next definition, and build the space. -/
def run (frame : Frame) (nested : Object → Except StreamFailure (Option ColorSpace)) :
    Except StreamFailure (Option ColorSpace) :=
  match frame.next with
  | some object => (nested object).map frame.build
  | none => .ok (frame.build none)

end Frame

section

variable (document : Option Document) (items : List Object)

/-- The number of components that the stream of a profile declares. -/
def declaredComponents (stream : Stream) : ℕ :=
  ((stream.dictionary.resolved? document "N").bind Object.integer?).elim 3 fun n =>
    (n % 4294967296).toNat

/-- A profile goes on with its alternate space. -/
def profileFrame (stream : Option Stream) : Frame :=
  match stream with
  | none => .final none
  | some stream =>
    ⟨stream.dictionary.resolved? document "Alternate", fun alternate =>
      some (iccBased (declaredComponents document stream)
        (alternate.getD (ofComponentCount (declaredComponents document stream))))⟩

/-- A palette goes on with its base. -/
def paletteFrame (last : Option Int) (palette : Option Bytes) : Frame :=
  ⟨items[1]?, fun base => base.bind fun base =>
    match last, palette with
    | some last, some palette => some (indexed base (clampByte last) palette)
    | _, _ => none⟩

/-- Colorants, of which `add` makes a space over an alternate one, go on with that. -/
def colorantFrame (add : Option (ColorSpace → ColorSpace)) : Frame :=
  match add with
  | none => .final none
  | some add => ⟨items[2]?, Option.map add⟩

/-- Patterns go on with the space under them. -/
def patternFrame : Frame :=
  ⟨items[1]?, fun underlying => some (underlying.elim pattern patternOver)⟩

/-- What resolving an array comes to. -/
def arrayFrame [StreamDecoder] : Frame :=
  let resolved? (index : ℕ) : Option Object := items[index]?.map (·.resolve document)
  match items.head?.bind Object.name? with
  | none => .final none
  | some "CalGray" => .final (some calGray)
  | some "CalRGB" => .final (some calRgb)
  | some "Lab" => .final (some lab)
  | some "ICCBased" => profileFrame document ((resolved? 1).bind Object.stream?)
  | some "Indexed" | some "I" =>
    paletteFrame items ((resolved? 2).bind Object.integer?) ((resolved? 3).bind palette?)
  | some "Separation" => colorantFrame items ((items[1]?.bind Object.name?).map separation)
  | some "DeviceN" =>
    colorantFrame items (((resolved? 1).bind Object.array?).map fun names =>
      deviceN (names.filterMap Object.name?))
  | some "Pattern" => patternFrame items
  | some name => .final (ofFamilyName? name)

/-- What resolving a definition comes to. -/
def frame [StreamDecoder] (object : Object) : Frame :=
  match object.resolve document with
  | .name bytes => .final (ofFamilyName? (Utf8.decode bytes))
  | .array items => arrayFrame document items
  | _ => .final none

end

section

variable {document : Option Document} {items : List Object}

theorem resolveItem_map (nested : Object → Except StreamFailure (Option ColorSpace)) (index : ℕ)
    (build : Option ColorSpace → Option ColorSpace) :
    (resolveItem nested items index).map build = Frame.run ⟨items[index]?, build⟩ nested := by
  unfold resolveItem Frame.run
  cases items[index]? <;> rfl

theorem resolveArray_eq_run [StreamDecoder]
    (nested : Object → Except StreamFailure (Option ColorSpace)) :
    resolveArray document nested items = (arrayFrame document items).run nested := by
  unfold arrayFrame resolveArray
  simp only
  generalize items.head?.bind Object.name? = family
  split
  · rfl
  · rfl
  · rfl
  · rfl
  · show _ = (profileFrame document _).run nested
    cases (items[1]?.map (·.resolve document)).bind Object.stream? with
    | none => rfl
    | some stream =>
      simp only [profileFrame, Frame.run]
      cases stream.dictionary.resolved? document "Alternate" with
      | none => rfl
      | some object =>
        simp only
        cases nested object <;> rfl
  -- a palette has two family names
  iterate 2
    · show _ = (paletteFrame items _ _).run nested
      generalize (items[2]?.map (·.resolve document)).bind Object.integer? = last
      generalize (items[3]?.map (·.resolve document)).bind palette? = palette
      unfold paletteFrame
      rw [← resolveItem_map]
      cases resolveItem nested items 1 with
      | error => rfl
      | ok base =>
        cases base with
        | none => rfl
        | some base => cases last <;> cases palette <;> rfl
  · show _ = (colorantFrame items _).run nested
    unfold colorantFrame
    cases items[1]?.bind Object.name? with
    | none => rfl
    | some name => exact resolveItem_map nested 2 _
  · show _ = (colorantFrame items _).run nested
    unfold colorantFrame
    cases (items[1]?.map (·.resolve document)).bind Object.array? with
    | none => rfl
    | some names => exact resolveItem_map nested 2 _
  · show _ = (patternFrame items).run nested
    unfold patternFrame
    rw [← resolveItem_map]
    cases resolveItem nested items 1 with
    | error => rfl
    | ok underlying => cases underlying <;> rfl
  · -- any other name, for which the frame is chosen by ruling out the families too
    try simp only [*]
    rfl

/-- Resolving a definition with a level left is running its frame. -/
theorem resolveWithin_succ [StreamDecoder] (maxDepth level : ℕ) (object : Object) :
    resolveWithin document maxDepth (level + 1) object
      = (frame document object).run (resolveWithin document maxDepth level) := by
  unfold resolveWithin frame
  cases object.resolve document with
  | array items => exact resolveArray_eq_run _
  | _ => rfl

/-! ## Layers -/

/-- A frame builds a space over that of the next definition. Without one, it builds a space that
holds no other, apart from a `bare` one if there is no next definition. -/
structure Frame.Layers (frame : Frame) (bare : ColorSpace → Prop) : Prop where
  wraps {next : Object} {inner space : ColorSpace} : frame.next = some next →
    frame.build (some inner) = some space → space.inner? = some inner
  shallow {space : ColorSpace} : frame.build none = some space → space.nesting ≤ 1
  last {space : ColorSpace} : frame.next = none → frame.build none = some space →
    space.inner? = none ∨ bare space

variable {bare : ColorSpace → Prop}

theorem final_layers {result : Option ColorSpace}
    (flat : ∀ space, result = some space → space.inner? = none) :
    (Frame.final result).Layers bare where
  wraps continues _ := by cases continues
  shallow built := (nesting_eq_zero (flat _ built)).trans_le (Nat.zero_le 1)
  last _ built := .inl (flat _ built)

theorem profileFrame_layers {stream : Option Stream}
    (missing : ∀ profile, stream = some profile → profile.dictionary.entry? "Alternate" = none →
      bare (iccBased (declaredComponents document profile)
        (ofComponentCount (declaredComponents document profile)))) :
    (profileFrame document stream).Layers bare := by
  cases stream with
  | none => exact final_layers fun _ built => nomatch built
  | some profile =>
    refine ⟨?_, ?_, ?_⟩
    · intro next inner space _ built
      cases built
      rfl
    · intro space built
      cases built
      rw [nesting, Option.getD_none, nesting_eq_zero (inner?_ofComponentCount _)]
    · intro space ends built
      cases built
      exact .inr (missing profile rfl (Option.map_eq_none_iff.1 ends))

theorem paletteFrame_layers (last : Option Int) (palette : Option Bytes) :
    (paletteFrame items last palette).Layers bare := by
  refine ⟨?_, fun built => (nomatch built), fun _ built => (nomatch built)⟩
  intro next inner space _ built
  unfold paletteFrame at built
  cases last <;> cases palette <;> cases built
  rfl

theorem colorantFrame_layers {add : Option (ColorSpace → ColorSpace)}
    (wraps : ∀ layer, add = some layer → ∀ inner, (layer inner).inner? = some inner) :
    (colorantFrame items add).Layers bare := by
  cases add with
  | none => exact final_layers fun _ built => nomatch built
  | some layer =>
    refine ⟨?_, fun built => (nomatch built), fun _ built => (nomatch built)⟩
    intro next inner space _ built
    cases built
    exact wraps layer rfl inner

theorem patternFrame_layers : (patternFrame items).Layers bare := by
  refine ⟨?_, ?_, ?_⟩
  · intro next inner space _ built
    cases built
    rfl
  · intro space built
    cases built
    exact Nat.zero_le 1
  · intro space _ built
    cases built
    exact .inl rfl

/-- An object defines the space of a profile whose stream names no alternate space, and that has the
device space with as many components in its place. -/
def BareProfile (document : Option Document) (object : Object) (space : ColorSpace) : Prop :=
  ∃ items stream, object.resolve document = .array items ∧
    items.head?.bind Object.name? = some "ICCBased" ∧
    (items[1]?.map (·.resolve document)).bind Object.stream? = some stream ∧
    stream.dictionary.entry? "Alternate" = none ∧
    space = iccBased (declaredComponents document stream)
      (ofComponentCount (declaredComponents document stream))

theorem arrayFrame_layers [StreamDecoder] {object : Object}
    (array : object.resolve document = .array items) :
    (arrayFrame document items).Layers (BareProfile document object) := by
  have flat {result : Option ColorSpace} (h : ∀ space, result = some space → space.inner? = none) :
      (Frame.final result).Layers (BareProfile document object) := final_layers h
  unfold arrayFrame
  simp only
  split
  · exact flat fun _ built => nomatch built
  · exact flat fun _ built => Option.some.inj built ▸ rfl
  · exact flat fun _ built => Option.some.inj built ▸ rfl
  · exact flat fun _ built => Option.some.inj built ▸ rfl
  · next family =>
    exact profileFrame_layers fun profile found missing =>
      ⟨items, profile, array, family, found, missing, rfl⟩
  · exact paletteFrame_layers _ _
  · exact paletteFrame_layers _ _
  · refine colorantFrame_layers fun layer made inner => ?_
    obtain ⟨name, -, rfl⟩ := Option.map_eq_some_iff.1 made
    rfl
  · refine colorantFrame_layers fun layer made inner => ?_
    obtain ⟨names, -, rfl⟩ := Option.map_eq_some_iff.1 made
    rfl
  · exact patternFrame_layers
  · exact flat fun _ built => inner?_of_ofFamilyName? built

theorem frame_layers [StreamDecoder] (document : Option Document) (object : Object) :
    (frame document object).Layers (BareProfile document object) := by
  unfold frame
  split
  · exact final_layers fun _ built => inner?_of_ofFamilyName? built
  · next array => exact arrayFrame_layers array
  · exact final_layers fun _ built => nomatch built

/-! ## Chains -/

variable [StreamDecoder]

/-- The definition that lies so many levels within a definition. -/
def definitionAt? (document : Option Document) : ℕ → Object → Option Object
  | 0, object => some object
  | level + 1, object => (frame document object).next.bind (definitionAt? document level)

/-- Resolving exceeds the limit if the definitions go on for all levels that are left. -/
theorem resolveWithin_of_isSome {level : ℕ} {object : Object} (maxDepth : ℕ)
    (more : (definitionAt? document level object).isSome) :
    resolveWithin document maxDepth level object
      = .error (.limitExceeded .colorDepth maxDepth (maxDepth + 1)) := by
  induction level generalizing object with
  | zero => rfl
  | succ level ih =>
    rw [resolveWithin_succ, Frame.run]
    rw [definitionAt?] at more
    cases continues : (frame document object).next with
    | none =>
      rw [continues] at more
      cases more
    | some next =>
      rw [continues] at more
      simp only
      rw [ih more]
      rfl

/-- Resolving succeeds if the definitions end within the levels that are left, and more levels do
not matter. -/
theorem exists_resolveWithin_of_eq_none {level : ℕ} {object : Object}
    (ends : definitionAt? document level object = none) :
    ∃ result, ∀ maxDepth more, level ≤ more →
      resolveWithin document maxDepth more object = .ok result := by
  induction level generalizing object with
  | zero => cases ends
  | succ level ih =>
    rw [definitionAt?] at ends
    cases continues : (frame document object).next with
    | none =>
      refine ⟨(frame document object).build none, fun maxDepth more enough => ?_⟩
      obtain ⟨left, rfl⟩ := Nat.exists_eq_add_of_le' ((Nat.le_add_left 1 level).trans enough)
      rw [resolveWithin_succ, Frame.run, continues]
    | some next =>
      rw [continues] at ends
      obtain ⟨inner, resolved⟩ := ih ends
      refine ⟨(frame document object).build inner, fun maxDepth more enough => ?_⟩
      obtain ⟨left, rfl⟩ := Nat.exists_eq_add_of_le' ((Nat.le_add_left 1 level).trans enough)
      rw [resolveWithin_succ, Frame.run, continues]
      simp only
      rw [resolved maxDepth left (Nat.le_of_succ_le_succ enough)]
      rfl

/-- A chain of definitions that has ended does not go on. -/
theorem definitionAt?_eq_none_of_le {level more : ℕ} {object : Object} (h : level ≤ more)
    (ends : definitionAt? document level object = none) :
    definitionAt? document more object = none := by
  induction level generalizing object more with
  | zero => cases ends
  | succ level ih =>
    obtain ⟨more, rfl⟩ := Nat.exists_eq_add_of_le' ((Nat.le_add_left 1 level).trans h)
    rw [definitionAt?] at ends ⊢
    cases continues : (frame document object).next with
    | none => rfl
    | some next =>
      rw [continues] at ends
      exact ih (Nat.le_of_succ_le_succ h) ends

/-- A space that results holds at most as many levels of spaces as were left after the first one, or
one more, below the last definition. -/
theorem nesting_of_resolveWithin {maxDepth level : ℕ} {object : Object} {space : ColorSpace}
    (resolved : resolveWithin document maxDepth (level + 1) object = .ok (some space)) :
    space.nesting ≤ level ∨
      space.nesting = level + 1 ∧ ∃ definition part,
        definitionAt? document level object = some definition ∧
        space.partAt? level = some part ∧ BareProfile document definition part := by
  -- On the levels that are left; a space that is built holds that of the next definition.
  induction level generalizing object space with
  | zero =>
    have layers := frame_layers document object
    rw [resolveWithin_succ, Frame.run] at resolved
    cases continues : (frame document object).next with
    | none =>
      rw [continues] at resolved
      rcases layers.last continues (Except.ok.inj resolved) with flat | missing
      · exact .inl (nesting_eq_zero flat).le
      · obtain ⟨items, stream, -, -, -, -, rfl⟩ := id missing
        refine .inr ⟨?_, object, _, rfl, rfl, missing⟩
        rw [nesting, nesting_eq_zero (inner?_ofComponentCount _)]
    | some next =>
      rw [continues] at resolved
      cases resolved
  | succ level ih =>
    have layers := frame_layers document object
    rw [resolveWithin_succ, Frame.run] at resolved
    have shallow (built : (frame document object).build none = some space) :
        space.nesting ≤ level + 1 := (layers.shallow built).trans (Nat.le_add_left 1 level)
    cases continues : (frame document object).next with
    | none =>
      rw [continues] at resolved
      exact .inl (shallow (Except.ok.inj resolved))
    | some next =>
      rw [continues] at resolved
      obtain ⟨result, nested, built⟩ := map_eq_ok.1 resolved
      cases result with
      | none => exact .inl (shallow built)
      | some inner =>
        have within := layers.wraps continues built
        rw [nesting_of_inner? within, definitionAt?, partAt?, continues, within]
        rcases ih nested with few | ⟨most, below⟩
        · exact .inl (Nat.succ_le_succ few)
        · exact .inr ⟨congrArg Nat.succ most, below⟩

variable (document)

/-- **The limit on the depth of definitions has one threshold.** Resolving an object returns for
each limit. From the length of the chain of its definitions on the result is always the same, and
below it the limit is exceeded; if the chain is endless, every limit is exceeded. A space that
results holds at most as many levels of spaces as the limit allows, or one more, which is then the
device space in place of the alternate space that a profile does not name. -/
theorem resolve_threshold (object : Object) :
    (∀ maxDepth result,
      Returns (resolveStep document maxDepth) (·.depth ≤ maxDepth + 1) ⟨0, object⟩ result ↔
        result = resolve document maxDepth object) ∧
    ((∃ depth result, (∀ level, (definitionAt? document level object).isSome ↔ level ≤ depth) ∧
        ∀ maxDepth, resolve document maxDepth object =
          if depth ≤ maxDepth then .ok result
          else .error (.limitExceeded .colorDepth maxDepth (maxDepth + 1))) ∨
      ((∀ level, (definitionAt? document level object).isSome) ∧
        ∀ maxDepth, resolve document maxDepth object
          = .error (.limitExceeded .colorDepth maxDepth (maxDepth + 1)))) ∧
    ∀ maxDepth space, resolve document maxDepth object = .ok (some space) →
      space.nesting ≤ maxDepth ∨
        space.nesting = maxDepth + 1 ∧ ∃ definition part,
          definitionAt? document maxDepth object = some definition ∧
          space.partAt? maxDepth = some part ∧ BareProfile document definition part := by
  classical
  refine ⟨fun maxDepth => returns_resolve maxDepth object, ?_, fun _ _ => nesting_of_resolveWithin⟩
  by_cases endless : ∀ level, (definitionAt? document level object).isSome
  · exact .inr ⟨endless, fun maxDepth => resolveWithin_of_isSome maxDepth (endless (maxDepth + 1))⟩
  · have ends : ∃ level, definitionAt? document (level + 1) object = none := by
      obtain ⟨level, ended⟩ := not_forall.1 endless
      have ended : definitionAt? document level object = none := by simpa using ended
      exact ⟨level, definitionAt?_eq_none_of_le (Nat.le_succ level) ended⟩
    obtain ⟨result, resolved⟩ := exists_resolveWithin_of_eq_none (Nat.find_spec ends)
    have chain (level : ℕ) :
        (definitionAt? document level object).isSome ↔ level ≤ Nat.find ends := by
      constructor
      · intro goes
        by_contra beyond
        rw [definitionAt?_eq_none_of_le (Nat.not_le.1 beyond) (Nat.find_spec ends)] at goes
        cases goes
      · intro before
        cases level with
        | zero => rfl
        | succ level => exact Option.ne_none_iff_isSome.1 (Nat.find_min ends before)
    refine .inl ⟨Nat.find ends, result, chain, fun maxDepth => ?_⟩
    split
    · next enough => exact resolved maxDepth _ (Nat.succ_le_succ enough)
    · next below =>
      exact resolveWithin_of_isSome maxDepth ((chain _).2 (Nat.not_le.1 below))

end

attribute [local instance] StreamDecoder.withoutFilters

/-- A document that holds a profile with four components and no alternate space. -/
def profileDocument : Document :=
  .ofList [(⟨1, 0⟩, .stream [(Bytes.ofLatin "N", .integer 4)] [])] []

/-- A colorant over the profile. -/
def colorantOverProfile : Object :=
  .array [.ofName "Separation", .ofName "Spot", .array [.ofName "ICCBased", .reference ⟨1, 0⟩]]

/-- The chain has two definitions, and the space has one level more than the second one. -/
theorem resolve_threshold_profile :
    resolve (some profileDocument) 1 colorantOverProfile
      = .ok (some (separation "Spot" (iccBased 4 deviceCmyk))) ∧
    resolve (some profileDocument) 0 colorantOverProfile
      = .error (.limitExceeded .colorDepth 0 1) ∧
    ∃ definition part,
      definitionAt? (some profileDocument) 1 colorantOverProfile = some definition ∧
      (separation "Spot" (iccBased 4 deviceCmyk)).partAt? 1 = some part ∧
      BareProfile (some profileDocument) definition part := by
  have resolved : resolve (some profileDocument) 1 colorantOverProfile
      = .ok (some (separation "Spot" (iccBased 4 deviceCmyk))) := by
    decide +kernel
  obtain ⟨-, threshold, nested⟩ := resolve_threshold (some profileDocument) colorantOverProfile
  refine ⟨resolved, ?_, ?_⟩
  · rcases threshold with ⟨depth, result, chain, limits⟩ | ⟨-, exceeded⟩
    · have deep : ¬depth ≤ 0 := fun flat =>
        Nat.not_succ_le_zero 0 (((chain 1).1 (by decide +kernel)).trans flat)
      exact (limits 0).trans (if_neg deep)
    · exact exceeded 0
  · rcases nested 1 _ resolved with few | ⟨-, below⟩
    · exact absurd few (by decide)
    · exact below

end Preflight.ColorSpace

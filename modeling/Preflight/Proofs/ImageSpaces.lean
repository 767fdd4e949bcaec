import Mathlib
import Preflight.Check.Subject
import Preflight.Proofs.DefinitionChains
import Preflight.Proofs.PaintedSpaces
import Preflight.Proofs.Utf8

/-!
# Images in RGB

An image can name its color space or give an array, in place or behind a reference. Device RGB has
four spellings, calibrated RGB has one, and no other object defines one of them. Of these spellings,
the full name of device RGB and the array of calibrated RGB are not allowed at the strict level; the
short name and the arrays of device RGB pass.
-/

namespace Preflight

/-- Only the name with the bytes of a text of ASCII characters reads as it. -/
theorem Object.eq_ofName {object : Object} {text : String} (named : object.name? = some text)
    (ascii : text.toList.all (·.toNat < 0x80) = true) : object = .ofName text := by
  have ascii : ∀ c ∈ text.toList, c.toNat < 0x80 := by simpa using ascii
  cases object with
  | name bytes =>
    rw [Utf8.eq_encode_of_decode (Option.some.inj named) ascii, Utf8.encode_of_ascii ascii, ofName]
  | _ => cases named

/-- The name of a text of ASCII characters reads as it. -/
theorem Object.name?_ofName {text : String} (ascii : text.toList.all (·.toNat < 0x80) = true) :
    (Object.ofName text).name? = some text := by
  have ascii : ∀ c ∈ text.toList, c.toNat < 0x80 := by simpa using ascii
  rw [ofName, name?, ← Utf8.encode_of_ascii ascii, Utf8.decode_encode]

namespace ColorSpace

/-- The spellings of device RGB and of calibrated RGB. -/
inductive SpellsRgb : Object → ColorSpace → Prop where
  | name : SpellsRgb (.ofName "DeviceRGB") deviceRgb
  | shortName : SpellsRgb (.ofName "RGB") deviceRgb
  | array (items : List Object) : SpellsRgb (.array (.ofName "DeviceRGB" :: items)) deviceRgb
  | shortArray (items : List Object) : SpellsRgb (.array (.ofName "RGB" :: items)) deviceRgb
  | calibrated (items : List Object) : SpellsRgb (.array (.ofName "CalRGB" :: items)) calRgb

/-- The name of a family that is RGB is one of the two names of device RGB. -/
theorem eq_deviceRgb_of_ofFamilyName? {name : String} {space : ColorSpace}
    (family : ofFamilyName? name = some space) (rgb : space = deviceRgb ∨ space = calRgb) :
    space = deviceRgb ∧ (name = "DeviceRGB" ∨ name = "RGB") := by
  unfold ofFamilyName? ofDeviceName? at family
  split_ifs at family with gray short <;> cases family
  all_goals first
    | exact ⟨rfl, .inr ‹_›⟩
    | exact ⟨rfl, .inl ‹_›⟩
    | rcases rgb with rgb | rgb <;> cases rgb

/-- An object that reads as the name of a family that is RGB is one of the two names of device RGB.
-/
theorem eq_ofName_of_ofFamilyName? {object : Object} {name : String} {space : ColorSpace}
    (named : object.name? = some name) (family : ofFamilyName? name = some space)
    (rgb : space = deviceRgb ∨ space = calRgb) :
    space = deviceRgb ∧ (object = .ofName "DeviceRGB" ∨ object = .ofName "RGB") := by
  obtain ⟨device, rfl | rfl⟩ := eq_deviceRgb_of_ofFamilyName? family rgb
  · exact ⟨device, .inl (Object.eq_ofName named (by decide +kernel))⟩
  · exact ⟨device, .inr (Object.eq_ofName named (by decide +kernel))⟩

/-- What a frame runs to is built. -/
theorem exists_build_of_run {frame : Frame}
    {nested : Object → Except StreamFailure (Option ColorSpace)} {result : Option ColorSpace}
    (h : frame.run nested = .ok result) : ∃ inner, frame.build inner = result := by
  unfold Frame.run at h
  split at h
  · obtain ⟨inner, -, built⟩ := map_eq_ok.1 h
    exact ⟨inner, built⟩
  · exact ⟨none, Except.ok.inj h⟩

/-- A frame builds no space of RGB by itself. -/
def Frame.AvoidsRgb (frame : Frame) : Prop :=
  ∀ inner space, frame.build inner = some space → ¬(space = deviceRgb ∨ space = calRgb)

variable {document : Option Document} {items : List Object} {space : ColorSpace}

theorem profileFrame_avoidsRgb (stream : Option Stream) :
    (profileFrame document stream).AvoidsRgb := by
  intro inner space built
  cases stream with
  | none => cases built
  | some stream =>
    cases built
    exact nofun

theorem paletteFrame_avoidsRgb (last : Option Int) (palette : Option Bytes) :
    (paletteFrame items last palette).AvoidsRgb := by
  intro inner space built
  obtain ⟨base, -, built⟩ := Option.bind_eq_some_iff.1 built
  cases last <;> cases palette <;> cases built
  exact nofun

theorem colorantFrame_avoidsRgb {add : Option (ColorSpace → ColorSpace)}
    (h : ∀ layer, add = some layer → ∀ base, ¬(layer base = deviceRgb ∨ layer base = calRgb)) :
    (colorantFrame items add).AvoidsRgb := by
  intro inner space built
  cases add with
  | none => cases built
  | some layer =>
    obtain ⟨base, -, rfl⟩ := Option.map_eq_some_iff.1 built
    exact h layer rfl base

theorem patternFrame_avoidsRgb : (patternFrame items).AvoidsRgb := by
  intro inner space built
  cases inner <;> cases built <;> exact nofun

/-- An array builds a space of RGB only if it begins with one of three names. -/
theorem spellsRgb_of_arrayFrame [StreamDecoder] {inner : Option ColorSpace}
    (built : (arrayFrame document items).build inner = some space)
    (rgb : space = deviceRgb ∨ space = calRgb) : SpellsRgb (.array items) space := by
  have begins {name : String} (family : items.head?.bind Object.name? = some name) :
      ∃ first rest, items = first :: rest ∧ first.name? = some name := by
    obtain ⟨first, head, named⟩ := Option.bind_eq_some_iff.1 family
    obtain ⟨rest, rfl⟩ := List.head?_eq_some_iff.1 head
    exact ⟨first, rest, rfl, named⟩
  unfold arrayFrame at built
  simp only at built
  split at built
  · cases built
  · cases built
    exact absurd rgb nofun
  · next family =>
    obtain ⟨first, rest, rfl, named⟩ := begins family
    cases built
    rw [Object.eq_ofName named rfl]
    exact .calibrated rest
  · cases built
    exact absurd rgb nofun
  · exact absurd rgb (profileFrame_avoidsRgb _ _ _ built)
  · exact absurd rgb (paletteFrame_avoidsRgb _ _ _ _ built)
  · exact absurd rgb (paletteFrame_avoidsRgb _ _ _ _ built)
  · refine absurd rgb (colorantFrame_avoidsRgb (fun layer made base => ?_) _ _ built)
    obtain ⟨name, -, rfl⟩ := Option.map_eq_some_iff.1 made
    exact nofun
  · refine absurd rgb (colorantFrame_avoidsRgb (fun layer made base => ?_) _ _ built)
    obtain ⟨names, -, rfl⟩ := Option.map_eq_some_iff.1 made
    exact nofun
  · exact absurd rgb (patternFrame_avoidsRgb _ _ built)
  · next family =>
    obtain ⟨first, rest, rfl, named⟩ := begins family
    obtain ⟨rfl, rfl | rfl⟩ := eq_ofName_of_ofFamilyName? named built rgb
    · exact .array rest
    · exact .shortArray rest

/-- An object defines a space of RGB exactly if what it leads to spells that space. -/
theorem resolve_eq_rgb_iff [StreamDecoder] {maxDepth : ℕ} {object : Object} :
    resolve document maxDepth object = .ok (some space) ∧ (space = deviceRgb ∨ space = calRgb) ↔
      SpellsRgb (object.resolve document) space := by
  rw [resolve, resolveWithin_succ, frame]
  generalize object.resolve document = target
  constructor
  · rintro ⟨resolved, rgb⟩
    obtain ⟨inner, built⟩ := exists_build_of_run resolved
    cases target with
    | name bytes =>
      have read : (Object.name bytes).name? = some (Utf8.decode bytes) := rfl
      obtain ⟨rfl, long | short⟩ := eq_ofName_of_ofFamilyName? read built rgb
      · rw [long]
        exact .name
      · rw [short]
        exact .shortName
    | array items => exact spellsRgb_of_arrayFrame built rgb
    | _ => cases built
  · intro spelled
    have named (text : String) (ascii : text.toList.all (·.toNat < 0x80) = true) :
        Utf8.decode (Bytes.ofLatin text) = text := Option.some.inj (Object.name?_ofName ascii)
    have begins (text : String) (ascii : text.toList.all (·.toNat < 0x80) = true)
        (items : List Object) :
        (Object.ofName text :: items).head?.bind Object.name? = some text :=
      Object.name?_ofName ascii
    cases spelled with
    | name =>
      simp only [Object.ofName, named "DeviceRGB" rfl]
      exact ⟨rfl, .inl trivial⟩
    | shortName =>
      simp only [Object.ofName, named "RGB" rfl]
      exact ⟨rfl, .inl trivial⟩
    | array items =>
      simp only [arrayFrame, begins "DeviceRGB" rfl items]
      exact ⟨rfl, .inl trivial⟩
    | shortArray items =>
      simp only [arrayFrame, begins "RGB" rfl items]
      exact ⟨rfl, .inl trivial⟩
    | calibrated items =>
      simp only [arrayFrame, begins "CalRGB" rfl items]
      exact ⟨rfl, .inr trivial⟩

end ColorSpace

namespace Settings

variable [StreamDecoder] {settings : Settings} {document : Option Document} {image : Dictionary}

/-- A name is allowed as the space of an image if it is not the full name of device RGB. -/
theorem checkImageSpace_ofName (text : String) :
    settings.checkImageSpace document (.ofName text) =
      if Bytes.ofLatin text = Bytes.ofLatin "DeviceRGB" then .error (.violation .image .rgb)
      else .ok () := rfl

/-- An array is allowed as the space of an image if it does not define calibrated RGB. -/
theorem checkImageSpace_array {items : List Object} {space : ColorSpace}
    (spelled : ColorSpace.SpellsRgb (.array items) space) :
    settings.checkImageSpace document (.array items) =
      if space = .calRgb then .error (.violation .image .calRgb) else .ok () := by
  have resolved : ColorSpace.resolve document settings.maxColorDepth (.array items)
      = .ok (some space) ∧ (space = .deviceRgb ∨ space = .calRgb) :=
    ColorSpace.resolve_eq_rgb_iff.2 spelled
  rw [checkImageSpace, resolved.1]
  rcases resolved.2 with rfl | rfl <;> rfl

/-- **Images in RGB are judged by how the space is spelled.** At the strict level, an image without
a soft mask whose space resolves to device RGB, to any depth, is a violation exactly if the space is
the full name, and passes exactly if it is the short name or an array. One whose space resolves to
calibrated RGB is always a violation. Where the space is stored does not matter. -/
theorem check_rgbImage (strict : settings.level.isStrict = true)
    (unmasked : image.has "SMask" = false) {entry : Object}
    (entered : image.entry? "ColorSpace" = some entry) {maxDepth : ℕ} {space : ColorSpace}
    (resolved : ColorSpace.resolve document maxDepth entry = .ok (some space))
    (rgb : space = .deviceRgb ∨ space = .calRgb) :
    (settings.check (.image document image) = .error (.violation .image .rgb) ↔
      entry.resolve document = .ofName "DeviceRGB") ∧
    (settings.check (.image document image) = .error (.violation .image .calRgb) ↔
      space = .calRgb) ∧
    (settings.check (.image document image) = .ok () ↔
      entry.resolve document = .ofName "RGB" ∨
        ∃ items, entry.resolve document = .array (.ofName "DeviceRGB" :: items) ∨
          entry.resolve document = .array (.ofName "RGB" :: items)) := by
  have spelled := ColorSpace.resolve_eq_rgb_iff.1 ⟨resolved, rgb⟩
  have checked : settings.check (.image document image)
      = settings.checkImageSpace document (entry.resolve document) := by
    unfold check checkImage Dictionary.resolved?
    simp only [isRequired_of_isStrict strict, unmasked, strict, entered]
    rfl
  rw [checked]
  generalize entry.resolve document = target at spelled
  have distinct {text other : String} (h : Bytes.ofLatin text ≠ Bytes.ofLatin other) :
      Object.ofName text ≠ .ofName other := fun same => h (Object.name.inj same)
  cases spelled with
  | name =>
    rw [checkImageSpace_ofName, if_pos rfl]
    refine ⟨iff_of_true rfl rfl, iff_of_false nofun nofun, iff_of_false nofun ?_⟩
    rintro (short | ⟨items, array | array⟩)
    · exact distinct (by decide +kernel) short
    · cases array
    · cases array
  | shortName =>
    rw [checkImageSpace_ofName, if_neg (by decide +kernel)]
    exact ⟨iff_of_false nofun (distinct (by decide +kernel)), iff_of_false nofun nofun,
      iff_of_true rfl (.inl rfl)⟩
  | array items =>
    rw [checkImageSpace_array (.array items)]
    exact ⟨iff_of_false nofun nofun, iff_of_false nofun nofun,
      iff_of_true rfl (.inr ⟨items, .inl rfl⟩)⟩
  | shortArray items =>
    rw [checkImageSpace_array (.shortArray items)]
    exact ⟨iff_of_false nofun nofun, iff_of_false nofun nofun,
      iff_of_true rfl (.inr ⟨items, .inr rfl⟩)⟩
  | calibrated items =>
    rw [checkImageSpace_array (.calibrated items)]
    refine ⟨iff_of_false nofun nofun, iff_of_true rfl rfl, iff_of_false nofun ?_⟩
    rintro (name | ⟨rest, same | same⟩)
    · cases name
    · exact distinct (by decide +kernel) (List.cons.inj (Object.array.inj same)).1
    · exact distinct (by decide +kernel) (List.cons.inj (Object.array.inj same)).1

end Settings

/-! ## An array behind a reference -/

attribute [local instance] StreamDecoder.withoutFilters

/-- A document that holds device RGB as an array. -/
def rgbDocument : Document := .ofList [(⟨1, 0⟩, .array [.ofName "DeviceRGB"])] []

/-- The dictionary of an image with a color space. -/
def imageIn (space : Object) : Dictionary := [(Bytes.ofLatin "ColorSpace", space)]

theorem check_rgbImage_array :
    (imageIn (.reference ⟨1, 0⟩)).has "SMask" = false ∧
    ColorSpace.resolve (some rgbDocument) 0 (.reference ⟨1, 0⟩) = .ok (some .deviceRgb) ∧
    (Settings.ofLevel .x1a).check (.image (some rgbDocument) (imageIn (.reference ⟨1, 0⟩)))
      = .ok () := by
  have unmasked : (imageIn (.reference ⟨1, 0⟩)).has "SMask" = false := by decide +kernel
  have entered : Dictionary.entry? (imageIn (.reference ⟨1, 0⟩)) "ColorSpace"
      = some (.reference ⟨1, 0⟩) := rfl
  have resolved : ColorSpace.resolve (some rgbDocument) 0 (.reference ⟨1, 0⟩)
      = .ok (some .deviceRgb) := by decide +kernel
  obtain ⟨-, -, passes⟩ := Settings.check_rgbImage
    (show (Settings.ofLevel .x1a).level.isStrict = true from rfl) unmasked entered resolved
    (.inl rfl)
  exact ⟨unmasked, resolved, passes.2 (.inr ⟨[], .inl rfl⟩)⟩

/-- Images in device RGB, by its short name and as an array, pass at the strict level. -/
theorem check_rgbImage_ne :
    ColorSpace.resolve none 16 (.ofName "RGB") = .ok (some .deviceRgb) ∧
    (Settings.ofLevel .x1a).check (.image none (imageIn (.ofName "RGB"))) = .ok () ∧
    ColorSpace.resolve none 16 (.array [.ofName "DeviceRGB"]) = .ok (some .deviceRgb) ∧
    (Settings.ofLevel .x1a).check (.image none (imageIn (.array [.ofName "DeviceRGB"]))) = .ok () :=
  ⟨by decide +kernel, by decide +kernel, by decide +kernel, by decide +kernel⟩

end Preflight

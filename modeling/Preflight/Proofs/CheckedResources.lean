import Mathlib
import Preflight.Proofs.Walk

/-!
# Resources of a document that passes

A walk over the pages passes every external object at most once, whichever resources list it. Still,
if a document passes, then all resources that a page uses conform, also where forms use one another
in a circle or are shared between pages: an object that was met before was judged in the same walk.
-/

namespace Preflight

namespace Settings

variable [StreamDecoder] {settings : Settings} {document : Document}

/-- Everything that resources hold conforms to the level. -/
structure ResourcesConform (settings : Settings) (document : Document) (resources : Dictionary) :
    Prop where
  /-- The fonts pass. -/
  fonts : ∀ object ∈ document.resourcesOf resources "Font", ∀ font,
    object.anyDictionary? = some font →
    settings.check (.font (Font.ofDictionary (some document) font)) = .ok ()
  /-- The graphics states pass. -/
  states : ∀ object ∈ document.resourcesOf resources "ExtGState", ∀ state,
    object.anyDictionary? = some state →
    settings.check (.graphicsState (some document) state) = .ok ()
  /-- The shadings whose color space can be found pass. -/
  shadings : ∀ object ∈ document.resourcesOf resources "Shading", ∀ shading definition space,
    object.anyDictionary? = some shading →
    shading.resolved? (some document) "ColorSpace" = some definition →
    ColorSpace.resolve (some document) settings.maxColorDepth definition = .ok (some space) →
    settings.check (.color (.shading space)) = .ok ()
  /-- The images pass. -/
  images : ∀ entry ∈ document.externalObjects resources, ∀ image,
    (entry.resolve (some document)).stream? = some image →
    document.subtype? image = some "Image" →
    settings.check (.image (some document) image.dictionary) = .ok ()
  /-- The forms with resources of their own have content that passes with them. -/
  forms : ∀ entry ∈ document.externalObjects resources, ∀ form own,
    (entry.resolve (some document)).stream? = some form →
    document.subtype? form = some "Form" → document.ownResources? form = some own →
    ∃ content, form.content = .ok content ∧
      settings.checkContent (some document) content own = .ok ()

/-! ## Fonts, graphics states and shadings -/

theorem checkShadingResource_ok {object : Object} {shading : Dictionary} {definition : Object}
    {space : ColorSpace} (found : object.anyDictionary? = some shading)
    (defined : shading.resolved? (some document) "ColorSpace" = some definition)
    (resolved : ColorSpace.resolve (some document) settings.maxColorDepth definition
      = .ok (some space))
    (h : settings.checkShadingResource document object = .ok ()) :
    settings.check (.color (.shading space)) = .ok () := by
  unfold checkShadingResource at h
  rw [found, Option.bind_some, defined] at h
  simp only at h
  rw [resolved] at h
  exact h

/-- What is required of fonts, graphics states and shadings. -/
theorem checkOwnResources_ok {resources : Dictionary}
    (h : settings.checkOwnResources document resources = .ok ()) :
    (∀ object ∈ document.resourcesOf resources "Font",
      settings.checkFontResource document object = .ok ()) ∧
    (∀ object ∈ document.resourcesOf resources "ExtGState",
      settings.checkStateResource document object = .ok ()) ∧
    ∀ object ∈ document.resourcesOf resources "Shading",
      settings.checkShadingResource document object = .ok () := by
  obtain ⟨_, fonts, h⟩ := bind_eq_ok.1 h
  obtain ⟨_, states, shadings⟩ := bind_eq_ok.1 h
  exact ⟨forM_eq_ok.1 fonts, forM_eq_ok.1 states, forM_eq_ok.1 shadings⟩

/-! ## Pages -/

theorem checkPage_eq (page : ObjectId) (before : List ObjectId) :
    settings.checkPage document page before =
      ((document.pageDictionary page).mapError StreamFailure.document >>= fun dictionary =>
        (document.pageResources page).mapError StreamFailure.document >>= fun resources =>
          document.pageContent dictionary >>= fun content =>
            settings.checkContentTree document (settings.maxRecursionDepth + 1) content resources
              before) := by
  unfold checkPage
  rw [walk_lift_bind]
  congr 1
  funext dictionary
  rw [walk_lift_bind]
  congr 1
  funext resources
  exact walk_lift_bind ..

/-- A page passes if it can be read and the walk from its content succeeds. -/
theorem checkPage_eq_ok {page : ObjectId} {before after : List ObjectId} :
    settings.checkPage document page before = .ok ((), after) ↔
      ∃ dictionary resources content, document.pageDictionary page = .ok dictionary ∧
        document.pageResources page = .ok resources ∧
        document.pageContent dictionary = .ok content ∧
        settings.checkContentTree document (settings.maxRecursionDepth + 1) content resources before
          = .ok ((), after) := by
  simp only [checkPage_eq, bind_eq_ok, mapError_eq_ok]
  constructor
  · rintro ⟨dictionary, read, resources, found, content, content_ok, walk⟩
    exact ⟨dictionary, resources, content, read, found, content_ok, walk⟩
  · rintro ⟨dictionary, resources, content, read, found, content_ok, walk⟩
    exact ⟨dictionary, read, resources, found, content, content_ok, walk⟩

/-- The resources that some of the pages use. -/
def UsedBy (document : Document) (pages : List ObjectId) (resources : Dictionary) : Prop :=
  ∃ page ∈ pages, document.UsesResources page resources

omit [StreamDecoder] in
theorem usedBy_closed {pages : List ObjectId} {user own : Dictionary} {form : Stream}
    (used : UsedBy document pages user) (listed : document.ListsForm user form)
    (own_found : document.ownResources? form = some own) : UsedBy document pages own := by
  obtain ⟨page, member, uses⟩ := used
  exact ⟨page, member, uses.form listed own_found⟩

/-- What a page that passes meets is accounted for. -/
theorem checkPage_grows {pages : List ObjectId} {page : ObjectId} {before after : List ObjectId}
    (member : page ∈ pages) (h : settings.checkPage document page before = .ok ((), after)) :
    settings.Grows document (UsedBy document pages) before after := by
  obtain ⟨_, resources, content, -, found, -, walk⟩ := checkPage_eq_ok.1 h
  have used : UsedBy document pages resources := ⟨page, member, .page found⟩
  exact checkContentTree_ok usedBy_closed used le_rfl walk

/-- Pages that pass, one after the other, were all walked. -/
theorem checkPages_ok {all pages : List ObjectId} {before after : List ObjectId}
    (among : pages ⊆ all)
    (h : pages.forM (settings.checkPage document) before = .ok ((), after)) :
    settings.Grows document (UsedBy document all) before after ∧
      ∀ page ∈ pages, ∃ resources content, document.pageResources page = .ok resources ∧
        settings.Walked document after content resources := by
  induction pages generalizing before with
  | nil =>
    cases h
    exact ⟨.refl _, fun page member => absurd member List.not_mem_nil⟩
  | cons page pages ih =>
    obtain ⟨_, middle, first, following⟩ := walk_bind_eq_ok.1 h
    have growing := checkPage_grows (among List.mem_cons_self) first
    obtain ⟨growing_more, walked⟩ := ih (List.subset_of_cons_subset among) following
    refine ⟨growing.trans growing_more, List.forall_mem_cons.2 ⟨?_, walked⟩⟩
    obtain ⟨_, resources, content, -, found, -, walk⟩ := checkPage_eq_ok.1 first
    exact ⟨resources, content, found, _, before, middle, le_rfl, walk, growing_more.subset⟩

/-! ## Documents -/

/-- All external objects that the references in `seen` lead to were judged. -/
def Covered (settings : Settings) (document : Document) (users : Dictionary → Prop)
    (seen : List ObjectId) : Prop :=
  ∀ id ∈ seen, settings.Accounted document users seen id

/-- Where all references that were met are covered, an entry that was met was judged for some user.
-/
theorem Met.judged {users : Dictionary → Prop} {seen : List ObjectId} {user : Dictionary}
    {entry : Object} (covered : settings.Covered document users seen)
    (h : settings.Met document seen user entry) :
    ∃ other, settings.Judged document seen other (entry.resolve (some document)) := by
  unfold Met at h
  split at h
  · next id reference =>
    obtain ⟨other, -, -, judged⟩ := covered id h
    rw [eq_reference reference]
    exact ⟨other, judged⟩
  · exact ⟨user, h⟩

omit [StreamDecoder] in
/-- The own resources of a form are those with which it is judged for any user. -/
theorem formResources_of_own {user own : Dictionary} {form : Stream}
    (h : document.ownResources? form = some own) : formResources document user form = own := by
  unfold formResources
  unfold Document.ownResources? at h
  rw [h, Option.getD_some]

omit [StreamDecoder] in
/-- A form without resources of its own is judged with those of the user. -/
theorem formResources_of_none {user : Dictionary} {form : Stream}
    (h : document.ownResources? form = none) : formResources document user form = user := by
  unfold formResources
  unfold Document.ownResources? at h
  rw [h, Option.getD_none]

/-- All resources that a page uses were walked. -/
theorem walked_of_usesResources {pages : List ObjectId} {seen : List ObjectId}
    (covered : settings.Covered document (UsedBy document pages) seen)
    (walked : ∀ page ∈ pages, ∃ resources content, document.pageResources page = .ok resources ∧
      settings.Walked document seen content resources)
    {page : ObjectId} (member : page ∈ pages) {resources : Dictionary}
    (h : document.UsesResources page resources) :
    ∃ content, settings.Walked document seen content resources := by
  -- On how the page reaches the resources: a form that its user lists was met by the walk of the user.
  induction h with
  | page found =>
    obtain ⟨resources, content, same, walk⟩ := walked page member
    cases found.symm.trans same
    exact ⟨content, walk⟩
  | form used listed own_found ih =>
    obtain ⟨content, walk⟩ := ih
    obtain ⟨subtype, entry, entry_listed, found⟩ := listed
    obtain ⟨-, -, met⟩ := walk.passes
    obtain ⟨user, judged⟩ := (met entry entry_listed).judged covered
    obtain ⟨form_content, -, form_walk⟩ := (judged _ found).2 subtype
    rw [formResources_of_own own_found] at form_walk
    exact ⟨form_content, form_walk⟩

/-- Resources that were walked conform. -/
theorem Walked.resourcesConform {users : Dictionary → Prop} {seen : List ObjectId}
    {content : Bytes} {resources : Dictionary} (covered : settings.Covered document users seen)
    (h : settings.Walked document seen content resources) :
    settings.ResourcesConform document resources := by
  obtain ⟨-, own, met⟩ := h.passes
  obtain ⟨fonts, states, shadings⟩ := checkOwnResources_ok own
  refine ⟨fun object member font found => ?_, fun object member state found => ?_,
    fun object member shading definition space found defined resolved =>
      checkShadingResource_ok found defined resolved (shadings object member),
    fun entry listed image found subtype => ?_, fun entry listed form own found subtype own_found => ?_⟩
  · have passes := fonts object member
    unfold checkFontResource at passes
    rw [found] at passes
    exact passes
  · have passes := states object member
    unfold checkStateResource at passes
    rw [found] at passes
    exact passes
  · obtain ⟨user, judged⟩ := (met entry listed).judged covered
    exact (judged image found).1 subtype
  · obtain ⟨user, judged⟩ := (met entry listed).judged covered
    obtain ⟨form_content, content_ok, walk⟩ := (judged form found).2 subtype
    rw [formResources_of_own own_found] at walk
    exact ⟨form_content, content_ok, settings.checkContent_of_within walk.passes.content_ok⟩

theorem checkDocument_ok (required : settings.level.isRequired = true)
    (h : settings.checkDocument document = .ok ()) :
    ∃ seen, document.pages.forM (settings.checkPage document) [] = .ok ((), seen) := by
  unfold checkDocument at h
  rw [required] at h
  obtain ⟨_, -, h⟩ := bind_eq_ok.1 (mapError_eq_ok.1 h)
  obtain ⟨⟨_, seen⟩, walk, -⟩ := bind_eq_ok.1 h
  exact ⟨seen, walk⟩

/-- If a document passes, all resources that its pages use conform. -/
theorem resourcesConform_of_checkDocument (required : settings.level.isRequired = true)
    (h : settings.checkDocument document = .ok ()) :
    ∀ page ∈ document.pages, ∀ resources, document.UsesResources page resources →
      settings.ResourcesConform document resources := by
  intro page member resources used
  obtain ⟨seen, walk⟩ := checkDocument_ok required h
  obtain ⟨growing, walked⟩ := checkPages_ok (List.Subset.refl document.pages) walk
  have covered : settings.Covered document (UsedBy document document.pages) seen :=
    fun id met => (growing.accounted id met).resolve_left List.not_mem_nil
  obtain ⟨content, walk⟩ := walked_of_usesResources covered walked member used
  exact walk.resourcesConform covered

end Settings

/-! ## Two forms in a circle -/

attribute [local instance] StreamDecoder.withoutFilters

/-- A dictionary with keys in letters. -/
def keyed (entries : List (String × Object)) : Dictionary :=
  entries.map fun (key, value) => (Bytes.ofLatin key, value)

/-- Resources that list external objects by the numbers of their references. -/
def listing (objects : List (String × Nat)) : Object :=
  .dictionary (keyed [("XObject",
    .dictionary (keyed (objects.map fun (key, number) => (key, .reference ⟨number, 0⟩))))])

/-- A document with one page, which inherits resources with two forms. The forms list each other. -/
def formCircle : Document := .ofList [
    (⟨1, 0⟩, .dictionary (keyed [("Type", .ofName "Catalog"), ("Pages", .reference ⟨2, 0⟩)])),
    (⟨2, 0⟩, .dictionary (keyed [("Type", .ofName "Pages"),
      ("Kids", .array [.reference ⟨3, 0⟩]), ("Resources", listing [("A", 4), ("B", 5)])])),
    (⟨3, 0⟩, .dictionary (keyed [("Type", .ofName "Page"), ("Parent", .reference ⟨2, 0⟩)])),
    (⟨4, 0⟩, .stream (keyed [("Subtype", .ofName "Form"), ("Resources", listing [("B", 5)])])
      (Bytes.ofLatin "0 0 0 1 k /B Do")),
    (⟨5, 0⟩, .stream (keyed [("Subtype", .ofName "Form"), ("Resources", listing [("A", 4)])])
      (Bytes.ofLatin "0.5 G /A Do"))]
  (keyed [("Root", .reference ⟨1, 0⟩)])

theorem pages_formCircle : formCircle.pages = [⟨3, 0⟩] := by cbv

theorem checkDocument_formCircle : (Settings.ofLevel .x1a).checkDocument formCircle = .ok () := by
  unfold Settings.checkDocument
  rw [pages_formCircle]
  decide +kernel

/-- The page uses the own resources of its second form. -/
theorem usesResources_formCircle : formCircle.UsesResources ⟨3, 0⟩
    (keyed [("XObject", .dictionary (keyed [("A", .reference ⟨4, 0⟩)]))]) := by
  have page : formCircle.UsesResources ⟨3, 0⟩ (keyed [("XObject",
      .dictionary (keyed [("A", .reference ⟨4, 0⟩), ("B", .reference ⟨5, 0⟩)]))]) := .page rfl
  refine page.form ⟨?_, .reference ⟨5, 0⟩, ?_, rfl⟩ rfl
  · decide +kernel
  · exact List.mem_cons_of_mem _ List.mem_cons_self

theorem resourcesConform_formCircle :
    (Settings.ofLevel .x1a).checkDocument formCircle = .ok () ∧
      (Settings.ofLevel .x1a).ResourcesConform formCircle
        (keyed [("XObject", .dictionary (keyed [("A", .reference ⟨4, 0⟩)]))]) := by
  have member : ⟨3, 0⟩ ∈ formCircle.pages := by
    rw [pages_formCircle]
    exact List.mem_cons_self
  exact ⟨checkDocument_formCircle, Settings.resourcesConform_of_checkDocument rfl
    checkDocument_formCircle ⟨3, 0⟩ member _ usesResources_formCircle⟩

end Preflight

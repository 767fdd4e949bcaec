import Preflight.Check.Subject

/-!
# Rules for documents

A document is judged from its catalog, and then page by page: the content of the page, and all that
the resources of the page hold. A form among the resources is content of its own, judged with
resources of its own or else with those of its user, one level deeper. An external object that is
reached by a reference is judged only when it is first met, so forms that use one another in a
circle are judged once each.
-/

namespace Preflight

variable [StreamDecoder]

/-- A walk over external objects, which remembers the references that were met. -/
abbrev Walk := StateT (List ObjectId) (Except StreamFailure)

/-- Note a reference. The result tells whether it is met for the first time. -/
def Walk.visit (id : ObjectId) : Walk Bool := fun visited =>
  if id ∈ visited then .ok (false, visited) else .ok (true, id :: visited)

/-- The objects of one category of resources, behind their references. -/
def Document.resourcesOf (document : Document) (resources : Dictionary) (category : String) :
    List Object :=
  match resources.dictionary? (some document) category with
  | some entries => entries.map fun entry => entry.2.resolve (some document)
  | none => []

namespace Settings

variable (settings : Settings) (document : Document)

/-! ## Resources of a category -/

/-- Judge a font among the resources. -/
def checkFontResource (object : Object) : Except StreamFailure Unit :=
  match object.anyDictionary? with
  | some font => settings.check (.font (Font.ofDictionary (some document) font))
  | none => .ok ()

/-- Judge a graphics state among the resources. -/
def checkStateResource (object : Object) : Except StreamFailure Unit :=
  match object.anyDictionary? with
  | some state => settings.check (.graphicsState (some document) state)
  | none => .ok ()

/-- Judge a shading among the resources, by its color space if that can be found. -/
def checkShadingResource (object : Object) : Except StreamFailure Unit :=
  match object.anyDictionary?.bind (·.resolved? (some document) "ColorSpace") with
  | some definition => do
    match ← ColorSpace.resolve (some document) settings.maxColorDepth definition with
    | some space => settings.check (.color (.shading space))
    | none => return ()
  | none => .ok ()

/-- Judge the fonts, graphics states and shadings among the resources. -/
def checkOwnResources (resources : Dictionary) : Except StreamFailure Unit := do
  (document.resourcesOf resources "Font").forM (settings.checkFontResource document)
  (document.resourcesOf resources "ExtGState").forM (settings.checkStateResource document)
  (document.resourcesOf resources "Shading").forM (settings.checkShadingResource document)

/-! ## External objects -/

/-- The resources with which a form is judged: its own, or else those of its user. -/
def formResources (resources : Dictionary) (form : Stream) : Dictionary :=
  (form.dictionary.dictionary? (some document) "Resources").getD resources

/-- Judge an external object by its subtype; `deeper` judges the content of a form. -/
def checkExternalObject (deeper : Bytes → Dictionary → Walk Unit) (resources : Dictionary)
    (object : Object) : Walk Unit :=
  match object.stream? with
  | none => return ()
  | some stream =>
    match (stream.dictionary.resolved? (some document) "Subtype").bind Object.name? with
    | some "Image" => settings.check (.image (some document) stream.dictionary)
    | some "Form" => do
      deeper (← stream.content) (formResources document resources stream)
    | _ => return ()

/-- Judge an entry of the external objects, unless it is a reference that was met before. -/
def checkExternalEntry (deeper : Bytes → Dictionary → Walk Unit) (resources : Dictionary)
    (entry : Object) : Walk Unit := do
  let isNew ← match entry.reference? with
    | some id => Walk.visit id
    | none => pure true
  if isNew then
    settings.checkExternalObject document deeper resources (entry.resolve (some document))

/-- Judge all that the resources hold. -/
def checkResources (deeper : Bytes → Dictionary → Walk Unit) (resources : Dictionary) :
    Walk Unit := do
  settings.checkOwnResources document resources
  ((resources.dictionary? (some document) "XObject").getD []).forM fun entry =>
    settings.checkExternalEntry document deeper resources entry.2

/-- Judge a content stream and all that its resources hold, with `levels` of nesting left out of the
allowed ones and one. -/
def checkContentTree : (levels : Nat) → (content : Bytes) → (resources : Dictionary) → Walk Unit
  | 0, content, resources => settings.checkContentWithin (some document) 0 content resources
  | level + 1, content, resources => do
    settings.checkContentWithin (some document) (level + 1) content resources
    settings.checkResources document (checkContentTree level) resources

/-! ## Pages and documents -/

/-- Judge a page. -/
def checkPage (id : ObjectId) : Walk Unit := do
  let page ← (document.pageDictionary id).mapError StreamFailure.document
  let resources ← (document.pageResources id).mapError StreamFailure.document
  let content ← document.pageContent page
  settings.checkContentTree document (settings.maxRecursionDepth + 1) content resources

/-- Judge the catalog, which may not announce optional content. -/
def checkCatalog : Except StreamFailure Unit :=
  match document.catalog with
  | .error fault => .error (.document (.catalog fault))
  | .ok catalog => if catalog.has "OCProperties" then settings.check .layer else .ok ()

/-- Judge a document by the required level, in one walk over its pages. -/
def checkDocument : Except Failure Unit :=
  if !settings.level.isRequired then .ok ()
  else
    Except.mapError StreamFailure.toFailure do
      settings.checkCatalog document
      let _ ← (document.pages.forM (settings.checkPage document)).run []
      return ()

/-- Judge a document by the required level, with a walk of its own for each page. The first page
that fails decides. -/
def checkDocumentByPages : Except Failure Unit :=
  if !settings.level.isRequired then .ok ()
  else
    Except.mapError StreamFailure.toFailure do
      settings.checkCatalog document
      let results := document.pages.map fun id => (settings.checkPage document id).run' []
      results.forM id

end Settings

end Preflight

import Preflight.Failure
import Preflight.Filter

/-!
# Pages

The pages of a document are the leaves of a tree. A page has content, in one stream or several, and
attributes, some of which it may take from a group that it belongs to.
-/

namespace Preflight

variable [StreamDecoder]

namespace Stream

/-- The content of a stream, with its filters taken back if it names any. -/
def content (stream : Stream) : Except StreamFailure Bytes :=
  if stream.dictionary.has "Filter" then
    match StreamDecoder.decode stream with
    | .ok bytes => .ok bytes
    | .error fault => .error (.document (.filters fault))
  else .ok stream.data

end Stream

namespace Document

variable (document : Document)

/-! ## Attributes -/

/-- The dictionary of a page or of a group of pages. -/
def pageDictionary (id : ObjectId) : Except StructureFault Dictionary :=
  match document.fetch id >>= Object.expectDictionary with
  | .ok dictionary => .ok dictionary
  | .error fault => .error (.page fault)

/-- The attribute of a page or of the nearest group above it, of which at most `limit` are searched.
-/
def inheritedWithin (key : String) :
    (limit : Nat) → ObjectId → Except StructureFault (Option Object)
  | 0, _ => .error .parentChain
  | limit + 1, id => do
    let dictionary ← document.pageDictionary id
    match dictionary.entry? key with
    | some value => return some value
    | none =>
      match dictionary.entry? "Parent" with
      | none => return none
      | some parent =>
        match parent.expectReference with
        | .ok parentId => inheritedWithin key limit parentId
        | .error fault => .error (.parent fault)

/-- How many dictionaries are searched for an attribute. -/
def inheritanceLimit : Nat := 64

/-- The attribute of a page or of the nearest group above it. -/
def inherited (id : ObjectId) (key : String) : Except StructureFault (Option Object) :=
  document.inheritedWithin key inheritanceLimit id

/-- The resources of a page, its own or inherited; none are an empty dictionary. -/
def pageResources (id : ObjectId) : Except StructureFault Dictionary := do
  match ← document.inherited id "Resources" with
  | none => return []
  | some object =>
    match (object.resolve (some document)).dictionary? with
    | some resources => return resources
    | none => .error .resources

/-! ## Content -/

/-- The identifiers of the streams of a page's content. -/
def contentIds (page : Dictionary) : Except StructureFault (List ObjectId) :=
  match page.entry? "Contents" with
  | none => .ok []
  | some (.reference id) => .ok [id]
  | some (.array items) => items.mapM fun item =>
    match item.expectReference with
    | .ok id => .ok id
    | .error fault => .error (.contentsItem fault)
  | some _ => .error .contents

/-- Content followed by more of it, with a space between them unless there was none before. -/
def joinContent (before more : Bytes) : Bytes :=
  if before.isEmpty then more else before ++ 0x20 :: more

/-- The content of a page. -/
def pageContent (page : Dictionary) : Except StreamFailure Bytes := do
  match contentIds page with
  | .error fault => .error (.document fault)
  | .ok ids => ids.foldlM (fun content id =>
      match document.fetch id >>= Object.expectStream with
      | .error fault => .error (.document (.contentsStream fault))
      | .ok stream => do return joinContent content (← stream.content)) []

/-! ## The page tree -/

/-- The type of a node: its name, or that of files for the web, by the key alone. -/
def nodeType? (node : Dictionary) : Option String :=
  match (node.entry? "Type").bind Object.name? with
  | some name => some name
  | none => if node.has "Linearized" then some "Linearized" else none

/-- The kids of a node, an array or a reference to one. -/
def kids? (node : Dictionary) : Option (List Object) :=
  (node.resolved? (some document) "Kids").bind Object.array?

/-- How many groups may be open at a time. -/
def groupLimit : Nat := 256

/-- The pages among `kids` and below them, and then among the kids that wait in `waiting`. At most
`budget` kids are looked at; those that are neither pages nor groups are passed over. -/
def pagesWithin (budget : Nat) (kids : List Object) (waiting : List (List Object)) :
    List ObjectId :=
  match kids, waiting with
  | [], [] => []
  | [], next :: later => pagesWithin budget next later
  | kid :: kids, waiting =>
    match budget with
    | 0 => []
    | budget + 1 =>
      let node? := kid.reference?.bind fun id =>
        ((document.fetch id).toOption.bind Object.dictionary?).map fun node => (id, node)
      match node? with
      | none => pagesWithin budget kids waiting
      | some (id, node) =>
        if nodeType? node = some "Page" then id :: pagesWithin budget kids waiting
        else if nodeType? node = some "Pages" ∧ waiting.length < groupLimit then
          pagesWithin budget ((document.kids? node).getD [])
            (if kids.isEmpty then waiting else kids :: waiting)
        else pagesWithin budget kids waiting
termination_by (budget, waiting.length)

/-- The pages of a document in order. -/
def pages : List ObjectId :=
  let root? : Except AccessFault Dictionary := do
    let catalog ← document.catalog
    let id ← (← catalog.expect "Pages").expectReference
    (← document.fetch id).expectDictionary
  match root? with
  | .ok root => document.pagesWithin document.objects.length ((document.kids? root).getD []) []
  | .error _ => []

end Document

end Preflight

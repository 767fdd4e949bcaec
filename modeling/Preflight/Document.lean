import Preflight.Object

/-!
# Documents

A document holds its objects by their identifiers, and a trailer that says where to start. Looking
an object up follows references, up to a limit, so that it ends even where references form a circle.
-/

namespace Preflight

/-- Why a part of a document cannot be read. -/
inductive AccessFault where
  | missingObject (id : ObjectId)
  /-- References follow one another without end. -/
  | referenceLimit
  | wrongKind (expected found : Object.Kind)
  | missingKey (key : String)
  /-- A problem in words. -/
  | described (text : String)
deriving DecidableEq

/-- The wording of an access fault. -/
def AccessFault.message : AccessFault → String
  | missingObject id =>
    "object ID " ++ toString id.number ++ " " ++ toString id.generation ++ " not found"
  | referenceLimit => "dereferencing object reached limit, may indicate a reference cycle"
  | wrongKind expected found =>
    "object has wrong type; expected type " ++ expected.text ++ " but found type " ++ found.text
  | missingKey key => "missing required dictionary key \"" ++ key ++ "\""
  | described text => text

namespace Object

/-- The dictionary that an object has to be. -/
def expectDictionary (object : Object) : Except AccessFault Dictionary :=
  match object with
  | dictionary entries => .ok entries
  | _ => .error (.wrongKind .dictionary object.kind)

/-- The stream that an object has to be. -/
def expectStream (object : Object) : Except AccessFault Stream :=
  match object with
  | stream entries data => .ok ⟨entries, data⟩
  | _ => .error (.wrongKind .stream object.kind)

/-- The reference that an object has to be. -/
def expectReference (object : Object) : Except AccessFault ObjectId :=
  match object with
  | reference id => .ok id
  | _ => .error (.wrongKind .reference object.kind)

end Object

/-- The object that has to be under a key. -/
def Dictionary.expect (dictionary : Dictionary) (key : String) : Except AccessFault Object :=
  match dictionary.entry? key with
  | some object => .ok object
  | none => .error (.missingKey key)

/-- A document. -/
@[ext] structure Document where
  /-- The objects in ascending order of their identifiers. -/
  objects : List (ObjectId × Object)
  /-- The dictionary in which reading begins. -/
  trailer : Dictionary
  /-- The highest number that was given to an object. -/
  lastNumber : Nat
  number_le_lastNumber : ∀ entry ∈ objects, entry.1.number ≤ lastNumber

namespace Document

/-- The object with an identifier. -/
def find? (document : Document) (id : ObjectId) : Option Object := document.objects.lookup id

/-- Insert an object into a list in ascending order of identifiers, in place of one with the same
identifier. -/
def insertObject (id : ObjectId) (object : Object) :
    List (ObjectId × Object) → List (ObjectId × Object)
  | [] => [(id, object)]
  | (other, old) :: objects =>
    if other = id then (id, object) :: objects
    else if id.before other then (id, object) :: (other, old) :: objects
    else (other, old) :: insertObject id object objects

theorem mem_insertObject {id : ObjectId} {object : Object} {entry : ObjectId × Object}
    {objects : List (ObjectId × Object)} (entered : entry ∈ insertObject id object objects) :
    entry = (id, object) ∨ entry ∈ objects := by
  induction objects with
  | nil => exact .inl (List.mem_singleton.1 entered)
  | cons first objects ih =>
    rw [insertObject] at entered
    split at entered
    · exact (List.mem_cons.1 entered).imp_right (List.mem_cons_of_mem first)
    · split at entered
      · exact List.mem_cons.1 entered
      · rcases List.mem_cons.1 entered with rfl | entered
        · exact .inr List.mem_cons_self
        · exact (ih entered).imp_right (List.mem_cons_of_mem first)

/-- Put an object under an identifier. -/
def put (document : Document) (id : ObjectId) (object : Object) : Document where
  objects := insertObject id object document.objects
  trailer := document.trailer
  lastNumber := max document.lastNumber id.number
  number_le_lastNumber entry entered := by
    rcases mem_insertObject entered with rfl | entered
    · exact Nat.le_max_right document.lastNumber id.number
    · exact Nat.le_trans (document.number_le_lastNumber entry entered) (Nat.le_max_left ..)

theorem lookup_insertObject (id other : ObjectId) (object : Object)
    (objects : List (ObjectId × Object)) :
    (insertObject id object objects).lookup other =
      if other = id then some object else objects.lookup other := by
  induction objects with
  | nil => exact lookup_cons_eq_ite id other object []
  | cons entry objects ih =>
    obtain ⟨first, old⟩ := entry
    rw [insertObject]
    split
    · next found =>
      rw [found, lookup_cons_eq_ite, lookup_cons_eq_ite]
      split <;> rfl
    · next distinct =>
      split
      · exact lookup_cons_eq_ite id other object _
      · rw [lookup_cons_eq_ite, lookup_cons_eq_ite, ih]
        split
        · next same => rw [if_neg fun equal => distinct (same ▸ equal)]
        · rfl

/-- Under the identifier that was put stands the new object, under any other what stood there
before. -/
theorem find?_put (document : Document) (id other : ObjectId) (object : Object) :
    (document.put id object).find? other =
      if other = id then some object else document.find? other :=
  lookup_insertObject id other object document.objects

/-- An object that is looked up is an entry. -/
theorem mem_of_lookup {id : ObjectId} {object : Object} {objects : List (ObjectId × Object)}
    (h : objects.lookup id = some object) : (id, object) ∈ objects := by
  obtain ⟨front, back, split, _⟩ := List.lookup_eq_some_iff.1 h
  rw [split]
  exact List.mem_append_right front List.mem_cons_self

theorem mem_of_find? {document : Document} {id : ObjectId} {object : Object}
    (h : document.find? id = some object) : (id, object) ∈ document.objects :=
  mem_of_lookup h

/-- The identifier for an object that is added. -/
def freshId (document : Document) : ObjectId := ⟨document.lastNumber + 1, 0⟩

/-- The document without objects. -/
def empty (trailer : Dictionary) : Document := ⟨[], trailer, 0, nofun⟩

/-- The document with the given objects. -/
def ofList (objects : List (ObjectId × Object)) (trailer : Dictionary) : Document :=
  objects.foldl (fun document (id, object) => document.put id object) (empty trailer)

/-- How many references a look-up follows. -/
def referenceLimit : Nat := 128

/-- Where at most `limit` references lead to from `object`, which has the identifier `id`: an object
that is no reference, with its identifier. -/
def follow (document : Document) (limit : Nat) (id : ObjectId) (object : Object) :
    Except AccessFault (ObjectId × Object) :=
  match object with
  | .reference next =>
    match document.find? next with
    | none => .error (.missingObject next)
    | some target =>
      match limit with
      | 0 => .error .referenceLimit
      | n + 1 => document.follow n next target
  | _ => .ok (id, object)

/-- The object with an identifier, or what it leads to, with its own identifier. -/
def locate (document : Document) (id : ObjectId) : Except AccessFault (ObjectId × Object) :=
  match document.find? id with
  | none => .error (.missingObject id)
  | some object => document.follow referenceLimit id object

/-- The object with an identifier, or what it leads to. -/
def fetch (document : Document) (id : ObjectId) : Except AccessFault Object :=
  (document.locate id).map Prod.snd

/-- The catalog, to which the root entry of the trailer has to refer. -/
def catalog (document : Document) : Except AccessFault Dictionary := do
  let root ← document.trailer.expect "Root"
  let id ← root.expectReference
  let object ← document.fetch id
  object.expectDictionary

end Document

/-! ## Values behind references -/

/-- What a reference leads to; anything else, and a reference that leads nowhere, itself. -/
def Object.resolve (document : Option Document) (object : Object) : Object :=
  match object, document with
  | .reference id, some document =>
    match document.fetch id with
    | .ok target => target
    | .error _ => object
  | _, _ => object

theorem Object.resolve_reference (document : Document) (id : ObjectId) :
    (Object.reference id).resolve (some document) =
      match document.fetch id with
      | .ok target => target
      | .error _ => .reference id := rfl

namespace Dictionary

/-- The object under a key, or what it leads to. -/
def resolved? (document : Option Document) (dictionary : Dictionary) (key : String) :
    Option Object :=
  (dictionary.entry? key).map (·.resolve document)

/-- The dictionary under a key, or that of the stream under it. -/
def dictionary? (document : Option Document) (dictionary : Dictionary) (key : String) :
    Option Dictionary :=
  (dictionary.resolved? document key).bind Object.anyDictionary?

end Dictionary

end Preflight

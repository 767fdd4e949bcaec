import Preflight.Binary.Rounding
import Preflight.Bytes
import Preflight.Text.Utf8

/-!
# Document objects

A document is made of objects, which may refer to one another by their identifiers. Dictionaries
keep their entries in the order in which the keys were first set.
-/

namespace Preflight

/-- The identifier of an object. -/
structure ObjectId where
  number : Nat
  /-- The generation, which tells later uses of a number apart. -/
  generation : Nat
deriving DecidableEq, Inhabited

/-- The order of identifiers: by number, then by generation. -/
def ObjectId.before (a b : ObjectId) : Bool :=
  a.number < b.number || (a.number == b.number && a.generation < b.generation)

/-- An object. -/
inductive Object where
  | null
  | boolean (value : Bool)
  | integer (value : Int64)
  /-- A number with a fraction. -/
  | real (value : Single)
  | name (bytes : Bytes)
  /-- A string written in parentheses. -/
  | literal (bytes : Bytes)
  /-- A string written in hexadecimal digits. -/
  | hex (bytes : Bytes)
  | array (items : List Object)
  | dictionary (entries : List (Bytes × Object))
  /-- Data with a dictionary that describes them. -/
  | stream (entries : List (Bytes × Object)) (data : Bytes)
  | reference (id : ObjectId)
deriving Inhabited

/-- Keys with objects, in order. -/
abbrev Dictionary := List (Bytes × Object)

/-- Data with a dictionary that describes them. -/
structure Stream where
  dictionary : Dictionary
  /-- The data as they are stored. -/
  data : Bytes

/-- Looking up in a list of keys and values, the first entry decides if it has the key. -/
theorem lookup_cons_eq_ite {α β : Type} [BEq α] [LawfulBEq α] [DecidableEq α] (key other : α)
    (value : β) (entries : List (α × β)) :
    ((key, value) :: entries).lookup other =
      if other = key then some value else entries.lookup other := by
  rw [List.lookup_cons]
  by_cases same : other = key
  · rw [if_pos same, beq_iff_eq.2 same]
  · rw [if_neg same, beq_eq_false_iff_ne.2 same]

namespace Dictionary

/-- The object under a key. -/
def entry? (dictionary : Dictionary) (key : String) : Option Object :=
  dictionary.lookup (Bytes.ofLatin key)

/-- Whether there is an object under a key. -/
def has (dictionary : Dictionary) (key : String) : Bool := (dictionary.entry? key).isSome

/-- Put an object under a key: in place of the one that is there, or at the end. -/
def put (key : Bytes) (value : Object) : Dictionary → Dictionary
  | [] => [(key, value)]
  | (other, old) :: entries =>
    if other == key then (key, value) :: entries else (other, old) :: put key value entries

/-- Put an object under a key. -/
def set (dictionary : Dictionary) (key : String) (value : Object) : Dictionary :=
  put (Bytes.ofLatin key) value dictionary

/-- Under the key that was put stands the new object, under any other key what stood there before.
-/
theorem lookup_put (key other : Bytes) (value : Object) (dictionary : Dictionary) :
    (put key value dictionary).lookup other =
      if other = key then some value else dictionary.lookup other := by
  induction dictionary with
  | nil => exact lookup_cons_eq_ite key other value []
  | cons entry entries ih =>
    obtain ⟨first, old⟩ := entry
    rw [put]
    split
    · next found =>
      rw [← eq_of_beq found, lookup_cons_eq_ite, lookup_cons_eq_ite]
      split <;> rfl
    · next distinct =>
      rw [lookup_cons_eq_ite, lookup_cons_eq_ite, ih]
      split
      · next same => rw [if_neg fun equal => distinct (beq_iff_eq.2 (same ▸ equal))]
      · rfl

/-- The entries with those of a repeated key joined: the place of the first and the object of the
last. -/
def ofList (entries : List (Bytes × Object)) : Dictionary :=
  entries.foldl (fun dictionary (key, value) => put key value dictionary) []

/-- Take a key out. The last entry moves to its place. -/
def remove (dictionary : Dictionary) (key : String) : Dictionary :=
  let stays := fun entry : Bytes × Object => entry.1 != Bytes.ofLatin key
  let before := dictionary.takeWhile stays
  let after := (dictionary.dropWhile stays).filter stays
  match after.getLast? with
  | none => before
  | some last => before ++ last :: after.dropLast

end Dictionary

namespace Object

/-! ## Kinds -/

/-- The kinds of objects. -/
inductive Kind where
  | null | boolean | integer | real | name | string | array | dictionary | stream | reference
deriving DecidableEq

/-- The name of a kind. -/
def Kind.text : Kind → String
  | null => "Null"
  | boolean => "Boolean"
  | integer => "Integer"
  | real => "Real"
  | name => "Name"
  | string => "String"
  | array => "Array"
  | dictionary => "Dictionary"
  | stream => "Stream"
  | reference => "Reference"

/-- The kind of an object. -/
def kind : Object → Kind
  | null => .null
  | boolean _ => .boolean
  | integer _ => .integer
  | real _ => .real
  | name _ => .name
  | literal _ | hex _ => .string
  | array _ => .array
  | dictionary _ => .dictionary
  | stream .. => .stream
  | reference _ => .reference

/-! ## Views -/

/-- The text of a name. -/
def name? : Object → Option String
  | name bytes => some (Utf8.decode bytes)
  | _ => none

/-- The value of a whole number. -/
def integer? : Object → Option Int
  | integer value => some value.toInt
  | _ => none

/-- The value of a number. -/
def number? : Object → Option Double
  | integer value => some (Double.ofInt value.toInt)
  | real value => some value.toDouble
  | _ => none

/-- The items of an array. -/
def array? : Object → Option (List Object)
  | array items => some items
  | _ => none

/-- A stream. -/
def stream? : Object → Option Stream
  | stream entries data => some ⟨entries, data⟩
  | _ => none

/-- A dictionary. -/
def dictionary? : Object → Option Dictionary
  | dictionary entries => some entries
  | _ => none

/-- A dictionary, or that of a stream. -/
def anyDictionary? : Object → Option Dictionary
  | dictionary entries => some entries
  | stream entries _ => some entries
  | _ => none

/-- The target of a reference. -/
def reference? : Object → Option ObjectId
  | reference id => some id
  | _ => none

/-- A name with the bytes of a text. -/
def ofName (text : String) : Object := name (Bytes.ofLatin text)

/-- A string with the bytes of a text. -/
def ofText (text : String) : Object := literal (Bytes.ofLatin text)

/-- A stream whose dictionary tells the length of its data. -/
def ofStream (entries : List (Bytes × Object)) (data : Bytes) : Object :=
  stream (Dictionary.set entries "Length" (integer (Int64.ofNat data.length))) data

end Object

end Preflight

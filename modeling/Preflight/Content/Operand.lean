import Preflight.Binary.Rounding
import Preflight.Bytes
import Preflight.Decimal.Text
import Preflight.Text.Quoted

/-!
# Operands and operators

A content stream is a sequence of operators, each preceded by its operands.
-/

namespace Preflight

/-- A value before an operator. -/
inductive Operand where
  | integer (value : Int64)
  /-- A number written with a point. -/
  | real (value : Double)
  /-- A name, without its solidus. -/
  | name (text : String)
  /-- A string written in parentheses, with its escapes resolved. -/
  | literal (bytes : Bytes)
  /-- A string written in hexadecimal digits. -/
  | hex (bytes : Bytes)
  | array (items : List Operand)
  | boolean (value : Bool)
  | null
  /-- Keys with values in the order in which they are written; a key may repeat. -/
  | dictionary (entries : List (String × Operand))
deriving Inhabited

/-- A keyword with the operands before it. An inline image is the operator `BI` with two operands:
the array of its keys and values, and its sample bytes as a literal string. -/
structure Operator where
  name : String
  /-- The operands in stream order. -/
  operands : List Operand
deriving Inhabited

namespace Operand

/-- The number that an operand is, if it is one. -/
def number? : Operand → Option Double
  | integer value => some (Double.ofInt value.toInt)
  | real value => some value
  | _ => none

/-- The name that an operand is, if it is one. -/
def name? : Operand → Option String
  | name text => some text
  | _ => none

/-- A list of items in square brackets. -/
def bracketed (items : List String) : String := "[" ++ ", ".intercalate items ++ "]"

mutual

/-- The text by which a message shows an operand. -/
def describe : Operand → String
  | integer value => "Integer(" ++ toString value.toInt ++ ")"
  | real value => "Real(" ++ value.text Decimal.pointed ++ ")"
  | name text => "Name(" ++ Quoted.ofString text ++ ")"
  | literal bytes => "LiteralString(" ++ bracketed (bytes.map fun b => toString b.toNat) ++ ")"
  | hex bytes => "HexString(" ++ bracketed (bytes.map fun b => toString b.toNat) ++ ")"
  | array items => "Array(" ++ bracketed (describeItems items) ++ ")"
  | boolean value => if value then "Boolean(true)" else "Boolean(false)"
  | null => "Null"
  | dictionary entries => "Dictionary(" ++ bracketed (describeEntries entries) ++ ")"

/-- The texts of several operands. -/
def describeItems : List Operand → List String
  | [] => []
  | item :: items => describe item :: describeItems items

/-- The texts of dictionary entries. -/
def describeEntries : List (String × Operand) → List String
  | [] => []
  | (key, value) :: entries =>
    ("(" ++ Quoted.ofString key ++ ", " ++ describe value ++ ")") :: describeEntries entries

end

mutual

/-- Whether two operands are the same. -/
def same : Operand → Operand → Bool
  | integer value, integer other => value == other
  | real value, real other => value == other
  | name text, name other => text == other
  | literal bytes, literal others => bytes == others
  | hex bytes, hex others => bytes == others
  | array items, array others => sameItems items others
  | boolean value, boolean other => value == other
  | null, null => true
  | dictionary entries, dictionary others => sameEntries entries others
  | _, _ => false

/-- Whether the items of two arrays are the same. -/
def sameItems : List Operand → List Operand → Bool
  | [], [] => true
  | item :: items, other :: others => same item other && sameItems items others
  | _, _ => false

/-- Whether the entries of two dictionaries are the same, in the same order. -/
def sameEntries : List (String × Operand) → List (String × Operand) → Bool
  | [], [] => true
  | (key, value) :: entries, (key', value') :: others =>
    key == key' && same value value' && sameEntries entries others
  | _, _ => false

end

mutual

theorem same_iff : {operand other : Operand} →
    (same operand other = true ↔ operand = other)
  | array _, other => by cases other <;> simp [same, sameItems_iff]
  | dictionary _, other => by cases other <;> simp [same, sameEntries_iff]
  | integer _, other | real _, other | name _, other | literal _, other | hex _, other
  | boolean _, other | null, other => by cases other <;> simp [same]

theorem sameItems_iff : {items others : List Operand} →
    (sameItems items others = true ↔ items = others)
  | [], others => by cases others <;> simp [sameItems]
  | item :: items, others => by cases others <;> simp [sameItems, same_iff, sameItems_iff]

theorem sameEntries_iff : {entries others : List (String × Operand)} →
    (sameEntries entries others = true ↔ entries = others)
  | [], others => by cases others <;> simp [sameEntries]
  | (key, value) :: entries, others => by
    cases others <;> simp [sameEntries, same_iff, sameEntries_iff, Prod.ext_iff, and_assoc]

end

/-- Operands hold lists of operands, for which equality cannot be derived. -/
instance : DecidableEq Operand := fun operand other =>
  decidable_of_iff (operand.same other = true) same_iff

end Operand

end Preflight

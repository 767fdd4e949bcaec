import Preflight.ColorSpace
import Preflight.Failure
import Preflight.Filter

/-!
# Color space definitions

A document defines a color space by a name or by an array that begins with the name of a family.
Definitions refer to other definitions, which are followed to a limited depth; a deeper one is a
failure, and one that is not understood gives no space.
-/

namespace Preflight

variable [StreamDecoder]

namespace ColorSpace

/-- The bytes of a palette: a string, or the data of a stream with its filters taken back if that is
possible. -/
def palette? : Object → Option Bytes
  | .literal bytes | .hex bytes => some bytes
  | .stream entries data =>
    match StreamDecoder.decode ⟨entries, data⟩ with
    | .ok bytes => some bytes
    | .error _ => some data
  | _ => none

/-- An integer cut to the range of a byte. -/
def clampByte (n : Int) : Nat := if 255 < n then 255 else n.toNat

/-- The definition at a place of an array, resolved by `nested`, if the array reaches so far. -/
def resolveItem (nested : Object → Except StreamFailure (Option ColorSpace)) (items : List Object)
    (index : Nat) : Except StreamFailure (Option ColorSpace) :=
  match items[index]? with
  | some object => nested object
  | none => .ok none

/-- The space that an array defines. The definitions in it are resolved by `nested`. -/
def resolveArray (document : Option Document)
    (nested : Object → Except StreamFailure (Option ColorSpace)) (items : List Object) :
    Except StreamFailure (Option ColorSpace) :=
  let resolved? (index : Nat) : Option Object := items[index]?.map (·.resolve document)
  match items.head?.bind Object.name? with
  | none => .ok none
  | some "CalGray" => .ok (some calGray)
  | some "CalRGB" => .ok (some calRgb)
  | some "Lab" => .ok (some lab)
  | some "ICCBased" =>
    match (resolved? 1).bind Object.stream? with
    | none => .ok none
    | some stream => do
      let declared := (stream.dictionary.resolved? document "N").bind Object.integer?
      let components := declared.elim 3 fun n => (n % 4294967296).toNat
      let alternate ←
        match stream.dictionary.resolved? document "Alternate" with
        | some object => nested object
        | none => .ok none
      return some (iccBased components (alternate.getD (ofComponentCount components)))
  | some "Indexed" | some "I" => do
    match ← resolveItem nested items 1 with
    | none => return none
    | some base =>
      match (resolved? 2).bind Object.integer?, (resolved? 3).bind palette? with
      | some last, some palette => return some (indexed base (clampByte last) palette)
      | _, _ => return none
  | some "Separation" =>
    match items[1]?.bind Object.name? with
    | none => .ok none
    | some name => do
      let alternate ← resolveItem nested items 2
      return alternate.map (separation name)
  | some "DeviceN" =>
    match (resolved? 1).bind Object.array? with
    | none => .ok none
    | some names => do
      let alternate ← resolveItem nested items 2
      return alternate.map (deviceN (names.filterMap Object.name?))
  | some "Pattern" => do
    match ← resolveItem nested items 1 with
    | some underlying => return some (patternOver underlying)
    | none => return some pattern
  | some name => .ok (ofFamilyName? name)

/-- The space that an object defines, with `levels` of definitions left to follow out of `maxDepth`
and one. -/
def resolveWithin (document : Option Document) (maxDepth : Nat) :
    (levels : Nat) → Object → Except StreamFailure (Option ColorSpace)
  | 0, _ => .error (.limitExceeded .colorDepth maxDepth (maxDepth + 1))
  | level + 1, object =>
    match object.resolve document with
    | .name bytes => .ok (ofFamilyName? (Utf8.decode bytes))
    | .array items => resolveArray document (resolveWithin document maxDepth level) items
    | _ => .ok none

/-- The space that an object defines, with definitions nested at most `maxDepth` deep in it. -/
def resolve (document : Option Document) (maxDepth : Nat) (object : Object) :
    Except StreamFailure (Option ColorSpace) :=
  resolveWithin document maxDepth (maxDepth + 1) object

/-- The space with a name: one of the families that need no definition, or a space that the
resources define. -/
def resolveName (document : Option Document) (resources : Dictionary) (maxDepth : Nat)
    (name : String) : Except StreamFailure (Option ColorSpace) :=
  match ofFamilyName? name with
  | some space => .ok (some space)
  | none =>
    match (resources.dictionary? document "ColorSpace").bind (·.lookup (Utf8.encode name)) with
    | some object => resolve document maxDepth object
    | none => .ok none

end ColorSpace

end Preflight

import Preflight.Content.Number
import Preflight.Text.Utf8

/-!
# Writing content streams

Operands and operators in the form in which they are read: items and operands are separated by
single spaces, and names and strings are escaped where they have to be.
-/

namespace Preflight

/-- A byte of a name as written: itself if it is a visible regular byte other than the number sign,
and otherwise a number sign and two hexadecimal digits. -/
def nameByteText (b : UInt8) : Bytes :=
  if b == 0x23 || b < 0x21 || 0x7E < b || isDelimiter b then 0x23 :: hexPair b else [b]

/-- A name with its solidus. -/
def nameText (name : String) : Bytes := 0x2F :: (Utf8.encode name).flatMap nameByteText

/-- A byte of a literal string as written: parentheses and the backslash follow a backslash, and a
carriage return, which would be read as a line end, has an escape of its own. -/
def literalByteText (b : UInt8) : Bytes :=
  if b == 0x28 || b == 0x29 || b == 0x5C then [0x5C, b]
  else if b == 0x0D then [0x5C, 0x72]
  else [b]

/-- Texts with a separator byte between them. -/
def joinTexts (separator : UInt8) : List Bytes → Bytes
  | [] => []
  | [text] => text
  | text :: next :: texts => text ++ separator :: joinTexts separator (next :: texts)

mutual

/-- An operand as written. -/
def Operand.bytes : Operand → Bytes
  | .integer value => integerText value.toInt
  | .real value => numberText value
  | .name text => nameText text
  | .literal bytes => 0x28 :: bytes.flatMap literalByteText ++ [0x29]
  | .hex bytes => 0x3C :: bytes.flatMap hexPair ++ [0x3E]
  | .array items => 0x5B :: joinTexts 0x20 (itemBytes items) ++ [0x5D]
  | .boolean value => Bytes.ofLatin (if value then "true" else "false")
  | .null => Bytes.ofLatin "null"
  | .dictionary entries => [0x3C, 0x3C] ++ joinTexts 0x20 (entryBytes entries) ++ [0x3E, 0x3E]

/-- Several operands as written, one by one. -/
def Operand.itemBytes : List Operand → List Bytes
  | [] => []
  | item :: items => Operand.bytes item :: Operand.itemBytes items

/-- The entries of a dictionary as written, one by one. -/
def Operand.entryBytes : List (String × Operand) → List Bytes
  | [] => []
  | (key, value) :: entries =>
    (nameText key ++ 0x20 :: Operand.bytes value) :: Operand.entryBytes entries

end

/-- An inline image as written. -/
def imageBytes (entries : List Operand) (samples : Bytes) : Bytes :=
  Bytes.ofLatin "BI" ++ (Operand.itemBytes entries).flatMap (0x20 :: ·) ++ Bytes.ofLatin " ID "
    ++ samples ++ 0x0A :: Bytes.ofLatin "EI"

/-- An operator as written, without a line end. -/
def Operator.bytes (operator : Operator) : Bytes :=
  match operator.name, operator.operands with
  | "BI", [.array entries, .literal samples] => imageBytes entries samples
  | name, operands => joinTexts 0x20 (Operand.itemBytes operands ++ [Utf8.encode name])

/-- An operator that sets a device color, on a line of its own. -/
def colorOperatorBytes (components : List Single) (name : String) : Bytes :=
  (components.flatMap fun component => numberText component.toDouble ++ [0x20])
    ++ Utf8.encode name ++ [0x0A]

end Preflight

import Preflight.Content.Operand
import Preflight.Text.Quoted

/-!
# Faults of a content stream

Why the bytes of a content stream cannot be read as operators, and why an operator cannot be obeyed
with the operands that it has.
-/

namespace Preflight

/-- The deepest nesting of arrays and dictionaries in an operand. -/
def maxNesting : Nat := 256

/-- What is wrong with the operands of an operator. -/
inductive OperandFault where
  /-- There are `found` operands instead of `expected`. -/
  | count (expected found : Nat)
  /-- There are `found` operands where a single one is expected. -/
  | single (found : Nat)
  | number (found : Operand)
  /-- The operand is not the name of a color space. -/
  | colorSpaceName
  /-- The last operand is not the name of a pattern. -/
  | patternName
  /-- What the handler of an operator says. -/
  | described (text : String)
deriving DecidableEq

/-- The wording of an operand fault. -/
def OperandFault.message : OperandFault → String
  | count expected found =>
    "expected " ++ toString expected ++ " operands, found " ++ toString found
  | single found => "expected 1 operand, found " ++ toString found
  | number found => "expected a number, found " ++ found.describe
  | colorSpaceName => "expected a color space name"
  | patternName => "expected a pattern name"
  | described text => text

/-- Why bytes cannot be read as operators. -/
inductive ContentFault where
  /-- The stream ends after `count` operands. -/
  | operandsAtEnd (count : Nat)
  /-- A closing bracket stands outside an array. -/
  | strayArrayEnd
  /-- An inline image begins after `count` operands. -/
  | operandsBeforeImage (count : Nat)
  /-- No token begins with this byte. -/
  | unexpectedByte (byte : UInt8)
  | nesting
  | openLiteral
  /-- The stream ends within an escape. -/
  | openEscape
  | openHex
  /-- A hexadecimal string holds another byte. -/
  | hexDigit (byte : UInt8)
  | openArray
  | openDictionary
  /-- The stream ends after a key. -/
  | openDictionaryValue
  | dictionaryKey
  /-- A number with a point has no digits. -/
  | realNumber (text : Bytes)
  /-- A number without a point has no digits, or too many. -/
  | integerNumber (text : Bytes)
  /-- The stream ends before the data of an inline image. -/
  | openImage
  /-- The stream ends after a key of an inline image. -/
  | openImageValue
  /-- A key of an inline image is not a name. -/
  | imageKey
  /-- The data of an inline image have no end. -/
  | openImageData
deriving DecidableEq

/-- The wording of a content fault at the given offset, as far as a stream's syntax is concerned. -/
def ContentFault.message (offset : Nat) : ContentFault → String
  | operandsAtEnd count => toString count ++ " operand(s) without an operator at end of stream"
  | strayArrayEnd => "unexpected ']' outside array"
  | operandsBeforeImage count => (OperandFault.count 0 count).message
  | unexpectedByte byte =>
    "unexpected byte 0x" ++ (hexPair byte).toLatin ++ " at offset " ++ toString offset
  | nesting =>
    "arrays and dictionaries nested deeper than " ++ toString maxNesting ++ " levels at offset "
      ++ toString offset
  | openLiteral => "unterminated literal string"
  | openEscape => "unterminated escape in literal string"
  | openHex => "unterminated hex string"
  | hexDigit byte => "invalid hex digit: " ++ Quoted.ofChar (Char.ofNat byte.toNat)
  | openArray => "unterminated array"
  | openDictionary => "unterminated dictionary"
  | openDictionaryValue => "unterminated dictionary value"
  | dictionaryKey => "expected name key in dictionary"
  | realNumber text => "invalid real number: " ++ text.toLatin
  | integerNumber text => "invalid integer: " ++ text.toLatin
  | openImage => "unterminated inline image (missing ID)"
  | openImageValue => "unterminated inline image dictionary"
  | imageKey => "expected name key in inline image dictionary"
  | openImageData => "unterminated inline image (missing EI)"

end Preflight

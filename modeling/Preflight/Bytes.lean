/-!
# Bytes

Document data are sequences of bytes. The bytes of the syntax fall into three classes: blanks,
delimiters, and the regular bytes of which names and keywords are made.
-/

namespace Preflight

/-- A sequence of bytes. -/
abbrev Bytes := List UInt8

namespace Bytes

/-- The bytes that are the code points of a text; of larger code points, the low eight bits. -/
def ofLatin (text : String) : Bytes := text.toList.map fun c => UInt8.ofNat c.toNat

/-- The characters with the bytes as their code points. -/
def toLatin (bytes : Bytes) : String := String.ofList (bytes.map fun b => Char.ofNat b.toNat)

end Bytes

/-- Blanks: space, tab, carriage return, line feed, form feed and NUL. -/
def isBlank (b : UInt8) : Bool :=
  b == 0x20 || b == 0x09 || b == 0x0D || b == 0x0A || b == 0x0C || b == 0x00

/-- The two bytes that end a line. -/
def isLineEnd (b : UInt8) : Bool := b == 0x0A || b == 0x0D

/-- Delimiters: parentheses, angle, square and curly brackets, the solidus and the percent sign. -/
def isDelimiter (b : UInt8) : Bool :=
  b == 0x28 || b == 0x29 || b == 0x3C || b == 0x3E || b == 0x5B || b == 0x5D || b == 0x7B
    || b == 0x7D || b == 0x2F || b == 0x25

/-- The bytes of which a name consists: all but blanks and delimiters. -/
def isRegular (b : UInt8) : Bool := !isBlank b && !isDelimiter b

/-- An ASCII digit. -/
def isDigit (b : UInt8) : Bool := 0x30 ≤ b && b ≤ 0x39

/-- An ASCII letter. -/
def isLetter (b : UInt8) : Bool := (0x41 ≤ b && b ≤ 0x5A) || (0x61 ≤ b && b ≤ 0x7A)

/-- An octal digit. -/
def isOctalDigit (b : UInt8) : Bool := 0x30 ≤ b && b ≤ 0x37

/-- The value of a hexadecimal digit of either case. -/
def hexValue? (b : UInt8) : Option UInt8 :=
  if isDigit b then some (b - 0x30)
  else if 0x61 ≤ b && b ≤ 0x66 then some (b - 0x61 + 10)
  else if 0x41 ≤ b && b ≤ 0x46 then some (b - 0x41 + 10)
  else none

/-- The uppercase hexadecimal digit of a value below 16. -/
def hexDigit (value : UInt8) : UInt8 :=
  if value < 10 then 0x30 + value else 0x41 + (value - 10)

/-- The two uppercase hexadecimal digits of a byte. -/
def hexPair (b : UInt8) : Bytes := [hexDigit (b >>> 4), hexDigit (b &&& 0x0F)]

end Preflight

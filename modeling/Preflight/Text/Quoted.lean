import Preflight.Text.Invisible

/-!
# Quoted texts

In messages a text stands between double quotes and a character between single ones. The quote, the
backslash, the common controls and every character that does not show are written as escapes.
-/

namespace Preflight.Quoted

/-- The escape of a character by its number. -/
def numeric (c : Char) : List Char :=
  ['\\', 'u', '\x7b'] ++ Nat.toDigits 16 c.toNat ++ ['\x7d']

/-- How one character is written inside the quote mark `mark`. -/
def escape (mark c : Char) : List Char :=
  if c = '\x00' then ['\\', '0']
  else if c = '\t' then ['\\', 't']
  else if c = '\r' then ['\\', 'r']
  else if c = '\n' then ['\\', 'n']
  else if c = '\\' ∨ c = mark then ['\\', c]
  else if isInvisible c then numeric c
  else [c]

/-- A text in double quotes. -/
def ofString (text : String) : String :=
  String.ofList ('"' :: text.toList.flatMap (escape '"') ++ ['"'])

/-- A character in single quotes. -/
def ofChar (c : Char) : String :=
  String.ofList ('\'' :: escape '\'' c ++ ['\''])

end Preflight.Quoted

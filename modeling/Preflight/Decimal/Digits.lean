import Preflight.Bytes

/-!
# Decimal digits

Whole numbers as the bytes of their decimal digits, and back.
-/

namespace Preflight

/-- The byte of a digit below ten. -/
def digitByte (digit : Nat) : UInt8 := UInt8.ofNat (0x30 + digit)

/-- The decimal digits of a whole number, without leading zeros. -/
def decimalDigits (n : Nat) : Bytes :=
  if n < 10 then [digitByte n] else decimalDigits (n / 10) ++ [digitByte (n % 10)]

/-- The decimal digits of a whole number, with zeros in front up to `width` digits. -/
def paddedDigits (width n : Nat) : Bytes :=
  let digits := decimalDigits n
  List.replicate (width - digits.length) 0x30 ++ digits

/-- The decimal digits of an integer, after a minus sign if it is negative. -/
def integerText (n : Int) : Bytes :=
  if n < 0 then 0x2D :: decimalDigits n.natAbs else decimalDigits n.natAbs

/-- The whole number that a sequence of decimal digits denotes. -/
def digitsValue (digits : Bytes) : Nat :=
  digits.foldl (fun value digit => value * 10 + (digit.toNat - 0x30)) 0

/-- The digits up to the last one that is not a zero. -/
def trimZeros (digits : Bytes) : Bytes :=
  (digits.reverse.dropWhile (· == 0x30)).reverse

end Preflight

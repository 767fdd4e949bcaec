/-!
# White space at the end of a text
-/

namespace Preflight

/-- The white space characters: the ASCII ones from tab to carriage return and the space, and the
separators and line ends beyond ASCII. -/
def isSpace (c : Char) : Bool :=
  let n := c.toNat
  (0x09 ≤ n && n ≤ 0x0D) || n == 0x20 || n == 0x85 || n == 0xA0 || n == 0x1680
    || (0x2000 ≤ n && n ≤ 0x200A) || n == 0x2028 || n == 0x2029 || n == 0x202F || n == 0x205F
    || n == 0x3000

/-- A text without the white space at its end. -/
def trimSpaceEnd (text : String) : String :=
  String.ofList (text.toList.reverse.dropWhile isSpace).reverse

end Preflight

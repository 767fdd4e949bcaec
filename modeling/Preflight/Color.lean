import Preflight.Binary.Arithmetic
import Preflight.ColorSpace
import Preflight.Text.Utf8

/-!
# Colors

A color is given in a device space, or refers to another color or a color space. The numbers of a
color that is built by the functions of this module are canonical: they lie between 0 and 1, and
zero is not negative. Two colors are equal if all their parts are the same bit by bit, and the
hasher is fed with the same parts.
-/

namespace Preflight

/-- A color. -/
inductive Color where
  /-- A shade of gray. -/
  | gray (level : Single)
  /-- Red, green and blue. -/
  | rgb (red green blue : Single)
  /-- Cyan, magenta, yellow and black. -/
  | cmyk (cyan magenta yellow black : Single)
  /-- A tint of a named ink, and the color in its place. -/
  | separation (name : String) (tint : Single) (alternate : Color)
  /-- The colors of a shading in a color space. -/
  | shading (space : ColorSpace)
  /-- A pattern in the given color. -/
  | pattern (color : Color)
deriving DecidableEq, Inhabited

/-- A component between 0 and 1: smaller ones, and what is not a number, become 0, larger ones 1. -/
def normalize (x : Single) : Single :=
  if 0 < x then (if 1 < x then 1 else x) else 0

namespace Color

/-! ## Canonical colors -/

/-- A shade of gray with a canonical level. -/
def ofGray (level : Single) : Color := gray (normalize level)

/-- A color of canonical red, green and blue. -/
def ofRgb (red green blue : Single) : Color :=
  rgb (normalize red) (normalize green) (normalize blue)

/-- A color of canonical cyan, magenta, yellow and black. -/
def ofCmyk (cyan magenta yellow black : Single) : Color :=
  cmyk (normalize cyan) (normalize magenta) (normalize yellow) (normalize black)

/-- A canonical tint of a named ink. -/
def ofSeparation (name : String) (tint : Single) (alternate : Color) : Color :=
  separation name (normalize tint) alternate

/-- The color with which painting begins. -/
def black : Color := gray 0

/-- What a color is made from when it is read from structured data, in whatever format: numbers of
any kind, and the spaces and colors in it, which are read before it. -/
inductive Data where
  | gray (level : Single)
  | rgb (red green blue : Single)
  | cmyk (cyan magenta yellow black : Single)
  | separation (name : String) (tint : Single) (alternate : Color)
  | shading (space : ColorSpace)
  | pattern (color : Color)

/-- The color that is made from what was read, with canonical numbers. -/
def ofData : Data → Color
  | .gray level => .ofGray level
  | .rgb red green blue => .ofRgb red green blue
  | .cmyk cyan magenta yellow black => .ofCmyk cyan magenta yellow black
  | .separation name tint alternate => .ofSeparation name tint alternate
  | .shading space => .shading space
  | .pattern color => .pattern color

/-- The color that is read before, inside another one. -/
def Data.inner? : Data → Option Color
  | separation _ _ color | pattern color => some color
  | gray _ | rgb .. | cmyk .. | shading _ => none

/-! ## Equality -/

/-- Whether numbers at the same place have the same bits. -/
def sameBits (xs ys : List Single) : Bool :=
  (xs.zip ys).all fun (x, y) => x.toBits == y.toBits

/-- Whether two colors are the same bit by bit. -/
def same : Color → Color → Bool
  | gray x, gray y => x.toBits == y.toBits
  | rgb r g b, rgb r' g' b' => sameBits [r, g, b] [r', g', b']
  | cmyk c m y k, cmyk c' m' y' k' => sameBits [c, m, y, k] [c', m', y', k']
  | separation name x a, separation name' y b => name == name' && x.toBits == y.toBits && same a b
  | shading space, shading space' => space == space'
  | pattern a, pattern b => same a b
  | _, _ => false

instance : BEq Color := ⟨same⟩

theorem same_iff {a b : Color} : a.same b = true ↔ a = b := by
  induction a generalizing b with
  | separation name tint alternate ih =>
    cases b <;> simp [same, Binary.toBits_inj, ih, and_assoc]
  | pattern color ih => cases b <;> simp [same, ih]
  | _ => cases b <;> simp [same, sameBits, Binary.toBits_inj]

instance : LawfulBEq Color where
  eq_of_beq := same_iff.1
  rfl := same_iff.2 rfl

/-! ## Parts -/

/-- The kinds of colors. -/
inductive Kind where
  | gray | rgb | cmyk | separation | shading | pattern
deriving DecidableEq

/-- The kind of a color. -/
def kind : Color → Kind
  | gray _ => .gray
  | rgb .. => .rgb
  | cmyk .. => .cmyk
  | separation .. => .separation
  | shading _ => .shading
  | pattern _ => .pattern

/-- Whether colors of a kind are given in a device space. -/
def Kind.isDevice : Kind → Bool
  | gray | rgb | cmyk => true
  | separation | shading | pattern => false

/-- The name of a kind. -/
def Kind.text : Kind → String
  | gray => "Gray"
  | rgb => "RGB"
  | cmyk => "CMYK"
  | separation => "Separation"
  | shading => "Shading"
  | pattern => "Pattern"

/-- The components of a color that is given in a device space. -/
def components? : Color → Option (List Single)
  | gray level => some [level]
  | rgb red green blue => some [red, green, blue]
  | cmyk cyan magenta yellow black => some [cyan, magenta, yellow, black]
  | separation .. | shading _ | pattern _ => none

end Color

/-! ## Colors of a space -/

/-- The components of an entry of a palette whose colors have `count` components, if the palette
reaches so far. -/
def paletteEntry? (palette : Bytes) (count index : Nat) : Option (List Single) :=
  let entry := (palette.drop (index * count)).take count
  if index * count + count ≤ palette.length then
    some (entry.map fun b => (Binary.ofRat (b.toNat : Rat) : Single) / 255)
  else none

namespace ColorSpace

mutual

/-- The color with the given components, where there is one. An index beyond the palette is cut to
the last one, several colorants together are represented by the initial color of the alternate, and
there are no colors of Lab and of patterns. -/
def color? : ColorSpace → List Single → Option Color
  | deviceGray, [level] | calGray, [level] => some (.ofGray level)
  | deviceRgb, [red, green, blue] | calRgb, [red, green, blue] => some (.ofRgb red green blue)
  | deviceCmyk, [cyan, magenta, yellow, black] => some (.ofCmyk cyan magenta yellow black)
  | iccBased _ alternate, components => color? alternate components
  | indexed base last palette, index :: _ =>
    match paletteEntry? palette base.componentCount (index.truncate last) with
    | some entry => color? base entry
    | none => none
  | separation name alternate, [tint] =>
    match initialColor? alternate with
    | some color => some (.ofSeparation name tint color)
    | none => none
  | deviceN names alternate, components =>
    if components.length = names.length then initialColor? alternate else none
  | _, _ => none

/-- The color with which a space begins: black where it is given in a device space, the first entry
of a palette, and the full tint of a colorant. -/
def initialColor? : ColorSpace → Option Color
  | deviceGray | calGray => some (.gray 0)
  | deviceRgb | calRgb => some (.rgb 0 0 0)
  | deviceCmyk => some (.cmyk 0 0 0 1)
  | iccBased _ alternate => initialColor? alternate
  | indexed base _ palette =>
    match paletteEntry? palette base.componentCount 0 with
    | some entry => color? base entry
    | none => none
  | separation name alternate =>
    match initialColor? alternate with
    | some color => some (.ofSeparation name 1 color)
    | none => none
  | deviceN _ alternate => initialColor? alternate
  | lab | pattern | patternOver _ => none

end

end ColorSpace

/-! ## Hashing -/

/-- What a hasher is fed with at a time. -/
inductive HashStep where
  /-- The number of a variant among those of its type. -/
  | variant (index : Nat)
  /-- A number of 32 bits. -/
  | word (bits : Nat)
  /-- The number of items that follow. -/
  | count (items : Nat)
  | bytes (bytes : Bytes)
  | byte (byte : UInt8)
deriving DecidableEq

/-- A text is hashed as its bytes in UTF-8, and a byte that occurs in none of them. -/
def textHashInput (text : String) : List HashStep := [.bytes (Utf8.encode text), .byte 0xFF]

/-- What the hash of a color space is computed from. -/
def ColorSpace.hashInput : ColorSpace → List HashStep
  | deviceGray => [.variant 0]
  | deviceRgb => [.variant 1]
  | deviceCmyk => [.variant 2]
  | calGray => [.variant 3]
  | calRgb => [.variant 4]
  | lab => [.variant 5]
  | iccBased components alternate => .variant 6 :: .word components :: alternate.hashInput
  | indexed base last palette =>
    .variant 7 :: base.hashInput ++ [.word last, .count palette.length, .bytes palette]
  | separation name alternate => .variant 8 :: textHashInput name ++ alternate.hashInput
  | deviceN names alternate =>
    .variant 9 :: .count names.length :: names.flatMap textHashInput ++ alternate.hashInput
  | pattern => [.variant 10, .variant 0]
  | patternOver underlying => .variant 10 :: .variant 1 :: underlying.hashInput

/-- The number of a kind. -/
def Color.Kind.index : Kind → Nat
  | gray => 0
  | rgb => 1
  | cmyk => 2
  | separation => 3
  | shading => 4
  | pattern => 5

/-- What the hash of numbers is computed from. -/
def bitsHashInput (numbers : List Single) : List HashStep := numbers.map fun x => .word x.toBits

/-- What the hash of a color is computed from: its kind, and then its parts. -/
def Color.hashInput (color : Color) : List HashStep :=
  .variant color.kind.index ::
    match color with
    | gray level => bitsHashInput [level]
    | rgb red green blue => bitsHashInput [red, green, blue]
    | cmyk cyan magenta yellow black => bitsHashInput [cyan, magenta, yellow, black]
    | separation name tint alternate =>
      textHashInput name ++ .word tint.toBits :: alternate.hashInput
    | shading space => space.hashInput
    | pattern color => color.hashInput

end Preflight

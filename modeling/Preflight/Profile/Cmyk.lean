import Preflight.Profile.Reference

/-!
# Gray component replacement

Without calibration, cyan, magenta and yellow are the complements of red, green and blue, and the
gray that they have in common is printed in black alone. Of the three colored inks at most two are
then used, and the step can be taken back.
-/

namespace Preflight

/-- Amounts of the four process inks. -/
structure Cmyk (α : Type) where
  cyan : α
  magenta : α
  yellow : α
  black : α
deriving DecidableEq

/-- Apply a function to each amount. -/
def Cmyk.map {α β : Type} (f : α → β) (inks : Cmyk α) : Cmyk β :=
  ⟨f inks.cyan, f inks.magenta, f inks.yellow, f inks.black⟩

section

variable {α : Type} [Sub α] [Mul α] [Div α] [LT α] [LE α] [DecidableLT α] [DecidableLE α]
  [OfNat α 0] [OfNat α 1]

/-- The larger of two numbers. -/
def larger (a b : α) : α := if a < b then b else a

/-- The inks of a color. All of the gray is printed in black; a color that is at most `tolerance`
away from black is printed in black alone. -/
def Rgb.toCmyk (tolerance : α) (color : Rgb α) : Cmyk α :=
  let ⟨r, g, b⟩ := color.map clampUnit
  let k := 1 - larger (larger r g) b
  if 1 - tolerance ≤ k then ⟨0, 0, 0, 1⟩
  else
    let d := 1 - k
    ⟨clampUnit ((1 - r - k) / d), clampUnit ((1 - g - k) / d), clampUnit ((1 - b - k) / d),
      clampUnit k⟩

/-- The color of inks: each ink takes its complement away, and black takes from all three. -/
def Cmyk.toRgb (inks : Cmyk α) : Rgb α :=
  let ⟨c, m, y, k⟩ := inks.map clampUnit
  ⟨(1 - c) * (1 - k), (1 - m) * (1 - k), (1 - y) * (1 - k)⟩

end

/-- The distance of 1 to the next double. -/
def Double.tolerance : Double := 2.220446049250313e-16

end Preflight

import Preflight.Binary.Rounding

/-!
# Arithmetic

Each operation on finite numbers computes the exact result and rounds it once. Infinities follow the
limits, and an operation without a limit gives not-a-number. Comparisons with not-a-number are
false, and the two zeros are equal.
-/

namespace Preflight.Binary

variable {f : FloatFormat}

/-- The sum. Two zeros, or opposite numbers, add up to positive zero unless both are negative. -/
def add (x y : Binary f) : Binary f :=
  if x.isNaN || y.isNaN then nan
  else if x.isFinite then
    if y.isFinite then round (x.negative && y.negative) (x.toRat + y.toRat) else y
  else if y.isFinite || x.negative == y.negative then x
  else nan

/-- The difference, as the sum with the opposite. -/
def sub (x y : Binary f) : Binary f := add x y.neg

/-- The product; its sign is negative if just one sign is. -/
def mul (x y : Binary f) : Binary f :=
  let negative := x.negative != y.negative
  if x.isNaN || y.isNaN then nan
  else if x.isFinite && y.isFinite then round negative (x.toRat * y.toRat)
  else if x.rank = 0 || y.rank = 0 then nan
  else infinity negative

/-- The quotient; its sign is negative if just one sign is. -/
def div (x y : Binary f) : Binary f :=
  let negative := x.negative != y.negative
  if x.isNaN || y.isNaN then nan
  else if x.isFinite then
    if !y.isFinite then zero negative
    else if y.rank ≠ 0 then round negative (x.toRat / y.toRat)
    else if x.rank = 0 then nan
    else infinity negative
  else if y.isFinite then infinity negative
  else nan

instance : Add (Binary f) := ⟨add⟩
instance : Sub (Binary f) := ⟨sub⟩
instance : Mul (Binary f) := ⟨mul⟩
instance : Div (Binary f) := ⟨div⟩
instance : Neg (Binary f) := ⟨neg⟩

/-- The place of a number in the order: the rank, counted downwards for negative numbers. Both zeros
have the place 0. -/
def place (x : Binary f) : Int := if x.negative then -(x.rank : Int) else (x.rank : Int)

/-- Numerical order; false if either is not a number. -/
def lt (x y : Binary f) : Bool := !x.isNaN && !y.isNaN && x.place < y.place

/-- Numerical order or equality; false if either is not a number. -/
def le (x y : Binary f) : Bool := !x.isNaN && !y.isNaN && x.place ≤ y.place

/-- Numerical equality: the zeros are equal, and not-a-number equals nothing. -/
def numEq (x y : Binary f) : Bool := !x.isNaN && !y.isNaN && x.place == y.place

instance : LT (Binary f) := ⟨fun x y => x.lt y = true⟩
instance : LE (Binary f) := ⟨fun x y => x.le y = true⟩

instance (x y : Binary f) : Decidable (x < y) := inferInstanceAs (Decidable (x.lt y = true))
instance (x y : Binary f) : Decidable (x ≤ y) := inferInstanceAs (Decidable (x.le y = true))

/-- The whole part of a non-negative number, cut to at most `limit`; nothing below zero is counted,
and not-a-number counts as zero. -/
def truncate (limit : Nat) (x : Binary f) : Nat :=
  if x.isNaN || x.negative then 0
  else if x.isFinite then
    let whole := x.toRat.floor.toNat
    if whole < limit then whole else limit
  else limit

end Preflight.Binary

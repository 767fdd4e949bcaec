/-!
# Binary floating-point numbers

A binary interchange format has a sign, an exponent field and a fraction field. Read as one natural
number, the exponent and fraction fields are the *rank* of the magnitude: the magnitudes of a
format, from zero over the finite ones to infinity, are in the order of their ranks, and what lies
above infinity is not a number. A number of the format is therefore a sign and a rank, and its exact
value is a rational number.
-/

namespace Preflight

/-- A binary interchange format. -/
structure FloatFormat where
  /-- The number of bits of the fraction field. -/
  fractionBits : Nat
  /-- The number of bits of the exponent field. -/
  exponentBits : Nat
deriving DecidableEq

namespace FloatFormat

/-- Single precision: 32 bits. -/
def single : FloatFormat := ⟨23, 8⟩

/-- Double precision: 64 bits. -/
def double : FloatFormat := ⟨52, 11⟩

variable (f : FloatFormat)

/-- The number of ranks, which is also the place value of the sign bit. -/
def ranks : Nat := 1 <<< (f.fractionBits + f.exponentBits)

/-- The rank of infinity: all bits of the exponent field set, none of the fraction. -/
def infinityRank : Nat := ((1 <<< f.exponentBits) - 1) <<< f.fractionBits

/-- The rank of the not-a-number that arithmetic gives. -/
def nanRank : Nat := f.infinityRank + 1 <<< (f.fractionBits - 1)

/-- The binary exponent of the last place of the smallest numbers. -/
def minExponent : Int := 2 - ((1 <<< (f.exponentBits - 1) : Nat) : Int) - (f.fractionBits : Int)

/-- The integer significand of the magnitude of a finite rank. -/
def significand (rank : Nat) : Nat :=
  let leading := if rank >>> f.fractionBits = 0 then 0 else 1 <<< f.fractionBits
  leading + rank % (1 <<< f.fractionBits)

/-- The binary exponent of the last place of the significand of a finite rank. -/
def exponent (rank : Nat) : Int :=
  f.minExponent + ((rank >>> f.fractionBits - 1 : Nat) : Int)

/-- The exact magnitude of a finite rank. -/
def magnitude (rank : Nat) : Rat :=
  (f.significand rank : Rat) * 2 ^ f.exponent rank

end FloatFormat

/-- A number of a binary format: a sign and the rank of its magnitude. -/
@[ext] structure Binary (f : FloatFormat) where
  /-- Whether the sign bit is set. -/
  negative : Bool
  /-- The exponent and fraction fields, read as one number. -/
  rank : Nat
  /-- The rank fits the two fields. -/
  rank_lt : rank < f.ranks
deriving DecidableEq

/-- A single-precision number. -/
abbrev Single := Binary .single

/-- A double-precision number. -/
abbrev Double := Binary .double

namespace FloatFormat

variable (f : FloatFormat)

theorem ranks_pos : 0 < f.ranks := by
  rw [ranks, Nat.shiftLeft_eq, Nat.one_mul]
  exact Nat.two_pow_pos _

end FloatFormat

namespace Binary

variable {f : FloatFormat}

/-- The number whose bit pattern is `bits`, of which higher bits are ignored. -/
def ofBits (bits : Nat) : Binary f :=
  ⟨bits / f.ranks % 2 = 1, bits % f.ranks, Nat.mod_lt _ f.ranks_pos⟩

/-- The bit pattern. -/
def toBits (x : Binary f) : Nat :=
  (if x.negative then f.ranks else 0) + x.rank

/-- Different numbers have different bit patterns. -/
theorem toBits_inj {x y : Binary f} : x.toBits = y.toBits ↔ x = y := by
  constructor
  · intro same
    have hx := x.rank_lt
    have hy := y.rank_lt
    unfold toBits at same
    refine Binary.ext ?_ ?_
    · cases hs : x.negative <;> cases ht : y.negative <;> simp [hs, ht] at same ⊢ <;> omega
    · cases hs : x.negative <;> cases ht : y.negative <;> simp [hs, ht] at same <;> omega
  · rintro rfl
    rfl

/-- A number that is neither infinite nor not a number. -/
def isFinite (x : Binary f) : Bool := x.rank < f.infinityRank

/-- Not a number. -/
def isNaN (x : Binary f) : Bool := f.infinityRank < x.rank

/-- The exact value of a finite number; of no meaning for others. -/
def toRat (x : Binary f) : Rat :=
  if x.negative then -f.magnitude x.rank else f.magnitude x.rank

/-- The number with sign `negative` and the given rank, cut down to the format's ranks. -/
def ofRank (negative : Bool) (rank : Nat) : Binary f :=
  ⟨negative, rank % f.ranks, Nat.mod_lt _ f.ranks_pos⟩

/-- Infinity. -/
def infinity (negative : Bool) : Binary f := ofRank negative f.infinityRank

/-- The not-a-number that arithmetic gives where there is no answer. -/
def nan : Binary f := ofRank false f.nanRank

/-- Zero with a sign. -/
def zero (negative : Bool) : Binary f := ofRank negative 0

/-- The opposite number: only the sign bit changes. -/
def neg (x : Binary f) : Binary f := { x with negative := !x.negative }

/-- The number without its sign. -/
def abs (x : Binary f) : Binary f := { x with negative := false }

end Binary

end Preflight

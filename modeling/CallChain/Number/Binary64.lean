/-! Binary floating-point numbers as bit patterns, with exact arithmetic on their magnitudes.

Powers of natural numbers are written `Nat.pow`, which means the same whatever else is imported. -/

namespace CallChain

/-- A 64-bit binary floating-point number, kept as its bits so that every NaN stays itself. -/
structure Binary64 where
  bits : UInt64
deriving DecidableEq, Repr, Inhabited

namespace Binary64

/-- How many least units, the smallest positive number, make up one: `2 ^ 1074`. -/
def unitsPerOne : Nat := Nat.pow 2 1074

/-- The bits of positive infinity, the first pattern above every finite magnitude. -/
def infinityBits : Nat := 2047 * Nat.pow 2 52

/-- The bit that marks a number as negative. -/
def signBit : Nat := Nat.pow 2 63

/-- The bits that follow the exponent. -/
def fractionField (x : Binary64) : Nat :=
  x.bits.toNat % Nat.pow 2 52

/-- The biased exponent. -/
def exponentField (x : Binary64) : Nat :=
  x.bits.toNat / Nat.pow 2 52 % Nat.pow 2 11

/-- Whether the sign bit is set, which it may be on a zero or a NaN too. -/
def isNegative (x : Binary64) : Bool :=
  signBit ≤ x.bits.toNat

/-- Whether the pattern denotes no number. -/
def isNaN (x : Binary64) : Bool :=
  x.exponentField == 2047 && x.fractionField != 0

/-- Whether the pattern denotes a real number. -/
def isFinite (x : Binary64) : Bool :=
  x.exponentField != 2047

/-- The magnitude counted in least units; only meant for finite numbers. -/
def units (x : Binary64) : Nat :=
  -- An exponent field of zero has no hidden bit and shares the scale of the field one.
  if x.exponentField = 0 then x.fractionField
  else (x.fractionField + Nat.pow 2 52) * Nat.pow 2 (x.exponentField - 1)

/-- Whether the number is one of the two zeros. -/
def isZero (x : Binary64) : Bool :=
  x.isFinite && x.units == 0

/-- Whether the number is finite and has no fractional part. -/
def isIntegral (x : Binary64) : Bool :=
  x.isFinite && x.units % unitsPerOne == 0

/-- Equality of the numbers denoted: a NaN equals nothing, and the two zeros are equal. -/
def agrees (x y : Binary64) : Bool :=
  !x.isNaN && !y.isNaN && (x.bits == y.bits || x.isZero && y.isZero)

/-- The quotient rounded to the nearest natural number, a half going to the even neighbour. -/
def divideToEven (numerator denominator : Nat) : Nat :=
  let quotient := numerator / denominator
  let doubled := 2 * (numerator % denominator)
  if denominator < doubled || doubled = denominator && quotient % 2 = 1 then quotient + 1
  else quotient

/-- The bits of the magnitude nearest to a ratio of least units. -/
def nearestBits (numerator denominator : Nat) : Nat :=
  -- Dropping this many binary places leaves at most 53 of them.
  let scale := Nat.log2 (numerator / denominator) - 52
  let significand := divideToEven numerator (denominator * Nat.pow 2 scale)
  -- The hidden bit, or a carry out of the significand, raises the exponent field by one.
  min (scale * Nat.pow 2 52 + significand) infinityBits

/-- The number with the given magnitude bits and sign. -/
def ofMagnitude (negative : Bool) (magnitude : Nat) : Binary64 :=
  ⟨UInt64.ofNat (if negative then signBit + magnitude else magnitude)⟩

/-- The number nearest to a ratio of least units, with a sign. -/
def ofUnits (negative : Bool) (numerator denominator : Nat) : Binary64 :=
  ofMagnitude negative (nearestBits numerator denominator)

/-- The number nearest to a natural number. -/
def ofNat (n : Nat) : Binary64 :=
  ofUnits false (n * unitsPerOne) 1

/-- The number nearest to an integer; zero gets no sign. -/
def ofInt (i : Int) : Binary64 :=
  ofUnits (i < 0) (i.natAbs * unitsPerOne) 1

/-- The same magnitude below zero. -/
def negate (x : Binary64) : Binary64 :=
  ⟨x.bits ^^^ UInt64.ofNat signBit⟩

/-- Positive zero. -/
def zero : Binary64 := ⟨0⟩

/-- The rounded product of two magnitudes. -/
def timesMagnitude (x y : Binary64) : Binary64 :=
  ofUnits false (x.units * y.units) unitsPerOne

/-- The rounded quotient of two magnitudes. -/
def overMagnitude (x y : Binary64) : Binary64 :=
  ofUnits false (x.units * unitsPerOne) y.units

end Binary64

end CallChain

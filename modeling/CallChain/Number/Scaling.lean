import CallChain.Number.Binary64

/-! The number a decimal significand and exponent stand for, reached by one rounded step at a time. -/

namespace CallChain

namespace Binary64

/-- The number nearest to a power of ten. -/
def tenTo (exponent : Nat) : Binary64 :=
  ofNat (Nat.pow 10 exponent)

/-- The largest exponent whose power of ten is a finite number. -/
def largestTen : Nat := 308

/-- Divides by the largest power of ten until the exponent left is one of a finite power. -/
def shrink : Nat → Binary64 → Nat → Binary64
  | 0, x, _ => x
  | fuel + 1, x, exponent =>
    if exponent ≤ largestTen then overMagnitude x (tenTo exponent)
    else if x.isZero then x
    else shrink fuel (overMagnitude x (tenTo largestTen)) (exponent - largestTen)

/-- A magnitude given by a natural significand and a power of ten, unless it is out of range.

The significand is rounded first and scaled after that, so the result may differ from the nearest
number in its last place. -/
def ofScaled? (significand : Nat) (exponent : Int) : Option Binary64 :=
  let x := ofNat significand
  let result :=
    if 0 ≤ exponent then
      if exponent.toNat ≤ largestTen then some (timesMagnitude x (tenTo exponent.toNat))
      -- Zero stays zero, however large the power.
      else if x.isZero then some x else none
    -- Each step takes 308 places away, so three of them reach zero from any magnitude.
    else some (shrink 4 x (-exponent).toNat)
  result.filter isFinite

end Binary64

end CallChain

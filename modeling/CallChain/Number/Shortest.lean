import CallChain.Number.Binary64

/-! The fewest decimal digits that read back as a given finite number. -/

namespace CallChain

/-- A decimal number: a natural significand times a power of ten. -/
structure Decimal where
  significand : Nat
  exponent : Int
deriving DecidableEq, Repr

/-- Which neighbour an exact half goes to. -/
inductive Tie where
  | up
  | toEven
deriving DecidableEq, Repr

namespace Decimal

/-- The digits of the significand. -/
def digits (d : Decimal) : List Char :=
  Nat.toDigits 10 d.significand

/-- The power of ten at the first digit. -/
def leading (d : Decimal) : Int :=
  d.exponent + d.digits.length - 1

/-- The same number with one zero fewer at the end, if it ends in one. -/
def dropZero (d : Decimal) : Decimal :=
  if d.significand % 10 = 0 then ⟨d.significand / 10, d.exponent + 1⟩ else d

end Decimal

namespace Binary64

/-- Numbers are compared on a decimal scale fine enough for seventeen digits of the least unit. -/
def finestPlace : Nat := 341

/-- The magnitude in multiples of the finest place, rounded down. -/
def scaledDown (x : Binary64) : Nat :=
  x.units * Nat.pow 10 finestPlace / unitsPerOne

/-- Whether a multiple of the finest place is read as the magnitude of `x`. -/
def readsAs (x : Binary64) (scaled : Nat) : Bool :=
  nearestBits (scaled * unitsPerOne) (Nat.pow 10 finestPlace) == x.bits.toNat % signBit

/-- Whichever of two neighbouring points is read as a number, the nearer one if both are. -/
def neighbour? (reads : Nat → Bool) (nearerAbove : Bool) (below : Nat) : Option Nat :=
  match reads below, reads (below + 1) with
  | true, true => some (if nearerAbove then below + 1 else below)
  | true, false => some below
  | false, true => some (below + 1)
  | false, false => none

/-- The better of the two neighbours of the magnitude on a decimal grid, if one reads back. -/
def gridPoint? (tie : Tie) (x : Binary64) (spacing : Nat) : Option Nat :=
  let exact := x.units * Nat.pow 10 finestPlace
  let step := unitsPerOne * spacing
  let below := exact / step
  let doubled := 2 * (exact % step)
  let nearerAbove : Bool :=
    step < doubled || doubled = step && (tie = .up || below % 2 = 1)
  neighbour? (fun point => x.readsAs (point * spacing)) nearerAbove below

/-- Tries grids of at least `count` significant digits, with `remaining` grids still to come. -/
def shortestFrom (grid : Nat → Option Nat) (finest : Decimal) (places : Nat) :
    Nat → Nat → Decimal
  -- Seventeen digits always read back, so this line is not reached from `shortest`.
  | 0, _ => finest
  | remaining + 1, count =>
    let dropped := places - count
    match grid dropped with
    -- Only a carry out of all digits ends in zero, and a coarser grid would have found it but for one.
    | some significand => Decimal.dropZero ⟨significand, (dropped : Int) - finestPlace⟩
    | none => shortestFrom grid finest places remaining (count + 1)

/-- The fewest digits that read back as a finite magnitude, nearest to it among those. -/
def shortest (tie : Tie) (x : Binary64) : Decimal :=
  if x.units = 0 then ⟨0, 0⟩
  else
    let grid (dropped : Nat) := x.gridPoint? tie (Nat.pow 10 dropped)
    shortestFrom grid ⟨x.scaledDown, -finestPlace⟩ (Nat.toDigits 10 x.scaledDown).length 17 1

end Binary64

end CallChain

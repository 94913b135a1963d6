import CallChain.Number.Shortest

/-! The written forms of floating-point numbers. -/

namespace CallChain

/-- How a number is laid out once its digits are known. -/
structure FloatForm where
  /-- Which digits stand for an exact half. -/
  tie : Tie
  /-- The least power of ten at the first digit that is still written without an exponent. -/
  leastPlain : Int
  /-- The greatest such power. -/
  greatestPlain : Int
  /-- What stands before a positive exponent. -/
  plus : List Char
deriving Repr

namespace FloatForm

/-- Stored documents write exponents below `-5` and above `15`, always with a sign. -/
def stored : FloatForm := ⟨.toEven, -5, 15, ['+']⟩

/-- Diagnostics write exponents below `-4` and above `15`, and no plus sign. -/
def diagnostic : FloatForm := ⟨.up, -4, 15, []⟩

end FloatForm

namespace Decimal

/-- Digits with a decimal point and no exponent, keeping at least one digit after the point. -/
def plain (d : Decimal) : List Char :=
  let leading := d.leading
  if leading < 0 then
    '0' :: '.' :: List.replicate (-leading - 1).toNat '0' ++ d.digits
  else
    let whole := leading.toNat + 1
    let padded := d.digits ++ List.replicate (whole - d.digits.length) '0'
    let fraction := padded.drop whole
    padded.take whole ++ '.' :: (if fraction.isEmpty then ['0'] else fraction)

/-- One digit before the point and an exponent after the others. -/
def scientific (plus : List Char) (d : Decimal) : List Char :=
  let mantissa :=
    match d.digits with
    | [] => []
    | [digit] => [digit]
    | digit :: rest => digit :: '.' :: rest
  let sign := if d.leading < 0 then ['-'] else plus
  mantissa ++ 'e' :: sign ++ Nat.toDigits 10 d.leading.natAbs

end Decimal

namespace Binary64

/-- The sign, then the magnitude written by `magnitude`; NaN and the infinities have names. -/
def signed (x : Binary64) (magnitude : Binary64 → List Char) : String :=
  if x.isNaN then "NaN"
  else
    let sign := if x.isNegative then ['-'] else []
    String.ofList (sign ++ if x.isFinite then magnitude x else "inf".toList)

/-- The text of a number in one of the forms with exponents. -/
def write (form : FloatForm) (x : Binary64) : String :=
  x.signed fun x =>
    let d := x.shortest form.tie
    if x.units = 0 || form.leastPlain ≤ d.leading && d.leading ≤ form.greatestPlain then d.plain
    else d.scientific form.plus

/-- The text of a number for people: integers in full, the rest shortest, never an exponent. -/
def display (x : Binary64) : String :=
  x.signed fun x =>
    if x.isIntegral then Nat.toDigits 10 (x.units / unitsPerOne) ++ ['.', '0']
    else (x.shortest .up).plain

end Binary64

end CallChain

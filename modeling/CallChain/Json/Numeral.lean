import CallChain.Json.Syntax
import CallChain.Number.Scaling

/-! Numerals of JSON texts and the numbers they stand for. -/

namespace CallChain.Json

/-- The parts of a numeral as written. -/
structure Numeral where
  negative : Bool
  /-- The digits before the point. -/
  whole : List Char
  /-- The digits after the point, none without a point. -/
  fraction : List Char
  /-- The exponent, if one is written. -/
  exponent : Option Int
  /-- Whether a point or an exponent makes this a floating-point number. -/
  pointed : Bool
deriving Repr

/-- The digits at the start of a text, and what follows them. -/
def digits (text : List Char) : List Char × List Char :=
  (text.takeWhile Char.isDigit, text.dropWhile Char.isDigit)

/-- The number a row of digits spells. -/
def digitsValue (digits : List Char) : Nat :=
  digits.foldl (fun value digit => value * 10 + (digit.toNat - '0'.toNat)) 0

/-- The digits before the point: one zero, or several digits that do not start with zero. -/
def whole? (text : List Char) : Option (List Char × List Char) :=
  match digits text with
  | ([], _) => none
  | ([digit], rest) => some ([digit], rest)
  | (first :: others, rest) => if first = '0' then none else some (first :: others, rest)

/-- The digits after a point; a point needs at least one. -/
def fraction? (text : List Char) : Option (Option (List Char) × List Char) :=
  match text with
  | '.' :: rest =>
    match digits rest with
    | ([], _) => none
    | (fraction, rest) => some (some fraction, rest)
  | _ => some (none, text)

/-- The digits of an exponent with the sign already read. -/
def exponentDigits? (negative : Bool) (text : List Char) : Option (Option Int × List Char) :=
  match digits text with
  | ([], _) => none
  | (exponent, rest) =>
    let magnitude : Int := digitsValue exponent
    some (some (if negative then -magnitude else magnitude), rest)

/-- An exponent with either letter and an optional sign. -/
def exponent? (text : List Char) : Option (Option Int × List Char) :=
  match text with
  | letter :: rest =>
    if letter = 'e' || letter = 'E' then
      match rest with
      | '+' :: rest => exponentDigits? false rest
      | '-' :: rest => exponentDigits? true rest
      | _ => exponentDigits? false rest
    else some (none, text)
  | [] => some (none, text)

/-- The numeral at the start of a text, and what follows it. -/
def numeral? (text : List Char) : Option (Numeral × List Char) := do
  let (negative, rest) := match text with
    | '-' :: rest => (true, rest)
    | _ => (false, text)
  let (whole, rest) ← whole? rest
  let (fraction, rest) ← fraction? rest
  let (exponent, rest) ← exponent? rest
  return (⟨negative, whole, fraction.getD [], exponent, fraction.isSome || exponent.isSome⟩, rest)

/-- The largest significand that is kept exactly. -/
def largestSignificand : Nat := UInt64.size - 1

/-- Appends digits to a significand while it stays in range, and gives those left over. -/
def absorb : Nat → List Char → Nat × List Char
  | significand, [] => (significand, [])
  | significand, digit :: rest =>
    let longer := significand * 10 + (digit.toNat - '0'.toNat)
    if longer ≤ largestSignificand then absorb longer rest else (significand, digit :: rest)

namespace Numeral

/-- The number as a floating-point number, unless it is out of range. -/
def float? (numeral : Numeral) : Option Binary64 :=
  -- Digits that no longer fit count before the point and are dropped after it.
  let (start, dropped) := absorb 0 numeral.whole
  let (significand, ignored) := absorb start numeral.fraction
  let kept := numeral.fraction.length - ignored.length
  let exponent := numeral.exponent.getD 0 + dropped.length - kept
  let magnitude := Binary64.ofScaled? significand exponent
  if numeral.negative then magnitude.map Binary64.negate else magnitude

/-- The number a numeral stands for, unless it is out of range. -/
def value? (numeral : Numeral) : Option Number :=
  let (significand, dropped) := absorb 0 numeral.whole
  if numeral.pointed || !dropped.isEmpty then numeral.float?.map Number.float
  else if !numeral.negative then some (.natural (UInt64.ofNat significand))
  -- Negative zero and integers below the least one of 64 bits become floating-point numbers.
  else if significand = 0 || firstTooLarge < significand then numeral.float?.map Number.float
  else some (.negative (Int64.ofInt (-(significand : Int))))

end Numeral

end CallChain.Json

/-! Durations in words. -/

namespace CallChain.CommandLine

/-- The digits after the point of `part` out of `10 ^ places`, without zeros at the end. -/
def fractionDigits (places part : Nat) : String :=
  let digits := Nat.toDigits 10 (Nat.pow 10 places + part)
  String.ofList (digits.tail.reverse.dropWhile (· == '0')).reverse

/-- A count of nanoseconds in a unit that is `10 ^ places` of them. -/
def durationIn (unit : String) (places nanoseconds : Nat) : String :=
  let whole := nanoseconds / Nat.pow 10 places
  match fractionDigits places (nanoseconds % Nat.pow 10 places) with
  | "" => s!"{whole}{unit}"
  | fraction => s!"{whole}.{fraction}{unit}"

/-- A count of nanoseconds in the largest unit that it fills. -/
def durationText (nanoseconds : Nat) : String :=
  if nanoseconds < 1000 then durationIn "ns" 0 nanoseconds
  else if nanoseconds < 1000000 then durationIn "µs" 3 nanoseconds
  else if nanoseconds < 1000000000 then durationIn "ms" 6 nanoseconds
  else durationIn "s" 9 nanoseconds

example : ([0, 999, 1000, 1500, 2000000, 3141590, 1000000000].map durationText) =
    ["0ns", "999ns", "1µs", "1.5µs", "2ms", "3.14159ms", "1s"] := by decide +kernel

end CallChain.CommandLine

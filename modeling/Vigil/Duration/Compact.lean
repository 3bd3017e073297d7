import Vigil.Duration.Basic

/-!
# Durations as one decimal number

A span in the largest unit of which it holds at least one whole, with as many decimal places as
it needs.
-/

set_option autoImplicit false

namespace Vigil.Duration

/-- Digits without the zeros at their end. -/
def withoutEndZeros (digits : List Char) : List Char :=
  (digits.reverse.dropWhile (· == '0')).reverse

/-- Decimal places behind a point, `count` of them before zeros are dropped. -/
def places (count n : Nat) : String :=
  let digits := Nat.toDigits 10 n
  match withoutEndZeros (List.replicate (count - digits.length) '0' ++ digits) with
  | [] => ""
  | ds => "." ++ String.ofList ds

/-- A number of nanoseconds in units of `10 ^ count` nanoseconds. -/
def inUnits (count nanos : Nat) (unit : String) : String :=
  toString (nanos / Nat.pow 10 count) ++ places count (nanos % Nat.pow 10 count) ++ unit

/-- The span as one number. -/
def compact (d : Duration) : String :=
  if 1_000_000_000 ≤ d.nanos then inUnits 9 d.nanos "s"
  else if 1_000_000 ≤ d.nanos then inUnits 6 d.nanos "ms"
  else if 1_000 ≤ d.nanos then inUnits 3 d.nanos "µs"
  else inUnits 0 d.nanos "ns"

end Vigil.Duration

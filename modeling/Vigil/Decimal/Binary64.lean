/-!
# Binary floating-point numbers with 64 bits

A finite number is a sign and `significand * 2 ^ exponent`, computed with in exact natural
arithmetic. `roundQuotient` is the one rounding step: the representable number nearest to a
quotient, of two equally near ones the even one, and nothing when the quotient is too large.
Reading a decimal numeral rounds three times: the digits, the power of ten, and their product
or quotient.
-/

set_option autoImplicit false

namespace Vigil

/-- A finite binary64 number: `significand * 2 ^ exponent` with a sign. -/
structure Binary64 where
  negative : Bool
  significand : Nat
  exponent : Int
  deriving DecidableEq, Repr, Inhabited

namespace Binary64

/-- Magnitude of a number: `significand * 2 ^ exponent`. -/
structure Magnitude where
  significand : Nat
  exponent : Int
  deriving DecidableEq, Repr, Inhabited

/-- The least significand that fills all 53 places. -/
def leastFull : Nat := 0x10000000000000

/-- `num / den` cut down to a whole number of steps `2 ^ e`, and whether to round it up. -/
def steps (num den : Nat) (e : Int) : Nat × Bool :=
  let n := if e < 0 then num <<< (-e).toNat else num
  let d := if e < 0 then den else den <<< e.toNat
  let q := n / d
  let r := n % d
  (q, decide (d < 2 * r) || (decide (2 * r = d) && q % 2 == 1))

/-- The exponent of the last place of numbers near `num / den`. -/
def lastPlace (num den : Nat) : Int :=
  let guess : Int := (num.log2 : Int) - den.log2 - 52
  let e := if (steps num den guess).1 < leastFull then guess - 1 else guess
  max e (-1074)

/-- The magnitude nearest to `num / den`, an even significand deciding between two; nothing
when it would be 2^1024 or more. -/
def roundQuotient (num den : Nat) : Option Magnitude :=
  let e := lastPlace num den
  let (q, up) := steps num den e
  let q := if up then q + 1 else q
  let m : Magnitude := if q = 2 * leastFull then ⟨leastFull, e + 1⟩ else ⟨q, e⟩
  if m.exponent > 971 then none else some m

namespace Magnitude

/-- Numerator and denominator of a magnitude. -/
def quotient (m : Magnitude) : Nat × Nat :=
  if m.exponent < 0 then (m.significand, 1 <<< (-m.exponent).toNat)
  else (m.significand <<< m.exponent.toNat, 1)

/-- The rounded product. -/
def mul (a b : Magnitude) : Option Magnitude :=
  let (an, ad) := a.quotient
  let (bn, bd) := b.quotient
  roundQuotient (an * bn) (ad * bd)

/-- The rounded quotient. -/
def div (a b : Magnitude) : Option Magnitude :=
  let (an, ad) := a.quotient
  let (bn, bd) := b.quotient
  roundQuotient (an * bd) (ad * bn)

end Magnitude

/-- The largest exponent for which a power of ten is representable. -/
def maxTenExponent : Nat := 308

/-- The magnitude nearest to a power of ten. -/
def tenPower (k : Nat) : Option Magnitude := roundQuotient (Nat.pow 10 k) 1

/-- Divides by `p` so many times, rounding every time, until nothing is left to divide. -/
def divTimes (p : Magnitude) : Nat → Magnitude → Option Magnitude
  | 0, m => some m
  | n + 1, m =>
    if m.significand = 0 then some m
    else
      match m.div p with
      | none => none
      | some m => divTimes p n m

/-- `m / 10 ^ k`, rounded after every division by at most `10 ^ 308`. -/
def shrink (m : Magnitude) (k : Nat) : Option Magnitude := do
  let whole := (k - 1) / maxTenExponent
  let m ← divTimes (← tenPower maxTenExponent) whole m
  m.div (← tenPower (k - whole * maxTenExponent))

/-- The magnitude read from `digits * 10 ^ exponent`; nothing when it is too large. -/
def ofDecimal (digits : Nat) (exponent : Int) : Option Magnitude := do
  let m ← roundQuotient digits 1
  if exponent < 0 then shrink m (-exponent).toNat
  else if exponent.toNat ≤ maxTenExponent then m.mul (← tenPower exponent.toNat)
  else if m.significand = 0 then some m
  else none

/-- Attaches a sign. -/
def ofMagnitude (negative : Bool) (m : Magnitude) : Binary64 :=
  ⟨negative, m.significand, m.exponent⟩

/-- The zero with a sign. -/
def zero (negative : Bool) : Binary64 := ⟨negative, 0, -1074⟩

end Binary64

end Vigil

import Vigil.Decimal.Binary64

/-!
# Shortest decimal text of a floating-point number

Among the decimals that read back as a given number, `shortest` picks one with the fewest
digits, and of those the nearest. `text` writes it positionally with a point when its leading
digit stands between the fifth place after the point and the sixteenth before it, and with an
exponent otherwise.
-/

set_option autoImplicit false

namespace Vigil.Binary64

/-- A decimal `digits * 10 ^ exponent`. -/
structure Decimal where
  digits : Nat
  exponent : Int
  deriving DecidableEq, Repr, Inhabited

/-- The ends of the interval that rounds to a number, in quarters of its last place. -/
def interval (significand : Nat) (exponent : Int) : Nat × Nat :=
  let lo := if significand = leastFull ∧ exponent ≠ -1074 then 4 * significand - 1
    else 4 * significand - 2
  (lo, 4 * significand + 2)

/-- `x * 2 ^ (exponent - 2)` compared on the grid `10 ^ k`: the factors of both sides. -/
def gridFactors (exponent k : Int) : Nat × Nat :=
  let e := exponent - 2
  (Nat.pow 10 k.toNat <<< (-e).toNat, Nat.pow 10 (-k).toNat <<< e.toNat)

/-- Position of the leading decimal digit of `num / den`, for a quotient of at least one. -/
def leadingPlace (num den : Nat) : Int := ((Nat.toDigits 10 (num / den)).length : Int) - 1

/-- Position of the leading decimal digit of a quotient below one, `k` places tried already. -/
def leadingPlaceBelow (num den : Nat) : Nat → Nat → Int
  | 0, k => -(k : Int)
  | fuel + 1, k =>
    if den ≤ num * Nat.pow 10 k then -(k : Int) else leadingPlaceBelow num den fuel (k + 1)

/-- Position of the leading decimal digit of a positive number. -/
def place (significand : Nat) (exponent : Int) : Int :=
  let num := significand <<< exponent.toNat
  let den := 1 <<< (-exponent).toNat
  if den ≤ num then leadingPlace num den else leadingPlaceBelow num den 400 1

/-- A decimal on the grid `10 ^ k` that reads back as the number: the nearer of the two points
around it if both do. -/
def onGrid? (m : Nat) (exponent k : Int) : Option Nat :=
  let (a, b) := gridFactors exponent k
  let (lo, hi) := interval m exponent
  let x := 4 * m * b
  let d := x / a
  let inside (c : Nat) : Bool :=
    if m % 2 = 0 then decide (lo * b ≤ c * a ∧ c * a ≤ hi * b)
    else decide (lo * b < c * a ∧ c * a < hi * b)
  let below := x - d * a
  let above := (d + 1) * a - x
  match inside d, inside (d + 1) with
  | true, true => some (if below < above ∨ (below = above ∧ d % 2 = 0) then d else d + 1)
  | true, false => some d
  | false, true => some (d + 1)
  | false, false => none

/-- The decimal on the first grid that has one, from coarse to fine. -/
def search (significand : Nat) (exponent : Int) (place : Int) : Nat → Nat → Decimal
  | 0, _ => ⟨significand, exponent⟩
  | fuel + 1, n =>
    let k := place - n
    match onGrid? significand exponent k with
    | some d => ⟨d, k⟩
    | none => search significand exponent place fuel (n + 1)

/-- Moves trailing zeros of the digits into the exponent. -/
def stripZeros : Nat → Decimal → Decimal
  | 0, d => d
  | fuel + 1, d =>
    if d.digits ≠ 0 ∧ d.digits % 10 = 0 then stripZeros fuel ⟨d.digits / 10, d.exponent + 1⟩ else d

/-- A decimal with the fewest digits that reads back as the positive number, nearest first. -/
def shortest (significand : Nat) (exponent : Int) : Decimal :=
  stripZeros 20 (search significand exponent (place significand exponent) 18 0)

/-- So many zeros. -/
def zeros (n : Nat) : String := String.ofList (List.replicate n '0')

/-- A decimal as text, positionally or with an exponent. -/
def Decimal.text (d : Decimal) : String :=
  let digits := Nat.toDigits 10 d.digits
  let point : Int := digits.length + d.exponent
  if -5 < point ∧ point ≤ 16 then
    if 0 ≤ d.exponent then String.ofList digits ++ zeros d.exponent.toNat ++ ".0"
    else if 0 < point then
      String.ofList (digits.take point.toNat) ++ "." ++ String.ofList (digits.drop point.toNat)
    else "0." ++ zeros (-point).toNat ++ String.ofList digits
  else
    let e := point - 1
    let fraction := digits.drop 1
    String.ofList (digits.take 1) ++
      (if fraction.isEmpty then "" else "." ++ String.ofList fraction) ++
      (if e < 0 then "e-" else "e+") ++ toString e.natAbs

/-- The shortest text that reads back as the number. -/
def text (b : Binary64) : String :=
  (if b.negative then "-" else "") ++
    (if b.significand = 0 then "0.0" else (shortest b.significand b.exponent).text)

end Vigil.Binary64

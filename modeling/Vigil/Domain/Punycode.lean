/-!
# Labels in ASCII

A label with characters outside ASCII is written as its ASCII characters, a hyphen, and a
series of numbers in digits `a` to `z` and `0` to `9`, which say where the other characters go,
in ascending order. A number is written with its least digit first; how large a digit may be
before the number ends adapts to the numbers before it.
-/

set_option autoImplicit false

namespace Vigil.Domain.Punycode

/-- A digit. -/
def digitChar (d : Nat) : Char :=
  if d < 26 then Char.ofNat (97 + d) else Char.ofNat (22 + d)

/-- The value of a digit in either case. -/
def digitValue? (c : Char) : Option Nat :=
  if c.isLower then some (c.toNat - 97)
  else if c.isUpper then some (c.toNat - 65)
  else if c.isDigit then some (c.toNat - 22)
  else none

/-- The least digit at position `k` that does not end a number: from 1 to 26, the further from
the bias the larger. -/
def leastOpen (k bias : Nat) : Nat := max 1 (min 26 (k - bias))

theorem one_le_leastOpen (k bias : Nat) : 1 ≤ leastOpen k bias := Nat.le_max_left ..

/-- Divides by 35 until the number is small, and counts the positions. -/
def settle (delta k : Nat) : Nat :=
  if 455 < delta then settle (delta / 35) (k + 36) else k + 36 * delta / (delta + 38)
termination_by delta
decreasing_by exact Nat.div_lt_self (by omega) (by omega)

/-- The bias for the number after `delta`, when the text then has `count` characters. -/
def adapt (delta count : Nat) (first : Bool) : Nat :=
  let d := if first then delta / 700 else delta / 2
  settle (d + d / count) 0

/-- The digits of a number, the first of them being at position `k`. -/
def writeNumber (bias k q : Nat) : List Char :=
  let least := leastOpen k bias
  if q < least then [digitChar q]
  else
    digitChar (least + (q - least) % (36 - least)) ::
      writeNumber bias (k + 36) ((q - least) / (36 - least))
termination_by q
decreasing_by
  have := one_le_leastOpen k bias
  have := Nat.div_le_self (q - leastOpen k bias) (36 - leastOpen k bias)
  simp only [least] at *
  omega

/-- What has been written: the digits, the number being counted up, the bias, and how many
characters the digits and the ASCII characters stand for. -/
structure Writing where
  digits : List Char
  delta : Nat
  bias : Nat
  count : Nat

/-- Goes past one character while those with code point `n` are being placed; `basic` is the
number of ASCII characters. -/
def place (basic n : Nat) (w : Writing) (c : Char) : Writing :=
  if c.toNat < n then { w with delta := w.delta + 1 }
  else if c.toNat = n then
    ⟨w.digits ++ writeNumber w.bias 36 w.delta, 0,
      adapt w.delta (w.count + 1) (w.count == basic), w.count + 1⟩
  else w

/-- Places the characters with the given code points, which ascend; `n` is the first code point
not dealt with. -/
def placeAll (label : List Char) (basic : Nat) : List Nat → Nat → Writing → Writing
  | [], _, w => w
  | m :: rest, n, w =>
    let w := { w with delta := w.delta + (m - n) * (w.count + 1) }
    let w := label.foldl (place basic m) w
    placeAll label basic rest (m + 1) { w with delta := w.delta + 1 }

/-- Puts a number where it belongs in an ascending list without repetitions. -/
def insertNumber (x : Nat) : List Nat → List Nat
  | [] => [x]
  | y :: r => if x < y then x :: y :: r else if x = y then y :: r else y :: insertNumber x r

/-- Whether a character is in ASCII. -/
def isAscii (c : Char) : Bool := c.toNat < 128

/-- A label in ASCII. -/
def encode (label : List Char) : List Char :=
  let basic := label.filter isAscii
  let others := (label.filter (!isAscii ·)).foldr (fun c l => insertNumber c.toNat l) []
  let w := placeAll label basic.length others 128 ⟨[], 0, 72, basic.length⟩
  basic ++ (if basic.isEmpty then [] else ['-']) ++ w.digits

/-- Reads a number whose next digit is at position `k` and has the given weight. -/
def readNumber (bias : Nat) : List Char → Nat → Nat → Nat → Option (Nat × List Char)
  | [], _, _, _ => none
  | c :: r, k, weight, n => do
    let d ← digitValue? c
    let n := n + d * weight
    if d < leastOpen k bias then some (n, r)
    else readNumber bias r (k + 36) (weight * (36 - leastOpen k bias)) n

/-- Puts the characters that numbers stand for into a label; `n` is the code point and `i` the
index at which counting goes on. No number may exceed 32 bits. -/
def insertAll (fuel bias n i : Nat) (label digits : List Char) : Option (List Char) :=
  match fuel, digits with
  | _, [] => some label
  | 0, _ => none
  | fuel + 1, digits => do
    let (j, rest) ← readNumber bias digits 36 1 i
    let count := label.length + 1
    let n := n + j / count
    if j < UInt32.size ∧ n.isValidChar then
      insertAll fuel (adapt (j - i) count (i == 0)) n (j % count + 1)
        (label.insertIdx (j % count) (Char.ofNat n)) rest
    else none

/-- The label that a text in ASCII stands for. -/
def decode (text : List Char) : Option (List Char) :=
  let digits := (text.reverse.takeWhile (· != '-')).reverse
  let basic := (text.take (text.length - digits.length)).dropLast
  insertAll (digits.length + 1) 72 128 0 basic digits

end Vigil.Domain.Punycode

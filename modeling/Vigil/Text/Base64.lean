/-!
# Bytes as letters and digits

Three bytes are written as four characters of six bits each. One or two bytes at the end are
filled up with zero bits, and equals signs stand for the characters that are missing.
-/

set_option autoImplicit false

namespace Vigil.Text.Base64

/-- The character for six bits. -/
def digit (n : Nat) : Char :=
  if n < 26 then Char.ofNat (65 + n)
  else if n < 52 then Char.ofNat (71 + n)
  else if n < 62 then Char.ofNat (n - 4)
  else if n = 62 then '+'
  else '/'

/-- The first `count` of the four characters for 24 bits. -/
def digits (count bits : Nat) : List Char :=
  [digit (bits >>> 18 % 64), digit (bits >>> 12 % 64), digit (bits >>> 6 % 64),
    digit (bits % 64)].take count

/-- Bytes as text. -/
def encode : List UInt8 → List Char
  | a :: b :: c :: r => digits 4 (a.toNat <<< 16 + b.toNat <<< 8 + c.toNat) ++ encode r
  | [a, b] => digits 3 (a.toNat <<< 16 + b.toNat <<< 8) ++ ['=']
  | [a] => digits 2 (a.toNat <<< 16) ++ ['=', '=']
  | [] => []

end Vigil.Text.Base64

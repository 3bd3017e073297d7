import Vigil.Text.Utf8

/-!
# Percent-encoding

A byte is written as a percent sign and two hexadecimal digits, in upper case, where the part
of a URL that it is in does not let it stand for itself. Bytes outside ASCII are never left as
they are. Reading accepts digits in either case and leaves alone what is no such triple.
-/

set_option autoImplicit false

namespace Vigil.Percent

/-- A hexadecimal digit in upper case. -/
def hexDigit (n : Nat) : Char :=
  if n < 10 then Char.ofNat (48 + n) else Char.ofNat (55 + n)

/-- The value of a hexadecimal digit in either case. -/
def hexValue? (b : UInt8) : Option UInt8 :=
  if 48 ≤ b && b ≤ 57 then some (b - 48)
  else if 65 ≤ b && b ≤ 70 then some (b - 55)
  else if 97 ≤ b && b ≤ 102 then some (b - 87)
  else none

/-- A byte as a triple. -/
def triple (b : UInt8) : List Char :=
  ['%', hexDigit (b.toNat / 16), hexDigit (b.toNat % 16)]

/-- A set of ASCII characters that have to be encoded. -/
structure EncodeSet where
  /-- Printable characters of the set. -/
  marks : List Char

namespace EncodeSet

/-- Whether a byte has to be encoded: a control character, one outside ASCII, or one of the
set. -/
def has (s : EncodeSet) (b : UInt8) : Bool :=
  b < 32 || 126 < b || s.marks.contains (Char.ofNat b.toNat)

/-- Control characters only. -/
def controls : EncodeSet := ⟨[]⟩

/-- What is encoded in fragments. -/
def fragment : EncodeSet := ⟨[' ', '"', '<', '>', '\x60']⟩

/-- What is encoded in queries. -/
def query : EncodeSet := ⟨[' ', '"', '#', '<', '>']⟩

/-- What is encoded in queries of the schemes of the web. -/
def webQuery : EncodeSet := ⟨'\'' :: query.marks⟩

/-- What is encoded in paths. -/
def path : EncodeSet := ⟨'#' :: '?' :: '{' :: '}' :: fragment.marks⟩

/-- What is encoded in user names and passwords. -/
def userinfo : EncodeSet :=
  ⟨'/' :: ':' :: ';' :: '=' :: '@' :: '[' :: '\\' :: ']' :: '^' :: '|' :: path.marks⟩

end EncodeSet

/-- A byte as it is written. -/
def encodeByte (s : EncodeSet) (b : UInt8) : List Char :=
  if s.has b then triple b else [Char.ofNat b.toNat]

/-- A text as it is written. -/
def encode (s : EncodeSet) (text : List Char) : List Char :=
  (text.flatMap String.utf8EncodeChar).flatMap (encodeByte s)

/-- The bytes that were written. -/
def decode : List UInt8 → List UInt8
  | 37 :: a :: b :: r =>
    match hexValue? a, hexValue? b with
    | some x, some y => (x * 16 + y) :: decode r
    | _, _ => 37 :: decode (a :: b :: r)
  | b :: r => b :: decode r
  | [] => []

/-- The bytes that a text stands for. -/
def decodeText (text : String) : List UInt8 := decode (Text.encode text)

end Vigil.Percent

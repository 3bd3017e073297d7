/-!
# Texts and their UTF-8 bytes

Bodies and documents travel as bytes. `encode` writes a text, `decode?` reads one and refuses
anything that is not well-formed UTF-8. `decodeLossy` reads any bytes; where they are not
UTF-8, it takes as many of them as could begin a character and puts one mark in their place.
-/

set_option autoImplicit false

namespace Vigil.Text

/-- The UTF-8 bytes of a text. -/
def encode (s : String) : List UInt8 :=
  s.toList.flatMap String.utf8EncodeChar

/-- The text with these UTF-8 bytes, if they are well formed. -/
def decode? (bytes : List UInt8) : Option String :=
  String.fromUTF8? (ByteArray.mk bytes.toArray)

/-- For the first byte of a character, the range of the second byte, and how many bytes follow
that one. -/
def following? (b : UInt8) : Option (UInt8 × UInt8 × Nat) :=
  if 0xC2 ≤ b && b ≤ 0xDF then some (0x80, 0xBF, 0)
  else if b = 0xE0 then some (0xA0, 0xBF, 1)
  else if b = 0xED then some (0x80, 0x9F, 1)
  else if 0xE1 ≤ b && b ≤ 0xEF then some (0x80, 0xBF, 1)
  else if b = 0xF0 then some (0x90, 0xBF, 2)
  else if 0xF1 ≤ b && b ≤ 0xF3 then some (0x80, 0xBF, 2)
  else if b = 0xF4 then some (0x80, 0x8F, 2)
  else none

/-- The bytes behind the first that belong to the same character, as far as they go. -/
def continuation (first : UInt8) (rest : List UInt8) : List UInt8 :=
  match following? first, rest with
  | some (low, high, more), b :: r =>
    if low ≤ b && b ≤ high then
      b :: (r.take more).takeWhile fun c => 0x80 ≤ c && c ≤ 0xBF
    else []
  | _, _ => []

/-- The character at the beginning of some bytes, or the mark for what is none. -/
def leadingChar (first : UInt8) (rest : List UInt8) : Char :=
  match decode? (first :: continuation first rest) with
  | some s => s.toList.headD '\uFFFD'
  | none => '\uFFFD'

/-- The characters that bytes stand for. -/
def lossyChars : List UInt8 → List Char
  | [] => []
  | b :: r =>
    leadingChar b r :: lossyChars (r.drop (continuation b r).length)
termination_by bytes => bytes.length
decreasing_by
  simp only [List.length_drop, List.length_cons]
  omega

/-- The text that bytes stand for, with marks in place of what is not UTF-8. -/
def decodeLossy (bytes : List UInt8) : String := String.ofList (lossyChars bytes)

end Vigil.Text

import Vigil.Json.Error
import Vigil.Text.Utf8

/-!
# Reading the tokens of JSON

A reader takes a value off the front of a document and leaves the cursor behind it, or stops
at the first error. Faults are reported either behind the bytes read so far (`fail`) or one
byte further, at the byte that was looked at (`failPeek`). Numbers, strings and literals are
read here; how values nest is left to the modules that build on this one.
-/

set_option autoImplicit false

namespace Vigil.Json

/-- Reads a value off the front of a document. -/
abbrev Reader (α : Type) := StateT Cursor (Except Error) α

namespace Reader

variable {α : Type}

/-- Stops with a fault behind what has been read. -/
def fail (f : Fault) : Reader α := fun c => .error (.syntactic f c.line c.column)

/-- Stops with a fault at the next byte. -/
def failPeek (f : Fault) : Reader α := fun c =>
  .error (.syntactic f c.ahead.line c.ahead.column)

/-- Stops because the value is not of the type wanted. -/
def mismatch (m : Mismatch) : Reader α := fun c => .error (.mismatch m c.line c.column)

/-- Stops because the value behind which the cursor is turns out not to be of the type wanted.
This is reported where the brackets around it end. -/
def mismatchBehind (m : Mismatch) : Reader α := fun c => .error (.unplaced m c)

/-- Reads with `reader`; a mismatch without a place is reported where `ending` leads to from
the value that does not match. -/
def placing (ending : Cursor → Cursor) (reader : Reader α) : Reader α := fun c =>
  match reader c with
  | .error (.unplaced m behind) =>
    .error (.mismatch m (ending behind).line (ending behind).column)
  | r => r

/-- The next byte, left where it is. -/
def peek? : Reader (Option UInt8) := fun c => .ok (c.rest.head?, c)

/-- Takes the next byte. -/
def next? : Reader (Option UInt8) := fun c =>
  match c.rest with
  | [] => .ok (none, c)
  | b :: r => .ok (some b, c.past b r)

/-- Passes the next byte. -/
def advance : Reader Unit := fun c => .ok ((), c.ahead)

/-- Passes blanks and looks at the next byte. -/
def token? : Reader (Option UInt8) := fun c =>
  let c := Cursor.skipBlanks c.line c.column c.rest
  .ok (c.rest.head?, c)

/-- The number of bytes left. -/
def left : Reader Nat := fun c => .ok (c.rest.length, c)

/-- Whether a byte is a decimal digit. -/
def isDigit (b : UInt8) : Bool := 48 ≤ b && b ≤ 57

/-- The value of a decimal digit. -/
def digit (b : UInt8) : Nat := b.toNat - 48

/-- Takes the digits that come next. -/
def digits : Reader (List UInt8) := fun c =>
  let ds := c.rest.takeWhile isDigit
  .ok (ds, ⟨c.line, c.column + ds.length, c.rest.dropWhile isDigit⟩)

/-- Passes the bytes of a literal after its first. -/
def literal : List UInt8 → Reader Unit
  | [] => pure ()
  | b :: r => do
    match ← next? with
    | none => fail .endInValue
    | some x => if x = b then literal r else fail .literalExpected

/-- The bytes of `ull`, `rue` and `alse`. -/
def nullTail : List UInt8 := [117, 108, 108]

@[inherit_doc nullTail] def trueTail : List UInt8 := [114, 117, 101]

@[inherit_doc nullTail] def falseTail : List UInt8 := [97, 108, 115, 101]

/-! ## Numbers -/

/-- The digits of a numeral that were kept, their power of ten, and how the numeral goes on. -/
structure Numeral where
  digits : Nat
  exponent : Int
  deriving DecidableEq, Repr

/-- The float of a numeral. -/
def float (negative : Bool) (n : Numeral) : Reader Number :=
  match Binary64.ofDecimal n.digits n.exponent with
  | some m => pure (.float (.ofMagnitude negative m))
  | none => fail .numberOutOfRange

/-- Takes the digits of an exponent, up to the one that takes it over 31 bits. -/
def exponentDigits : List UInt8 → Nat → Nat → Except Nat (Nat × Nat)
  | [], n, used => .ok (n, used)
  | b :: r, n, used =>
    if isDigit b then
      if n * 10 + digit b < 0x80000000 then exponentDigits r (n * 10 + digit b) (used + 1)
      else .error (used + 1)
    else .ok (n, used)

/-- Passes `k` bytes of one line. -/
def skip (k : Nat) : Reader Unit := fun c => .ok ((), ⟨c.line, c.column + k, c.rest.drop k⟩)

/-- Reads an exponent, the cursor being on its letter, and gives the float. -/
def exponentPart (negative : Bool) (n : Numeral) : Reader Number := do
  advance
  let down ← match ← peek? with
    | some 43 => do advance; pure false
    | some 45 => do advance; pure true
    | _ => pure false
  match ← next? with
  | none => fail .endInValue
  | some b =>
    if isDigit b then
      let c ← get
      match exponentDigits c.rest (digit b) 0 with
      | .ok (e, used) => do
        skip used
        float negative ⟨n.digits, if down then n.exponent - e else n.exponent + e⟩
      | .error used => do
        skip used
        if n.digits ≠ 0 ∧ ¬ down then fail .numberOutOfRange
        else do
          let _ ← digits
          pure (.float (.zero negative))
    else fail .invalidNumber

/-- Adds digits to a count kept in 64 bits, up to the one that does not fit; gives the count
and how many digits it took. -/
def keepDigits : List UInt8 → Nat → Nat → Nat × Nat
  | [], n, used => (n, used)
  | b :: r, n, used =>
    if n * 10 + digit b < UInt64.size then keepDigits r (n * 10 + digit b) (used + 1) else (n, used)

/-- Goes on behind the digits of a float: an exponent, or its end. -/
def floatEnd (negative : Bool) (n : Numeral) : Reader Number := do
  match ← peek? with
  | some 101 | some 69 => exponentPart negative n
  | _ => float negative n

/-- Reads the digits after the point, the cursor being on the point. -/
def decimalPart (negative : Bool) (n : Numeral) : Reader Number := do
  advance
  let ds ← digits
  if ds.isEmpty then
    match ← peek? with
    | some _ => failPeek .invalidNumber
    | none => fail .endInValue
  else
    let (significand, used) := keepDigits ds n.digits 0
    floatEnd negative ⟨significand, n.exponent - used⟩

/-- Reads what follows the whole digits of a number: a point, an exponent, or its end. -/
def numberEnd (negative : Bool) (n : Numeral) : Reader Number := do
  match ← peek? with
  | some 46 => decimalPart negative n
  | some 101 | some 69 => exponentPart negative n
  | _ =>
    if n.exponent ≠ 0 then float negative n
    else if negative then
      if n.digits = 0 ∨ 0x8000000000000000 < n.digits then float true n
      else pure (.int (-(n.digits : Int)))
    else pure (.int n.digits)

/-- Reads a number behind its sign. -/
def number (negative : Bool) : Reader Number := do
  match ← next? with
  | none => fail .endInValue
  | some b =>
    if b = 48 then
      match ← peek? with
      | some d => if isDigit d then failPeek .invalidNumber else numberEnd negative ⟨0, 0⟩
      | none => numberEnd negative ⟨0, 0⟩
    else if isDigit b then
      let ds ← digits
      let (significand, used) := keepDigits ds (digit b) 0
      numberEnd negative ⟨significand, (ds.length : Int) - used⟩
    else fail .invalidNumber

/-! ## Strings -/

/-- The value of a hexadecimal digit. -/
def hexValue? (b : UInt8) : Option Nat :=
  if isDigit b then some (digit b)
  else if 97 ≤ b ∧ b ≤ 102 then some (b.toNat - 87)
  else if 65 ≤ b ∧ b ≤ 70 then some (b.toNat - 55)
  else none

/-- Takes the four digits of an escaped code unit. -/
def codeUnit : Reader Nat := fun c =>
  match c.rest with
  | a :: b :: d :: e :: r =>
    let behind := (((c.past a r).past b r).past d r).past e r
    match hexValue? a, hexValue? b, hexValue? d, hexValue? e with
    | some w, some x, some y, some z => .ok (((w * 16 + x) * 16 + y) * 16 + z, behind)
    | _, _, _, _ => fail .invalidEscape behind
  | r =>
    let behind := r.foldl (fun c b => c.past b []) c
    fail .endInString behind

/-- The UTF-8 bytes of a code point. -/
def codePointBytes (n : Nat) : List UInt8 := String.utf8EncodeChar (Char.ofNat n)

/-- The bytes of an escaped code point, the cursor being behind `\u`. -/
def unicodeEscape : Reader (List UInt8) := do
  let n ← codeUnit
  if 0xDC00 ≤ n ∧ n ≤ 0xDFFF then fail .loneSurrogate
  else if 0xD800 ≤ n ∧ n ≤ 0xDBFF then
    match ← next? with
    | none => fail .endInString
    | some b =>
      if b ≠ 92 then fail .endOfSurrogatePair
      else
        match ← next? with
        | none => fail .endInString
        | some u =>
          if u ≠ 117 then fail .endOfSurrogatePair
          else
            let m ← codeUnit
            if 0xDC00 ≤ m ∧ m ≤ 0xDFFF then
              pure (codePointBytes (0x10000 + (n - 0xD800) * 1024 + (m - 0xDC00)))
            else fail .loneSurrogate
  else pure (codePointBytes n)

/-- The byte that a letter behind a backslash stands for. -/
def escapedByte? (b : UInt8) : Option UInt8 :=
  if b = 34 ∨ b = 92 ∨ b = 47 then some b
  else if b = 98 then some 8
  else if b = 102 then some 12
  else if b = 110 then some 10
  else if b = 114 then some 13
  else if b = 116 then some 9
  else none

/-- The bytes of an escape, the cursor being behind the backslash. -/
def escape : Reader (List UInt8) := do
  match ← next? with
  | none => fail .endInString
  | some b =>
    if b = 117 then unicodeEscape
    else
      match escapedByte? b with
      | some x => pure [x]
      | none => fail .invalidEscape

/-- Takes the bytes of a string up to its closing quotation mark, which is left where it is;
`acc` holds those read, backwards. -/
def stringBytes : Nat → List UInt8 → Reader (List UInt8)
  | 0, _ => fail .endInString
  | fuel + 1, acc => do
    match ← peek? with
    | none => fail .endInString
    | some b =>
      if b = 34 then pure acc.reverse
      else do
        advance
        if b = 92 then do
          let bytes ← escape
          stringBytes fuel (bytes.reverse ++ acc)
        else if b < 32 then fail .controlCharacter
        else stringBytes fuel (b :: acc)

/-- Reads a string behind its opening quotation mark. Whether the bytes are UTF-8 shows at the
closing one. -/
def string : Reader String := do
  let bytes ← stringBytes ((← left) + 1) []
  match Text.decode? bytes with
  | some s => do
    advance
    pure s
  | none => fail .invalidCodePoint

end Reader

end Vigil.Json

import Vigil.Url.Fault

/-!
# Internet addresses

An address of the older kind is a number of 32 bits, written as up to four numbers with dots
between them, in decimal, octal or hexadecimal digits; the last of them takes all the bits that
the others leave. An address of the newer kind has eight pieces of 16 bits, written in
hexadecimal with colons between them; the longest run of zero pieces is left out.
-/

set_option autoImplicit false

namespace Vigil.Address

/-- The value of a digit up to `f` in either case. -/
def digitValue? (c : Char) : Option Nat :=
  if c.isDigit then some (c.toNat - 48)
  else if 'a' ≤ c ∧ c ≤ 'f' then some (c.toNat - 87)
  else if 'A' ≤ c ∧ c ≤ 'F' then some (c.toNat - 55)
  else none

/-- The number that digits to a base spell. -/
def number? (base : Nat) (digits : List Char) : Option Nat :=
  digits.foldlM (fun n c =>
    (digitValue? c).bind fun d => if d < base then some (n * base + d) else none) 0

/-- Cuts a text at a mark. -/
def splitAt (mark : Char) : List Char → List (List Char)
  | [] => [[]]
  | c :: r =>
    if c = mark then [] :: splitAt mark r
    else
      match splitAt mark r with
      | [] => [[c]]
      | l :: ls => (c :: l) :: ls

/-- A number between dots: in hexadecimal behind `0x`, in octal behind a zero, else in
decimal. -/
def part? : List Char → Option Nat
  | [] => none
  | '0' :: 'x' :: r | '0' :: 'X' :: r => number? 16 r
  | ['0'] => some 0
  | '0' :: r => number? 8 r
  | r => number? 10 r

/-- The parts of a host between dots, without an empty one at its end. -/
def parts (host : List Char) : List (List Char) :=
  let ps := splitAt '.' host
  if ps.getLast? = some [] ∧ 2 ≤ ps.length then ps.dropLast else ps

/-- Whether a host has to be an address, because its last part is a number. -/
def endsInNumber (host : List Char) : Bool :=
  match (parts host).getLast? with
  | none => false
  | some l => (!l.isEmpty && l.all Char.isDigit) || (part? l).isSome

/-- The number that parts stand for, of which `left` more may follow; only the last may exceed a
byte. -/
def combine : Nat → List Nat → Option Nat
  | _, [] => none
  | left, [n] => if n < Nat.pow 256 (left + 1) then some n else none
  | 0, _ => none
  | left + 1, n :: r =>
    if n < 256 then (combine left r).map (n * Nat.pow 256 (left + 1) + ·) else none

/-- The address that a host ending in a number is. -/
def readV4 (host : List Char) : Option Nat := do
  combine 3 (← (parts host).mapM part?)

/-- An address of the older kind in text. -/
def textV4 (n : Nat) : String :=
  ".".intercalate ([n >>> 24, n >>> 16, n >>> 8, n].map fun k => toString (k % 256))

/-- A piece of up to four hexadecimal digits. -/
def piece? (digits : List Char) : Option Nat :=
  if digits.isEmpty || 4 < digits.length then none else number? 16 digits

/-- A byte in decimal without a leading zero. -/
def byte? (digits : List Char) : Option Nat :=
  if digits.isEmpty || (digits.head? = some '0' && digits.length ≠ 1) || !digits.all Char.isDigit
  then none
  else (number? 10 digits).bind fun n => if n < 256 then some n else none

/-- Two pieces written like an address of the older kind. -/
def dottedPieces? (text : List Char) : Option (List Nat) := do
  match ← (splitAt '.' text).mapM byte? with
  | [a, b, c, d] => some [a * 256 + b, c * 256 + d]
  | _ => none

/-- The pieces between colons; the last two may be written with dots. -/
def pieces? : List (List Char) → Option (List Nat)
  | [] => some []
  | [l] => if l.contains '.' then dottedPieces? l else (piece? l).map ([·])
  | l :: r => do return (← piece? l) :: (← pieces? r)

/-- The pieces of one side of a double colon. -/
def side? (text : List Char) : Option (List Nat) :=
  if text.isEmpty then some [] else pieces? (splitAt ':' text)

/-- Cuts a text at its first double colon. -/
def cutDouble? : List Char → Option (List Char × List Char)
  | ':' :: ':' :: r => some ([], r)
  | c :: r => (cutDouble? r).map fun p => (c :: p.1, p.2)
  | [] => none

/-- The eight pieces of an address; a double colon stands for one or more zero pieces. -/
def readV6 (text : List Char) : Option (List Nat) :=
  match cutDouble? text with
  | none => do
    let ps ← side? text
    if ps.length = 8 then some ps else none
  | some (before, after) => do
    if before.contains '.' then none
    let front ← side? before
    let back ← side? after
    let n := front.length + back.length
    if n ≤ 7 then some (front ++ List.replicate (8 - n) 0 ++ back) else none

/-- A number in hexadecimal digits in lower case. -/
def hexText (n : Nat) : String := String.ofList (Nat.toDigits 16 n)

/-- The run of zeros that begins at index `i`. -/
def zerosAt (ps : List Nat) (i : Nat) : Nat := ((ps.drop i).takeWhile (· == 0)).length

/-- Where the first of the longest runs of zeros begins, and how long it is; a single zero is
no run. -/
def longestZeros (ps : List Nat) : Option (Nat × Nat) :=
  (List.range ps.length).foldl (fun best i =>
    let n := zerosAt ps i
    match best with
    | none => if 2 ≤ n then some (i, n) else none
    | some (_, m) => if m < n then some (i, n) else best) none

/-- Pieces with colons between them. -/
def joinPieces (ps : List Nat) : String := ":".intercalate (ps.map hexText)

/-- An address of the newer kind in text. -/
def textV6 (ps : List Nat) : String :=
  match longestZeros ps with
  | none => joinPieces ps
  | some (i, n) => joinPieces (ps.take i) ++ "::" ++ joinPieces (ps.drop (i + n))

end Vigil.Address

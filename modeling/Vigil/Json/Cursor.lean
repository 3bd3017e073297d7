/-!
# Places in a document

A document is read byte by byte. Lines count from one, and columns are the bytes of the line
that have been read.
-/

set_option autoImplicit false

namespace Vigil.Json

/-- A place in a document: how far it has been read, and what is left. -/
structure Cursor where
  line : Nat
  column : Nat
  rest : List UInt8
  deriving DecidableEq, Repr

namespace Cursor

/-- The start of a document. -/
def start (bytes : List UInt8) : Cursor := ⟨1, 0, bytes⟩

/-- Behind one byte. -/
def past (c : Cursor) (b : UInt8) (rest : List UInt8) : Cursor :=
  if b = 10 then ⟨c.line + 1, 0, rest⟩ else ⟨c.line, c.column + 1, rest⟩

/-- One byte further, or here at the end. -/
def ahead (c : Cursor) : Cursor :=
  match c.rest with
  | [] => c
  | b :: r => c.past b r

/-- The blanks that JSON allows between tokens. -/
def isBlank (b : UInt8) : Bool := b = 32 || b = 10 || b = 9 || b = 13

/-- Behind the blanks of `bytes`, which are what is left. -/
def skipBlanks (line column : Nat) : List UInt8 → Cursor
  | [] => ⟨line, column, []⟩
  | b :: r =>
    if isBlank b then
      if b = 10 then skipBlanks (line + 1) 0 r else skipBlanks line (column + 1) r
    else ⟨line, column, b :: r⟩

/-- Behind the blanks that come next. -/
def pastBlanks (c : Cursor) : Cursor := skipBlanks c.line c.column c.rest

/-- Behind the brace that comes next, if one does. -/
def pastBrace (c : Cursor) : Cursor :=
  match c.pastBlanks.rest with
  | 125 :: _ => c.pastBlanks.ahead
  | _ => c.pastBlanks

/-- Behind the bracket or the comma that comes next, if one does. -/
def pastBracket (c : Cursor) : Cursor :=
  match c.pastBlanks.rest with
  | 93 :: _ => c.pastBlanks.ahead
  | 44 :: _ => c.pastBlanks.ahead.pastBlanks
  | _ => c.pastBlanks

end Cursor

end Vigil.Json

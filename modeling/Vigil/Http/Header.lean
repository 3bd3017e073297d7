import Vigil.Text.Utf8

/-!
# Header fields

Names and values as they may occur in a request or a response. Names are kept in lower case.
-/

set_option autoImplicit false

namespace Vigil

/-- A header field: its name in lower case, and its value. -/
structure Header where
  name : String
  value : String
  deriving DecidableEq, Repr, Inhabited

namespace Header

/-- Characters of header names. -/
def isNameChar (c : Char) : Bool :=
  c.isAlphanum || ['!', '#', '$', '%', '&', '\'', '*', '+', '-', '.', '^', '_', '\x60', '|',
    '~'].contains c

/-- Whether a text may be the name of a header. -/
def isName (s : String) : Bool :=
  !s.isEmpty && s.toList.all isNameChar && s.toList.length < UInt16.size

/-- Bytes of header values: no control characters other than the tab. -/
def isValueByte (b : UInt8) : Bool := b = 9 || (32 ≤ b && b ≠ 127)

/-- Whether a text may be the value of a header. -/
def isValue (s : String) : Bool := (Text.encode s).all isValueByte

/-- A name in lower case. -/
def lowerName (s : String) : String := String.ofList (s.toList.map Char.toLower)

end Header

/-- Whether a header of this name, in lower case, is among some headers. -/
def hasHeader (headers : List Header) (name : String) : Bool :=
  headers.any fun h => h.name == name

end Vigil

import Vigil.Text.Utf8

/-!
# Responses

A response as it is kept for the rules of a request: the status, the headers in the order in
which they came, and the bytes of the body. Header names are compared without regard to the
case of ASCII letters; of several headers with one name the first is found.
-/

set_option autoImplicit false

namespace Vigil

/-- Whether two names are the same up to the case of ASCII letters. -/
def sameName (a b : String) : Bool :=
  a.toList.map Char.toLower == b.toList.map Char.toLower

/-- A response whose body has come in full. -/
structure Response where
  status : UInt16 := 200
  /-- Names and values in the order in which they came. -/
  headers : List (String × String) := []
  body : List UInt8 := []
  deriving DecidableEq, Repr, Inhabited

namespace Response

/-- The first value of the header called `name`. -/
def header? (r : Response) (name : String) : Option String :=
  (r.headers.find? fun h => sameName h.1 name).map (·.2)

/-- The body as text, if it is well-formed UTF-8. -/
def text? (r : Response) : Option String := Text.decode? r.body

end Response

end Vigil

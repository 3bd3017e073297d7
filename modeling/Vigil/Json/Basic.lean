import Vigil.Decimal.Shortest

/-!
# JSON values

A JSON number is a whole number that fits 64 bits, signed or unsigned, or else a binary64
number. An object is the list of its members; `Json.member` puts a member where its name
belongs in code point order and replaces an earlier one of that name, so objects built with it
do not depend on the order in which members came.
-/

set_option autoImplicit false

namespace Vigil

/-- A number of a JSON document. -/
inductive Json.Number where
  | int (value : Int)
  | float (value : Binary64)
  deriving DecidableEq, Repr, Inhabited

/-- A JSON value. -/
inductive Json where
  | null
  | bool (value : Bool)
  | number (value : Json.Number)
  | string (value : String)
  | array (items : List Json)
  | object (members : List (String × Json))
  deriving Repr, Inhabited

namespace Json

/-- A whole number as a JSON value. -/
def nat (n : Nat) : Json := .number (.int n)

/-- An array of texts. -/
def texts (xs : List String) : Json := .array (xs.map .string)

/-- Puts a member where its name belongs, in place of an earlier one of that name. -/
def member (name : String) (value : Json) : List (String × Json) → List (String × Json)
  | [] => [(name, value)]
  | m :: r =>
    if name < m.1 then (name, value) :: m :: r
    else if name = m.1 then (name, value) :: r
    else m :: member name value r

/-- The member of an object called `name`. -/
def field? (name : String) : Json → Option Json
  | .object ms => (ms.find? fun m => m.1 == name).map (·.2)
  | _ => none

/-- The item of an array at an index counted from zero. -/
def item? (index : Nat) : Json → Option Json
  | .array items => items[index]?
  | _ => none

end Json

end Vigil

/-!
# HTTP methods

The seven methods a request may use. A method is recognised by its name in any case. Case is
undone by writing each character in upper case; besides the ASCII letters there are ten
characters whose upper-case form consists of ASCII letters, such as the long s, and they count
as those letters.
-/

set_option autoImplicit false

namespace Vigil

/-- The methods a request may use. -/
inductive Method where
  | get | post | put | delete | patch | options | head
  deriving DecidableEq, Repr, Inhabited

namespace Method

/-- All methods. -/
def all : List Method := [.get, .post, .put, .delete, .patch, .options, .head]

/-- The name of a method. -/
def name : Method → String
  | .get => "GET"
  | .post => "POST"
  | .put => "PUT"
  | .delete => "DELETE"
  | .patch => "PATCH"
  | .options => "OPTIONS"
  | .head => "HEAD"

/-- The upper-case form of a character whose upper-case form consists of ASCII letters; any
other character as it is. -/
def upper (c : Char) : List Char :=
  if c = 'ß' then ['S', 'S']
  else if c = 'ı' then ['I']
  else if c = 'ſ' then ['S']
  else if c = 'ﬀ' then ['F', 'F']
  else if c = 'ﬁ' then ['F', 'I']
  else if c = 'ﬂ' then ['F', 'L']
  else if c = 'ﬃ' then ['F', 'F', 'I']
  else if c = 'ﬄ' then ['F', 'F', 'L']
  else if c = 'ﬅ' then ['S', 'T']
  else if c = 'ﬆ' then ['S', 'T']
  else [c.toUpper]

/-- The method with this name, in any case. -/
def ofName? (s : String) : Option Method :=
  all.find? fun m => m.name.toList == s.toList.flatMap upper

theorem ofName?_name (m : Method) : ofName? m.name = some m := by
  cases m <;> decide

end Method

end Vigil

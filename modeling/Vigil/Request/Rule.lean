/-!
# Extraction rules

A rule names a variable and says which part of a response its value is.
-/

set_option autoImplicit false

namespace Vigil

/-- The part of a response that a rule takes. -/
inductive Source where
  /-- The first value of a header. -/
  | header (name : String)
  /-- The value at a path into a JSON body. -/
  | jsonPath (path : String)
  /-- What the first group of a pattern matches in the body, or the whole match if the pattern
  has no groups. -/
  | regex (pattern : String)
  /-- The status code. -/
  | status
  deriving DecidableEq, Repr, Inhabited

/-- How to take one variable out of a response. -/
structure Rule where
  /-- The name of the variable. -/
  name : String
  source : Source
  deriving DecidableEq, Repr, Inhabited

end Vigil

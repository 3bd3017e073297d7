import Vigil.Json.Error

/-!
# Why a rule yields no value
-/

set_option autoImplicit false

namespace Vigil

/-- Why a rule yields no value for a response. -/
inductive ExtractionFault where
  | headerMissing (name : String)
  | bodyNotJson (error : Json.Error)
  | fieldMissing (name : String)
  | indexOutOfBounds (index : Nat)
  /-- The text between the brackets of a path is no index. -/
  | invalidIndex (text : String)
  | bodyNotText
  | noMatch (pattern : String)
  /-- The pattern matches, but its first group takes no part in the match. -/
  | nothingCaptured (pattern : String)
  /-- A reason in the words of whoever gives it. -/
  | other (words : String)
  deriving DecidableEq, Repr

namespace ExtractionFault

/-- The wording of a fault. -/
def message : ExtractionFault → String
  | .headerMissing name => "header '" ++ name ++ "' not found"
  | .bodyNotJson e => "failed to parse JSON response: " ++ e.message
  | .fieldMissing name => "field '" ++ name ++ "' not found in JSON"
  | .indexOutOfBounds i => "array index " ++ toString i ++ " out of bounds"
  | .invalidIndex text => "invalid array index '" ++ text ++ "'"
  | .bodyNotText => "response body is not valid UTF-8"
  | .noMatch p => "pattern '" ++ p ++ "' did not match"
  | .nothingCaptured p => "pattern '" ++ p ++ "' captured nothing"
  | .other words => words

end ExtractionFault

end Vigil

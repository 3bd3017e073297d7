import Vigil.Method
import Vigil.Ordered.Dict
import Vigil.Request.Rule
import Vigil.Request.StatusCodes
import Vigil.Template

/-!
# Request specifications

One step of a chain: what to send, with slots for variables in the URL, the body, the header
values and the query values; which status codes are good; and which variables to take out of
the response.
-/

set_option autoImplicit false

namespace Vigil

/-- One step of a chain. -/
structure RequestSpec where
  name : String
  method : Method := .get
  /-- Template of the URL. -/
  url : String
  /-- Templates of header values, by header name. -/
  headers : Dict (List String) := .empty
  /-- Template of the body; an empty body is not sent. -/
  body : String := ""
  /-- Templates of query values, by key. -/
  query : Dict (List String) := .empty
  /-- The status codes that count as success. -/
  accepted : StatusCodes := .single 200
  /-- The time allowed, as people write durations; the client's default if absent. -/
  timeout : Option String := none
  /-- The variables to take out of the response, in order. -/
  rules : List Rule := []
  deriving DecidableEq, Inhabited

namespace RequestSpec

/-- Adds a header value. -/
def withHeader (s : RequestSpec) (name value : String) : RequestSpec :=
  { s with headers := s.headers.append name value }

/-- Adds a query value. -/
def withQuery (s : RequestSpec) (key value : String) : RequestSpec :=
  { s with query := s.query.append key value }

/-- Sets the body. -/
def withBody (s : RequestSpec) (body : String) : RequestSpec := { s with body := body }

/-- Sets the time allowed. -/
def withTimeout (s : RequestSpec) (timeout : String) : RequestSpec :=
  { s with timeout := some timeout }

/-- Sets the status codes that count as success. -/
def expecting (s : RequestSpec) (codes : List UInt16) : RequestSpec :=
  { s with accepted := .ofList codes }

/-- Adds an extraction rule. -/
def extracting (s : RequestSpec) (rule : Rule) : RequestSpec :=
  { s with rules := s.rules ++ [rule] }

/-- Whether a status code counts as success. -/
def accepts (s : RequestSpec) (status : UInt16) : Bool := s.accepted.contains status

/-- The templates that are filled in when the request is built. -/
def templates (s : RequestSpec) : List String :=
  s.url :: s.body :: (s.headers.values.flatten ++ s.query.values.flatten)

/-- Puts a name where it belongs in an ascending list without repetitions. -/
def insertName (n : String) : List String → List String
  | [] => [n]
  | m :: r => if n < m then n :: m :: r else if n = m then m :: r else m :: insertName n r

/-- The names of the slots in the templates, ascending and each once. -/
def slotNames (s : RequestSpec) : List String :=
  (s.templates.flatMap Template.names).foldl (fun l n => insertName n l) []

end RequestSpec

end Vigil

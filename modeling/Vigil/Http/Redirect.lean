import Vigil.Http.Server
import Vigil.Text.Utf8
import Vigil.Url.Reader

/-!
# Redirects

An answer can send a client to another place. The message for that place is the one before,
less what no longer fits: after some status codes the body and the headers that describe it,
and whenever host or port change the headers that are meant for one host only.
-/

set_option autoImplicit false

namespace Vigil

namespace Url

/-- Whether HTTP is the way to the place. -/
def isHttp (u : Url) : Bool := u.scheme == "http" || u.scheme == "https"

/-- Characters of hosts that cannot be written into a request. -/
def isUnwritable (c : Char) : Bool := c == '"' || c == '\x60' || c == '\x7b' || c == '\x7d'

/-- Whether a URL of HTTP can be written into a request: its host has no unwritable characters,
and it is not too long. -/
def isWritable (u : Url) : Bool :=
  !u.host.text.toList.any isUnwritable && u.text.utf8ByteSize ≤ 65534

end Url

namespace Answer

/-- What a redirect does with the body of a message. -/
inductive Redirect where
  /-- The body is not sent again, and the method becomes GET unless it asks for no more. -/
  | withoutBody
  | withBody
  deriving DecidableEq, Repr

/-- The redirect that a status code stands for. -/
def redirect? (a : Answer) : Option Redirect :=
  if a.status = 301 ∨ a.status = 302 ∨ a.status = 303 then some .withoutBody
  else if a.status = 307 ∨ a.status = 308 then some .withBody
  else none

/-- The place that an answer to a message for `current` sends the client to. -/
def target? (a : Answer) (current : Url) : Option Url := do
  let location ← Text.decode? (← a.header? "location")
  match current.join location with
  | .ok u => if u.isWritable then some u else none
  | .error _ => none

end Answer

namespace Message

/-- A message without the headers of the given names. -/
def withoutHeaders (m : Message) (names : List String) : Message :=
  { m with headers := m.headers.filter fun h => !names.contains h.name }

/-- The headers that describe a body. -/
def bodyHeaders : List String :=
  ["transfer-encoding", "content-encoding", "content-type", "content-length"]

/-- The headers that are meant for one host only. -/
def hostHeaders : List String :=
  ["authorization", "cookie", "cookie2", "proxy-authorization", "www-authenticate"]

/-- A message without its body; unless it only asks for something, it becomes a GET. -/
def dropBody (m : Message) : Message :=
  { m.withoutHeaders bodyHeaders with
    body := none
    method := if m.method = .get ∨ m.method = .head then m.method else .get }

/-- The header that tells the next place where the client comes from, unless that was over a
safer connection. -/
def referer? (current next : Url) : Option Header :=
  if next.scheme = "http" ∧ current.scheme = "https" then none
  else some ⟨"referer", (current.withoutCredentials.withoutFragment).text⟩

/-- A message with a header in the place of those with its name. -/
def withHeader (m : Message) (h : Header) : Message :=
  { m with headers := (m.withoutHeaders [h.name]).headers ++ [h] }

/-- Whether two URLs differ in host or port. -/
def changesHost (current next : Url) : Bool :=
  current.host != next.host || current.port? != next.port?

/-- The message for the next place. -/
def redirected (m : Message) (r : Answer.Redirect) (next : Url) : Message :=
  let m' := match r with
    | .withoutBody => m.dropBody
    | .withBody => m
  let m' := match referer? m.url next with
    | some h => m'.withHeader h
    | none => m'
  let m' := if changesHost m.url next then m'.withoutHeaders hostHeaders else m'
  { m' with url := next }

end Message

end Vigil

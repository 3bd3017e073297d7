import Vigil.Url.Host

/-!
# URLs

An absolute URL in its parts. The parts are kept as they are written in the URL, that is with
percent-encoding, and `Url.text` only puts them together.
-/

set_option autoImplicit false

namespace Vigil

/-- The schemes that URLs are treated by. -/
inductive SchemeKind where
  /-- The schemes of the web, whose URLs always have a host. -/
  | web
  | file
  | other
  deriving DecidableEq, Repr

/-- Who is asked for a resource: credentials, host and port. -/
structure Authority where
  username : String := ""
  password : Option String := none
  host : Host
  /-- The port, unless it is the default of the scheme. -/
  port : Option Nat := none
  deriving DecidableEq, Repr, Inhabited

/-- The path of a URL. -/
inductive UrlPath where
  /-- Text without structure. -/
  | plain (text : String)
  /-- Segments, each with a slash in front. -/
  | segments (list : List String)
  deriving DecidableEq, Repr, Inhabited

/-- An absolute URL. -/
structure Url where
  scheme : String
  authority : Option Authority
  path : UrlPath
  query : Option String := none
  fragment : Option String := none
  deriving DecidableEq, Repr, Inhabited

/-- The kind of a scheme. -/
def SchemeKind.of (scheme : String) : SchemeKind :=
  if ["http", "https", "ws", "wss", "ftp"].contains scheme then .web
  else if scheme = "file" then .file
  else .other

/-- The port that a scheme has when none is given. -/
def defaultPort? (scheme : String) : Option Nat :=
  if scheme = "http" ∨ scheme = "ws" then some 80
  else if scheme = "https" ∨ scheme = "wss" then some 443
  else if scheme = "ftp" then some 21
  else none

namespace Authority

/-- The credentials of an authority. -/
def credentials (a : Authority) : String :=
  match a.password with
  | some p => a.username ++ ":" ++ p ++ "@"
  | none => if a.username.isEmpty then "" else a.username ++ "@"

/-- An authority in text. -/
def text (a : Authority) : String :=
  a.credentials ++ a.host.text ++ (match a.port with
    | some p => ":" ++ toString p
    | none => "")

end Authority

/-- A path in text. -/
def UrlPath.text : UrlPath → String
  | .plain s => s
  | .segments ss => String.join (ss.map ("/" ++ ·))

namespace Url

/-- The kind of the scheme. -/
def kind (u : Url) : SchemeKind := .of u.scheme

/-- Whether the URL names a host. -/
def hasHost (u : Url) : Bool :=
  match u.authority with
  | some a => a.host != .empty
  | none => false

/-- The host. -/
def host (u : Url) : Host :=
  match u.authority with
  | some a => a.host
  | none => .empty

/-- The port, given or by default. -/
def port? (u : Url) : Option Nat :=
  (u.authority.bind (·.port)).orElse fun _ => defaultPort? u.scheme

/-- What stands between scheme and path. A path that would be taken for an authority is kept
apart from the scheme by a dot. -/
def authorityText (u : Url) : String :=
  match u.authority, u.path with
  | some a, _ => "//" ++ a.text
  | none, .segments ("" :: _ :: _) => "/."
  | none, _ => ""

/-- The query with its mark. -/
def queryText (u : Url) : String :=
  match u.query with
  | some q => "?" ++ q
  | none => ""

/-- The fragment with its mark. -/
def fragmentText (u : Url) : String :=
  match u.fragment with
  | some f => "#" ++ f
  | none => ""

/-- The URL without its fragment. -/
def withoutFragment (u : Url) : Url := { u with fragment := none }

/-- A URL in text. -/
def text (u : Url) : String :=
  u.scheme ++ ":" ++ u.authorityText ++ u.path.text ++ u.queryText ++ u.fragmentText

end Url

end Vigil

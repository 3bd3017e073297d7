import Vigil.Http.Header
import Vigil.Method
import Vigil.Text.Base64
import Vigil.Url.Basic

/-!
# Requests as messages

A request ready to be sent: method, URL, headers in order, and body. Credentials do not stay in
the URL; they become a header.
-/

set_option autoImplicit false

namespace Vigil

/-- A request ready to be sent. -/
structure Message where
  method : Method
  url : Url
  headers : List Header := []
  /-- The body as text; absent if nothing is sent. -/
  body : Option String := none
  deriving DecidableEq, Inhabited

namespace Url

/-- The user name and the password in a URL, if there is any and the user name is text. -/
def credentials? (u : Url) : Option (String × Option String) := do
  let a ← u.authority
  let username ← Text.decode? (Percent.decodeText a.username)
  let password := a.password.bind fun p => Text.decode? (Percent.decodeText p)
  if username.isEmpty && password.isNone then none else some (username, password)

/-- A URL without user name and password. -/
def withoutCredentials (u : Url) : Url :=
  { u with authority := u.authority.map fun a => { a with username := "", password := none } }

end Url

/-- The header that carries credentials. -/
def Header.basic (username : String) (password : Option String) : Header :=
  ⟨"authorization",
    "Basic " ++ String.ofList
      (Text.Base64.encode (Text.encode (username ++ ":" ++ password.getD "")))⟩

/-- A message for a URL, whose credentials become its only header. -/
def Message.ofUrl (method : Method) (url : Url) : Message :=
  match url.credentials? with
  | some (username, password) =>
    { method, url := url.withoutCredentials, headers := [.basic username password] }
  | none => { method, url }

end Vigil

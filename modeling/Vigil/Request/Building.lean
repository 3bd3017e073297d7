import Vigil.Failure
import Vigil.Http.Message
import Vigil.Request.Spec
import Vigil.Url.Query
import Vigil.Url.Reader

/-!
# Building requests

A specification becomes a message when the values of a store are filled into its templates.
The declared query pairs are merged into the URL, and the headers follow in the order of their
keys.
-/

set_option autoImplicit false

namespace Vigil.RequestSpec

/-- A header field with this name and value. -/
def header (name value : String) : Except Misconfiguration Header :=
  if !Header.isName name then .error .invalidHeaderName
  else if !Header.isValue value then .error .invalidHeaderValue
  else .ok ⟨Header.lowerName name, value⟩

/-- The URL of a specification with the values of a store. -/
def renderUrl (s : RequestSpec) (store : Store) : Except Misconfiguration Url :=
  let text := Template.render store s.url
  match Url.parse text with
  | .error fault => .error (.invalidUrl text fault)
  | .ok url =>
    let url := url.mergeQuery (Template.renderDict store s.query)
    if url.hasHost then .ok url else .error (.noHost url.text)

/-- The header fields of a specification with the values of a store, keys in order. -/
def renderHeaders (s : RequestSpec) (store : Store) : Except Misconfiguration (List Header) :=
  ((Template.renderDict store s.headers).entries.flatMap fun e => e.2.map (e.1, ·)).mapM
    fun p => header p.1 p.2

/-- The body of a specification with the values of a store; an empty one is none. -/
def renderBody (s : RequestSpec) (store : Store) : Option String :=
  let body := Template.render store s.body
  if body.isEmpty then none else some body

/-- The message of a specification with the values of a store. -/
def build (s : RequestSpec) (store : Store) : Except Misconfiguration Message := do
  let m := Message.ofUrl s.method (← s.renderUrl store)
  return { m with headers := m.headers ++ (← s.renderHeaders store), body := s.renderBody store }

end Vigil.RequestSpec

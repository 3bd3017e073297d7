import Vigil.Config.Basic
import Vigil.Config.Error
import Vigil.Http.Coding
import Vigil.Http.Message
import Vigil.Request.Timeout

/-!
# Clients

A client carries what holds for all requests sent by it: the time allowed by default, the
headers that a request gets unless it has some of that name, and how many redirects are followed.
Of its default headers each name occurs once. Every client asks for the codings that it undoes,
unless a request says itself what it takes, or asks for a part of the content only.
-/

set_option autoImplicit false

namespace Vigil

/-- What holds for all requests sent by one client. -/
structure Client where
  defaultTimeout : Duration := .clientDefault
  /-- Headers for requests that have none of that name. -/
  defaults : List Header := [⟨"accept", "*/*"⟩]
  /-- The number of the redirect that is refused; if absent, redirects are not followed. -/
  redirectLimit : Option Nat := some 10
  deriving DecidableEq, Inhabited

/-- Puts a header in the place of those with its name. -/
def setHeader (headers : List Header) (h : Header) : List Header :=
  headers.filter (fun g => g.name != h.name) ++ [h]

namespace Client

/-- A header that settings give by default. -/
def defaultHeader (name value : String) : Except Unusable Header :=
  if !Header.isName name then .error (.invalidHeaderName name)
  else if !Header.isValue value then .error (.invalidHeaderValue (Header.lowerName name))
  else .ok ⟨Header.lowerName name, value⟩

/-- The headers that settings give by default, in order of their keys. -/
def givenHeaders (s : ClientSettings) : Except Unusable (List Header) :=
  s.defaultHeaders.entries.mapM fun e => defaultHeader e.1 e.2

/-- The client for some settings. -/
def ofSettings (s : ClientSettings) : Except Unusable Client := do
  let given ← givenHeaders s
  if Header.isValue s.userAgent then
    return {
      defaultTimeout := s.defaultTimeout
      defaults := given.foldl setHeader [⟨"accept", "*/*"⟩, ⟨"user-agent", s.userAgent⟩]
      redirectLimit := if s.followRedirects then some s.maxRedirects.toNat else none }
  else .error .invalidUserAgent

/-- The headers of a message, and then the default headers of names that it does not have. -/
def filledHeaders (c : Client) (headers : List Header) : List Header :=
  headers ++ c.defaults.filter fun h => !hasHeader headers h.name

/-- The header that asks for codings, if a message with these headers gets one. -/
def codingHeader? (headers : List Header) : Option Header :=
  if hasHeader headers "accept-encoding" || hasHeader headers "range" then none
  else some ⟨"accept-encoding", Coding.offer⟩

/-- A message with the client's default headers, and with what it says of codings. -/
def dress (c : Client) (m : Message) : Message :=
  let headers := c.filledHeaders m.headers
  { m with headers := headers ++ (codingHeader? headers).toList }

end Client

/-- The one client that a process shares, if there is one yet. It is set once. -/
structure SharedClient where
  client : Option Client := none
  deriving DecidableEq, Inhabited

namespace SharedClient

/-- The shared client, made from the settings if there is none yet. -/
def init (s : SharedClient) (settings : ClientSettings) :
    Except Unusable Client × SharedClient :=
  match s.client with
  | some c => (.ok c, s)
  | none =>
    match Client.ofSettings settings with
    | .ok c => (.ok c, ⟨some c⟩)
    | .error reason => (.error reason, s)

/-- The shared client; without settings, if there is none yet. -/
def get (s : SharedClient) : Client × SharedClient :=
  match s.client with
  | some c => (c, s)
  | none => ({}, ⟨some {}⟩)

end SharedClient

end Vigil

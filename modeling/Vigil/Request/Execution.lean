import Vigil.Extraction.Rules
import Vigil.Http.Exchange
import Vigil.Request.Building
import Vigil.Request.Timeout

/-!
# Carrying out a request

A request goes through stages: the time allowed, the message, sending it, the status code, the
body, and the rules. The first stage that fails fails the request. Sending and the body share
the time allowed.
-/

set_option autoImplicit false

namespace Vigil.RequestSpec

/-- Takes in an answer, if its status code is accepted. -/
def receive (s : RequestSpec) (d : Deadline) (a : Answer) (j : Journal) :
    Except Failure Response × Journal :=
  if s.accepts a.status then
    j.within d a.bodyDelay
      (if a.complete then .ok a.response else .error (.transport "incomplete body"))
  else (.error (.unexpectedStatus a.status s.accepted.codes), j)

/-- Sends the message of a request and takes in the answer. -/
def respond (s : RequestSpec) (client : Client) (server : Server) (allowed : Duration)
    (m : Message) (j : Journal) : Except Failure Response × Journal :=
  let d := Deadline.starting j.now allowed
  match client.send server d m j with
  | (.error f, j) => (.error f, j)
  | (.ok a, j) => s.receive d a j

/-- The time allowed for a request, and its message. -/
def prepare (s : RequestSpec) (client : Client) (store : Store) :
    Except Misconfiguration (Duration × Message) := do
  let allowed ← s.timeLimit client.defaultTimeout
  return (allowed, ← s.build store)

/-- Carries out a request: the variables that its rules take out of the response. -/
def execute (s : RequestSpec) (client : Client) (server : Server) (store : Store)
    (j : Journal) : Except Failure (List Variable) × Journal :=
  match s.prepare client store with
  | .error cause => (.error (.configuration cause), j)
  | .ok (allowed, m) =>
    let j := j.report (.sending s.name s.method.name m.url.text allowed)
    match s.respond client server allowed m j with
    | (.error f, j) => (.error f, j)
    | (.ok r, j) =>
      (r.extract s.rules, j.report (.received s.name r.status r.body.length))

end Vigil.RequestSpec

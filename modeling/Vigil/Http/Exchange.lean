import Vigil.Failure
import Vigil.Http.Client
import Vigil.Http.Redirect
import Vigil.Log.Journal

/-!
# Getting an answer

A message is sent, redirects are followed, and the answer at the end counts. All of it has to
happen before a deadline.
-/

set_option autoImplicit false

namespace Vigil

/-- The time allowed and the moment at which it is over. -/
structure Deadline where
  allowed : Duration
  moment : Nat

namespace Deadline

/-- The time allowed, beginning now. -/
def starting (now : Nat) (allowed : Duration) : Deadline := ⟨allowed, now + allowed.nanos⟩

end Deadline

namespace Journal

/-- Something takes the time `span`, unless the deadline comes before. -/
def within {α : Type} (j : Journal) (d : Deadline) (span : Nat) (result : Except Failure α) :
    Except Failure α × Journal :=
  if j.now + span ≤ d.moment then (result, j.wait span)
  else (.error (.timeout d.allowed), j.waitUntil d.moment)

/-- Sends one message and waits for what comes back. -/
def exchange (j : Journal) (server : Server) (d : Deadline) (m : Message) :
    Except Failure Answer × Journal :=
  match server j.now j.arrived m with
  | .unreachable delay words => j.within d delay (.error (.transport words))
  | .lost delay words => (j.deliver m).within d delay (.error (.transport words))
  | .silence => (.error (.timeout d.allowed), j.waitUntil d.moment)
  | .answer delay a => (j.deliver m).within d delay (.ok (a.forMethod m.method))

end Journal

namespace Client

/-- Why a message cannot be sent by HTTP. -/
def refusal? (url : Url) : Option Misconfiguration :=
  if !url.isHttp then some (.schemeNotAllowed url.text)
  else if !url.isWritable then some (.unwritableUrl url.text)
  else none

/-- Sends a message; up to `left` redirects are followed. -/
def follow (server : Server) (d : Deadline) :
    Nat → Message → Journal → Except Failure Answer × Journal
  | left, m, j =>
    match j.exchange server d m with
    | (.error f, j) => (.error f, j)
    | (.ok a, j) =>
      match a.redirect?, a.target? m.url with
      | some r, some next =>
        match left with
        | 0 => (.error (.transport "too many redirects"), j)
        | left + 1 =>
          if next.isHttp then follow server d left (m.redirected r next) j
          else (.error (.configuration (.schemeNotAllowed next.text)), j)
      | _, _ => (.ok a, j)

/-- Sends a message with the client's default headers, as the client deals with redirects. -/
def send (c : Client) (server : Server) (d : Deadline) (m : Message) (j : Journal) :
    Except Failure Answer × Journal :=
  match refusal? m.url with
  | some cause => (.error (.configuration cause), j)
  | none =>
    match c.redirectLimit with
    | none => j.exchange server d (c.dress m)
    | some limit => follow server d (limit - 1) (c.dress m) j

end Client

end Vigil

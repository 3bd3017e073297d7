import Vigil.Failure
import Vigil.Request.Spec

/-!
# Time allowed for a request

A specification may say how long its request may take; otherwise the client's default holds.
Written times are looked at when the request is due, so one that is malformed or zero fails
that request and nothing else.
-/

set_option autoImplicit false

namespace Vigil

namespace RequestSpec

/-- The time allowed for a request, `default` if the specification does not say. -/
def timeLimit (s : RequestSpec) (default : Duration) : Except Misconfiguration Duration :=
  match s.timeout with
  | none => .ok default
  | some raw =>
    match Duration.parse raw with
    | .error fault => .error (.invalidTimeout raw fault)
    | .ok d => if d.isZero then .error (.zeroTimeout raw) else .ok d

end RequestSpec

end Vigil

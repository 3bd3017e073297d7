import Vigil.Config.Basic
import Vigil.Config.Error
import Vigil.Text.Blank

/-!
# Checking configurations

The conditions that a configuration has to meet, and the first that it fails. Monitors are
looked at in order; of each, its name, whether an earlier one has the name, its period, and
then its requests and cleanup requests. Request timeouts are left to the time of the request.
-/

set_option autoImplicit false

namespace Vigil

/-- Status codes that a request may expect. -/
def isStatusCode (c : UInt16) : Bool := 100 ≤ c && c ≤ 599

namespace RequestSpec

/-- Checks one request of the monitor called `monitor`. -/
def validate (monitor : String) (s : RequestSpec) : Except Unusable Unit :=
  if Text.allBlank s.name then .error (.blankRequestName monitor)
  else if s.accepted.isEmpty then .error (.noStatusCodes monitor s.name)
  else
    match s.accepted.codes.find? fun c => !isStatusCode c with
    | some c => .error (.invalidStatusCode monitor s.name c)
    | none => .ok ()

end RequestSpec

namespace Monitor

/-- Checks one monitor; `earlier` are the names of those before it. -/
def validate (earlier : List String) (m : Monitor) : Except Unusable Unit :=
  if Text.allBlank m.name then .error .blankMonitorName
  else if earlier.contains m.name then .error (.duplicateMonitorName m.name)
  else if m.period.isZero then .error (.zeroPeriod m.name)
  else m.steps.forM (RequestSpec.validate m.name)

/-- Checks monitors in order. -/
def validateAll (earlier : List String) : List Monitor → Except Unusable Unit
  | [] => .ok ()
  | m :: r => do
    m.validate earlier
    validateAll (m.name :: earlier) r

end Monitor

namespace ServiceConfig

/-- Checks a configuration. -/
def validate (c : ServiceConfig) : Except Unusable Unit :=
  if c.client.defaultTimeout.isZero then .error .zeroDefaultTimeout
  else Monitor.validateAll [] c.monitors

end ServiceConfig

end Vigil

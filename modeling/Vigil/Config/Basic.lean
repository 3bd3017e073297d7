import Vigil.Monitor

/-!
# Configuration of the service

The settings of the HTTP client, the log, and the monitors to run, each with its default.
-/

set_option autoImplicit false

namespace Vigil

/-- The time a client allows when its settings do not say. -/
def Duration.clientDefault : Duration := .ofSeconds 10

/-- Settings of the HTTP client that all monitors share. -/
structure ClientSettings where
  /-- The time allowed for a request that does not say. -/
  defaultTimeout : Duration := .clientDefault
  followRedirects : Bool := true
  /-- The number of the redirect that is refused. -/
  maxRedirects : UInt64 := 10
  /-- Whether certificates are checked. -/
  validateSsl : Bool := true
  userAgent : String := "http-monitor/0.1.0"
  /-- Headers for every request that has none of that name. -/
  defaultHeaders : Dict String := .empty
  deriving DecidableEq, Inhabited

/-- Formats of log lines. -/
inductive LogFormat where
  | text | json
  deriving DecidableEq, Repr, Inhabited

/-- The configuration of the service. -/
structure ServiceConfig where
  client : ClientSettings := {}
  /-- The log filter. -/
  logLevel : String := "info"
  logFormat : LogFormat := .text
  monitors : List Monitor := []
  deriving DecidableEq, Inhabited

end Vigil

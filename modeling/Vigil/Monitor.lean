import Vigil.Duration.Basic
import Vigil.Request.Spec

/-!
# Monitors

What one monitor does: every period it runs its requests in order up to the first that fails,
and then its cleanup requests, all of them.
-/

set_option autoImplicit false

namespace Vigil

/-- The definition of one monitor. -/
structure Monitor where
  name : String
  /-- The time from one run to the next. -/
  period : Duration
  /-- Variables that every run starts with. -/
  provided : Dict String := .empty
  requests : List RequestSpec := []
  cleanup : List RequestSpec := []
  deriving DecidableEq, Inhabited

namespace Monitor

/-- Binds a variable. -/
def withVariable (m : Monitor) (name value : String) : Monitor :=
  { m with provided := m.provided.insert name value }

/-- Adds a request. -/
def withRequest (m : Monitor) (spec : RequestSpec) : Monitor :=
  { m with requests := m.requests ++ [spec] }

/-- Adds a cleanup request. -/
def withCleanup (m : Monitor) (spec : RequestSpec) : Monitor :=
  { m with cleanup := m.cleanup ++ [spec] }

/-- All requests of a run in the order in which they are attempted. -/
def steps (m : Monitor) : List RequestSpec := m.requests ++ m.cleanup

end Monitor

end Vigil

import Vigil.Chain.Run
import Vigil.Monitor

/-!
# One run of a monitor

A run starts from the built-in variables and the monitor's own. The requests come first, and then
the cleanup requests, with the variables that the requests ended with. Only failures of the
former make a run unhealthy.
-/

set_option autoImplicit false

namespace Vigil

/-- The values of the built-in variables, chosen at random for each run. -/
structure Builtins where
  /-- Eight letters and digits. -/
  random : String
  /-- An identifier of the run. -/
  runId : String
  deriving DecidableEq, Repr, Inhabited

/-- The variables that a run starts with: the built-in ones, and then those given, in order of
their names. -/
def Store.seed (b : Builtins) (provided : Dict String) : Store :=
  ⟨.provided "random-8" b.random :: .provided "run-id" b.runId ::
    provided.entries.map fun e => .provided e.1 e.2⟩

/-- What comes out of one run of a monitor. -/
structure TickReport where
  monitoring : Outcome
  cleanup : Outcome
  deriving DecidableEq

namespace TickReport

/-- Whether no request failed, cleanup requests aside. -/
def isHealthy (r : TickReport) : Bool := r.monitoring.isSuccess

/-- What is reported at the end of a run of the monitor called `monitor`. -/
def summary (r : TickReport) (monitor : String) : Event :=
  match r.monitoring.firstFailure with
  | none => .tickCompleted monitor r.monitoring.executed r.cleanup.failed
  | some f =>
    .tickFailed monitor f.request f.failure r.monitoring.skipped r.cleanup.failed

end TickReport

/-- Runs a monitor once. -/
def Monitor.tick (m : Monitor) (client : Client) (server : Server) (b : Builtins) (j : Journal) :
    TickReport × Journal :=
  match ChainKind.monitoring.run client server m.requests (.seed b m.provided) j with
  | (monitoring, j) =>
    match ChainKind.cleanup.run client server m.cleanup monitoring.store j with
    | (cleanup, j) =>
      let report : TickReport := ⟨monitoring, cleanup⟩
      (report, j.report (report.summary m.name))

end Vigil

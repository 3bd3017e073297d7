import Vigil.Config.Error
import Vigil.Duration.Compact
import Vigil.Schedule.Worker
import Vigil.Text.Quoted

/-!
# Watches

A watch is a monitor that can be started and stopped. It has a worker from the moment it is
started to the moment it is stopped. The period of its monitor is not zero.
-/

set_option autoImplicit false

namespace Vigil

/-- A monitor that can be started and stopped. -/
structure Watch where
  monitor : Monitor
  period_pos : 0 < monitor.period.nanos
  worker : Option Worker := none

/-- Starting a monitor that is running is a mistake of the caller. -/
structure AlreadyStarted where
  monitor : String
  deriving DecidableEq, Repr

/-- The wording of the mistake. -/
def AlreadyStarted.message (m : AlreadyStarted) : String :=
  "monitor '" ++ m.monitor ++ "' already started"

namespace Watch

/-- The watch for a monitor, not running. -/
def ofMonitor (m : Monitor) : Except Unusable Watch :=
  if h : 0 < m.period.nanos then .ok ⟨m, h, none⟩ else .error (.zeroPeriod m.name)

/-- The name of the monitor. -/
def name (w : Watch) : String := w.monitor.name

/-- Whether it was started and not stopped since. -/
def isRunning (w : Watch) : Bool := w.worker.isSome

/-- Starts the monitor: it gets a worker. -/
def start (w : Watch) (now : Nat) : Except AlreadyStarted Watch :=
  if w.isRunning then .error ⟨w.name⟩
  else .ok { w with worker := some (.spawn w.monitor.period.nanos w.period_pos now) }

/-- Tells the worker to stop, if there is one. -/
def signal (w : Watch) : Watch := { w with worker := w.worker.map Worker.signal }

/-- The watch without its worker. -/
def release (w : Watch) : Watch := { w with worker := none }

/-- When a worker that is told to stop at `now` is done. -/
def endsAt (w : Watch) (now : Nat) : Nat :=
  match w.worker with
  | some k => k.endsAt now
  | none => now

/-- All that the worker does up to and including a moment. -/
def advance (course : Monitor → Course) (upTo : Nat) (w : Watch) : Watch × List (Nat × Act) :=
  match w.worker with
  | some k =>
    let r := k.advance (course w.monitor) upTo
    ({ w with worker := some r.1 }, r.2)
  | none => (w, [])

/-- What is reported when the monitor is stopped. -/
def stopEvents (w : Watch) : List Event :=
  match w.worker with
  | none => [.monitorNotRunning w.name]
  | some k => (if k.isBroken then [.workerDied w.name] else []) ++ [.monitorStopped w.name]

/-- The watch in words. -/
def describe (w : Watch) : String :=
  "Monitor \x7b name: " ++ Text.quoted w.name ++ ", period: " ++ w.monitor.period.compact ++
    ", running: " ++ toString w.isRunning ++ " \x7d"

end Watch

end Vigil

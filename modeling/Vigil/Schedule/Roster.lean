import Vigil.Schedule.Station

/-!
# Rosters

A roster is a station whose monitors are started and stopped together. When it is stopped, all
workers are told before any of them is waited for.
-/

set_option autoImplicit false

namespace Vigil

namespace Station

/-- The station for some monitors, none of them running. -/
def ofMonitors (now : Nat) (ms : List Monitor) : Except Unusable Station := do
  return { now, watches := (← ms.mapM Watch.ofMonitor).map some }

/-- The number of places. -/
def size (s : Station) : Nat := s.watches.length

/-- The number of watches that are running. -/
def runningCount (s : Station) : Nat :=
  s.watches.countP fun w => w.any Watch.isRunning

/-- The names of the monitors. -/
def names (s : Station) : List String := s.watches.filterMap fun w => w.map Watch.name

/-- The watch at a position started, unless it is running, and what is reported. -/
def startOne (now : Nat) (w : Option Watch) : Option Watch × List Event :=
  match w with
  | none => (none, [])
  | some w =>
    match w.start now with
    | .ok w => (some w, [.monitorStarted w.name w.monitor.period])
    | .error _ => (some w, [])

/-- Starts all monitors that are not running. -/
def startAll (s : Station) : Station :=
  let started := s.watches.map (startOne s.now)
  let events := started.flatMap fun p => p.2
  report { s with watches := started.map fun p => p.1 } (events ++ [.allStarted s.size])

/-- Tells all workers to stop. -/
def signalAll (s : Station) : Station :=
  { s with watches := s.watches.map fun w => w.map Watch.signal }

/-- Stops the monitor at a position, if there is one. -/
def stopAt (course : Monitor → Course) (s : Station) (i : Nat) : Station :=
  match s.watch? i with
  | some w => s.stop course i w
  | none => s

/-- Stops all monitors, and waits until all their workers are done. -/
def stopAll (course : Monitor → Course) (s : Station) : Station :=
  ((List.range s.size).foldl (stopAt course) s.signalAll).report [.allStopped]

end Station

end Vigil

import Vigil.Http.Server
import Vigil.Log.Event

/-!
# The journal of a run

What has happened so far: the messages that have arrived at the server, in order, the events
that were reported, each with its moment, and the moment it is now. A moment is a number of
nanoseconds. Timers wake up at whole milliseconds only, so one that is set to a moment in
between wakes up a little later.
-/

set_option autoImplicit false

namespace Vigil

/-- When a timer that is set to `moment` wakes up: at the end of its millisecond. -/
def wakeUp (moment : Nat) : Nat := (moment + 999999) / 1000000 * 1000000

/-- An event and the moment at which it was reported. -/
structure Entry where
  moment : Nat
  event : Event
  deriving DecidableEq

/-- What has happened so far. -/
structure Journal where
  now : Nat := 0
  arrived : List Message := []
  entries : List Entry := []
  deriving Inhabited

namespace Journal

/-- Reports an event. -/
def report (j : Journal) (e : Event) : Journal :=
  { j with entries := j.entries ++ [⟨j.now, e⟩] }

/-- Lets time pass. -/
def wait (j : Journal) (span : Nat) : Journal := { j with now := j.now + span }

/-- Waits for a timer that is set to `moment`. -/
def waitUntil (j : Journal) (moment : Nat) : Journal :=
  { j with now := max j.now (wakeUp moment) }

/-- A message arrives at the server. -/
def deliver (j : Journal) (m : Message) : Journal := { j with arrived := j.arrived ++ [m] }

/-- The events reported so far. -/
def events (j : Journal) : List Event := j.entries.map (·.event)

end Journal

end Vigil

import Vigil.Schedule.Watch

/-!
# Stations

A station holds watches and lets their workers work side by side. Time goes by only while
something is waited for. A watch can be given up; its worker is then told to stop and finishes
what it is doing. The log of a station tells for each entry whose worker reported it, if any.

Nothing that one worker does depends on another.
-/

set_option autoImplicit false

namespace Vigil

/-- An entry of a station's log. -/
structure Line where
  /-- The name of the monitor whose worker reports the event. -/
  worker : Option String
  entry : Entry
  deriving DecidableEq

/-- Watches side by side. -/
structure Station where
  now : Nat
  /-- The watches, none where one was given up or never was. -/
  watches : List (Option Watch) := []
  /-- Workers of watches that were given up, and their monitors. -/
  leftovers : List (Monitor × Worker) := []
  lines : List Line := []

namespace Station

/-- The watch at a position. -/
def watch? (s : Station) (i : Nat) : Option Watch := (s.watches[i]?).join

/-- Replaces the watch at a position. -/
def setWatch (s : Station) (i : Nat) (w : Option Watch) : Station :=
  { s with watches := s.watches.set i w }

/-- Reports events outside of all workers. -/
def report (s : Station) (events : List Event) : Station :=
  { s with lines := s.lines ++ events.map fun e => ⟨none, ⟨s.now, e⟩⟩ }

/-- What is logged of a worker's acts. -/
def workerLines (name : String) (acts : List (Nat × Act)) : List Line :=
  acts.flatMap fun a => (a.2.entries a.1).map fun e => ⟨some name, e⟩

/-- All that the worker of a watch does up to and including a moment, and what is logged. -/
def advanceWatch (course : Monitor → Course) (upTo : Nat) (w : Option Watch) :
    Option Watch × List Line :=
  match w with
  | none => (none, [])
  | some w =>
    let r := w.advance course upTo
    (some r.1, workerLines w.name r.2)

/-- All that a worker without a watch does up to and including a moment, and what is logged. -/
def advanceLeftover (course : Monitor → Course) (upTo : Nat) (l : Monitor × Worker) :
    (Monitor × Worker) × List Line :=
  let r := l.2.advance (course l.1) upTo
  ((l.1, r.1), workerLines l.1.name r.2)

/-- Lets all workers work up to and including a moment. -/
def advance (course : Monitor → Course) (upTo : Nat) (s : Station) : Station :=
  let ws := s.watches.map (advanceWatch course upTo)
  let ls := s.leftovers.map (advanceLeftover course upTo)
  { now := max s.now upTo
    watches := ws.map (·.1)
    leftovers := ls.map (·.1)
    lines := s.lines ++ ws.flatMap (·.2) ++ ls.flatMap (·.2) }

/-- Lets all workers do what they can do at once. -/
def settle (course : Monitor → Course) (s : Station) : Station := s.advance course s.now

/-- Waits. -/
def sleep (course : Monitor → Course) (span : Nat) (s : Station) : Station :=
  s.advance course (s.now + span)

/-- Starts the monitor at a position. -/
def start (s : Station) (i : Nat) (w : Watch) : Except AlreadyStarted Station := do
  let w ← w.start s.now
  return (s.setWatch i (some w)).report [.monitorStarted w.name w.monitor.period]

/-- Waits for the end of the worker at a position, which has been told to stop. -/
def await (course : Monitor → Course) (s : Station) (i : Nat) (w : Watch) : Station :=
  let s := s.advance course (w.endsAt s.now)
  match s.watch? i with
  | some w => (s.setWatch i (some w.release)).report w.stopEvents
  | none => s

/-- Stops the monitor at a position and waits until its worker is done. -/
def stop (course : Monitor → Course) (s : Station) (i : Nat) (w : Watch) : Station :=
  (s.setWatch i (some w.signal)).await course i w

/-- Gives up the watch at a position. -/
def drop (s : Station) (i : Nat) (w : Watch) : Station :=
  let s := s.setWatch i none
  match w.signal.worker with
  | some k => { s with leftovers := s.leftovers ++ [(w.monitor, k)] }
  | none => s

/-- Runs the monitor of a watch once, apart from its worker. -/
def runOnce (course : Monitor → Course) (s : Station) (w : Watch) : TickReport × Station :=
  let t := course w.monitor s.now
  (t.report,
    { s with lines := s.lines ++ t.entries.map (Line.mk none) }.sleep course t.span)

/-- Whether the watch at a position is running; nothing if there is no watch. -/
def running (s : Station) : List (Option Bool) := s.watches.map fun w => w.map Watch.isRunning

end Station

end Vigil

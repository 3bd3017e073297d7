import Vigil.Proofs.Schedule.Closing
import Vigil.Proofs.Schedule.Evolution

/-!
# Moves at a station

What happens to a station as a script: one move after the other, each at one position or at none.
A worker does what is due; a monitor is started, told to stop, released when its worker is done, or
given up; or time goes by. Stopping a monitor is telling it, waiting and releasing it
(`Chronicle.runs_stop`), and other moves may come in between.

A `Chronicle` is a station with what has come about at it: whose worker has done what, and where
the workers without a watch come from.
-/

set_option autoImplicit false

namespace Vigil

/-- Something that a worker has done. -/
structure Deed where
  /-- The position at which its monitor is or was. -/
  place : Nat
  /-- The name of its monitor. -/
  name : String
  moment : Nat
  act : Act

namespace Deed

/-- What is logged of a deed. -/
def lines (d : Deed) : List Line := Station.workerLines d.name [(d.moment, d.act)]

/-- The acts of one worker as deeds. -/
def ofActs (place : Nat) (name : String) (acts : List (Nat × Act)) : List Deed :=
  acts.map fun a => ⟨place, name, a.1, a.2⟩

/-- What the worker of a watch at some position does up to and including a moment. -/
def ofWatch (course : Monitor → Course) (upTo : Nat) : Option Watch × Nat → List Deed
  | (some w, i) => ofActs i w.name (w.advance course upTo).2
  | (none, _) => []

/-- What a worker left over at some position does up to and including a moment. -/
def ofLeftover (course : Monitor → Course) (upTo : Nat) (p : (Monitor × Worker) × Nat) :
    List Deed :=
  ofActs p.2 p.1.1.name (p.1.2.advance (course p.1.1) upTo).2

/-- The acts among deeds that were done for one position. -/
def actsAt (i : Nat) (ds : List Deed) : List (Nat × Act) :=
  (ds.filter (·.place == i)).map fun d => (d.moment, d.act)

theorem flatMap_lines_ofActs (place : Nat) (name : String) (acts : List (Nat × Act)) :
    (ofActs place name acts).flatMap lines = Station.workerLines name acts := by
  unfold ofActs lines Station.workerLines
  simp only [List.flatMap_map, List.flatMap_singleton]

theorem actsAt_append (i : Nat) (ds es : List Deed) :
    actsAt i (ds ++ es) = actsAt i ds ++ actsAt i es := by
  unfold actsAt
  rw [List.filter_append, List.map_append]

theorem actsAt_ofActs (i place : Nat) (name : String) (acts : List (Nat × Act)) :
    actsAt i (ofActs place name acts) = if place = i then acts else [] := by
  unfold actsAt ofActs
  rw [List.filter_map, List.map_map]
  by_cases same : place = i
  · simp [Function.comp_def, same]
  · simp [Function.comp_def, same]

theorem actsAt_flatMap {α : Type} (i : Nat) (l : List α) (f : α → List Deed) :
    actsAt i (l.flatMap f) = l.flatMap fun a => actsAt i (f a) := by
  unfold actsAt
  rw [List.filter_flatMap, List.map_flatMap]

end Deed

/-- A station and what has come about at it. -/
structure Chronicle where
  station : Station
  /-- The positions at which the workers without a watch were left over, in their order. -/
  homes : List Nat := []
  /-- What all workers have done, in the order in which it is logged. -/
  deeds : List Deed := []

/-- What can be done at one position. -/
inductive Deal where
  /-- The worker does what is due. -/
  | turn
  | start
  /-- The worker is told to stop. -/
  | tell
  /-- The watch of a worker that is done is released. -/
  | release
  /-- The watch is given up. -/
  | drop
  deriving DecidableEq, Repr

/-- What can happen next: something at a position, or time goes by. -/
inductive Move where
  | of (i : Nat) (deal : Deal)
  /-- Nobody does anything up to a moment. -/
  | pass (later : Nat)
  /-- All workers do what they have to do up to and including a moment. -/
  | wait (upTo : Nat)
  deriving DecidableEq, Repr

/-- What it takes to stop the monitor at a position, if its worker is done at the moment `ends`. -/
def Move.stop (i ends : Nat) : List Move := [.of i .tell, .wait ends, .of i .release]

namespace Chronicle

/-- The beginning, when nothing has come about. -/
def begin (s : Station) : Chronicle := { station := s }

/-- The worker that was left over at a position, and its monitor. -/
def leftover? (c : Chronicle) (i : Nat) : Option (Monitor × Worker) :=
  c.station.leftovers[c.homes.idxOf i]?

/-- What all workers do up to and including a moment. -/
def work (course : Monitor → Course) (upTo : Nat) (c : Chronicle) : List Deed :=
  c.station.watches.zipIdx.flatMap (Deed.ofWatch course upTo) ++
    (c.station.leftovers.zip c.homes).flatMap (Deed.ofLeftover course upTo)

/-- A chronicle goes on by a move. -/
inductive Happens (course : Monitor → Course) (c : Chronicle) : Move → Chronicle → Prop where
  | turn {i : Nat} {w : Watch} {k : Worker} (here : c.station.watch? i = some w)
      (running : w.worker = some k) (due : k.nextMoment? = some c.station.now) :
      Happens course c (.of i .turn)
        { c with
          station := c.station.turn course i w k
          deeds := c.deeds ++ Deed.ofActs i w.name
            [(c.station.now, (k.act (course w.monitor) c.station.now).2)] }
  | turnLeftover {i : Nat} {m : Monitor} {k : Worker} (here : c.leftover? i = some (m, k))
      (due : k.nextMoment? = some c.station.now) :
      Happens course c (.of i .turn)
        { c with
          station := c.station.turnLeftover course (c.homes.idxOf i) m k
          deeds := c.deeds ++ Deed.ofActs i m.name
            [(c.station.now, (k.act (course m) c.station.now).2)] }
  | start {i : Nat} {w : Watch} {s : Station} (here : c.station.watch? i = some w)
      (started : c.station.start i w = .ok s) :
      Happens course c (.of i .start) { c with station := s }
  | tell {i : Nat} {w : Watch} (here : c.station.watch? i = some w) :
      Happens course c (.of i .tell) { c with station := c.station.setWatch i (some w.signal) }
  | release {i : Nat} {w : Watch} (here : c.station.watch? i = some w)
      (done : ∀ k, w.worker = some k → k.nextMoment? = none) :
      Happens course c (.of i .release)
        { c with station := (c.station.setWatch i (some w.release)).report w.stopEvents }
  | drop {i : Nat} {w : Watch} (here : c.station.watch? i = some w) :
      Happens course c (.of i .drop)
        { c with
          station := c.station.drop i w
          homes := if w.isRunning then c.homes ++ [i] else c.homes }
  | pass {later : Nat} (le : c.station.now ≤ later)
      (idle : ∀ m k, c.station.Employs m k → ∀ next, k.nextMoment? = some next → later ≤ next) :
      Happens course c (.pass later) { c with station := c.station.pass later }
  | wait {upTo : Nat} (le : c.station.now ≤ upTo) :
      Happens course c (.wait upTo)
        { c with
          station := c.station.advance course upTo
          deeds := c.deeds ++ c.work course upTo }

/-- A chronicle goes on by a script. -/
inductive Runs (course : Monitor → Course) : Chronicle → List Move → Chronicle → Prop where
  | nil {c : Chronicle} : Runs course c [] c
  | cons {c c' c'' : Chronicle} {move : Move} {script : List Move}
      (first : Happens course c move c') (rest : Runs course c' script c'') :
      Runs course c (move :: script) c''

variable {course : Monitor → Course} {c c' : Chronicle} {move : Move} {deal : Deal}
  {i j later upTo : Nat} {m : Monitor} {w : Watch} {k : Worker} {ms : List Monitor}

theorem Runs.append {c'' : Chronicle} {script more : List Move} (runs : Runs course c script c')
    (goesOn : Runs course c' more c'') : Runs course c (script ++ more) c'' := by
  induction runs with
  | nil => exact goesOn
  | cons first _ ih => exact .cons first (ih goesOn)

/-! ## Stopping -/

/-- Workers live on. -/
theorem Happens.goes (happens : Happens course c move c') (sound : c.station.Sound course) :
    Station.Goes course c.station c'.station := by
  cases happens with
  | turn here running due => exact Station.goes_turn sound here running due
  | turnLeftover here due => exact Station.goes_turnLeftover sound here due
  | start here started => exact Station.goes_start sound started
  | tell here => exact Station.goes_signal sound here
  | @release i w here done =>
    have released := Station.goes_setWatch sound i (w := some w.release) fun _ eq _ running => by
      cases eq
      cases running
    exact released.trans (Station.goes_report released.sound _)
  | drop here => exact Station.goes_drop sound here
  | pass le idle => exact Station.goes_pass sound le idle
  | wait le => exact Station.goes_advance sound le

theorem Runs.sound {script : List Move} (runs : Runs course c script c')
    (sound : c.station.Sound course) : c'.station.Sound course := by
  induction runs with
  | nil => exact sound
  | cons first _ ih => exact ih (first.goes sound).sound

end Chronicle

end Vigil

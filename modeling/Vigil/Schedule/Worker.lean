import Vigil.Chain.Tick
import Vigil.Schedule.Timer

/-!
# Workers

A worker runs a monitor whenever its timer fires, until it is told to stop. While it runs the
monitor it sees nothing else; a fire for a moment before the end of that run is dropped
afterwards. When it is told to stop and a fire is due as well, it stops.

What a worker does is a list of acts with their moments (`Worker.advance`). How long a run of the
monitor takes and what it reports is a function of the moment at which it begins.
-/

set_option autoImplicit false

namespace Vigil

/-- One run of a monitor. -/
structure Tick where
  report : TickReport
  entries : List Entry
  /-- How long it takes. -/
  span : Nat

/-- What a run of a monitor would be, by the moment at which it begins. -/
abbrev Course := Nat → Tick

/-- The run of a monitor that begins at `now`, if the server tells one run from another by its
moment only. -/
def Monitor.tickAt (client : Client) (server : Server) (builtins : Nat → Builtins) (m : Monitor)
    (now : Nat) : Tick :=
  match m.tick client server (builtins now) { now } with
  | (report, j) => ⟨report, j.entries, j.now - now⟩

/-- What a worker is doing. -/
inductive Phase where
  /-- It has not done anything yet. -/
  | fresh
  /-- It waits for its timer, or to be told to stop. -/
  | waiting
  /-- It runs the monitor, until the moment `ends`. -/
  | busy (ends : Nat)
  | ended
  /-- Its timer could not be set. -/
  | broken
  deriving DecidableEq, Repr, Inhabited

/-- The worker of a monitor. -/
structure Worker where
  period : Nat
  period_pos : 0 < period
  /-- The moment up to which all it does is done. -/
  since : Nat
  /-- The moment for which its timer is set. -/
  due : Nat := 0
  /-- When it last finished running the monitor. -/
  lastEnd : Option Nat := none
  phase : Phase := .fresh
  /-- Whether it was told to stop. -/
  stopping : Bool := false

/-- Something that a worker does. -/
inductive Act where
  | enter
  /-- It finds that its timer cannot be set, and is no more. -/
  | breakDown
  /-- It drops a fire. -/
  | drop
  | begin (tick : Tick)
  | finish
  | leave

namespace Act

/-- What is reported of an act. -/
def entries (moment : Nat) : Act → List Entry
  | .enter => [⟨moment, .loopStarting⟩]
  | .drop => [⟨moment, .fireDropped⟩]
  | .begin t => t.entries
  | .leave => [⟨moment, .loopEnding⟩]
  | .breakDown | .finish => []

end Act

namespace Worker

/-- A worker that begins at `now`. -/
def spawn (period : Nat) (period_pos : 0 < period) (now : Nat) : Worker :=
  { period, period_pos, since := now }

/-- Tells a worker to stop. -/
def signal (w : Worker) : Worker := { w with stopping := true }

/-- Whether the fire for a moment is stale: it came due while the monitor was last run. -/
def isStale (w : Worker) (due : Nat) : Bool :=
  match w.lastEnd with
  | some e => due < e
  | none => false

/-- When a worker next does something, if nobody tells it to stop before. -/
def nextMoment? (w : Worker) : Option Nat :=
  match w.phase with
  | .fresh => some w.since
  | .waiting => some (if w.stopping then w.since else max w.since (wakeUp w.due))
  | .busy ends => some (max w.since ends)
  | .ended | .broken => none

/-- The first thing a worker does: it sets its timer to one period from now. -/
def enter (w : Worker) (now : Nat) : Worker × Act :=
  if now + w.period ≤ Timer.latest then
    ({ w with since := now, due := now + w.period, phase := .waiting }, .enter)
  else ({ w with since := now, phase := .broken }, .breakDown)

/-- What a worker does about a fire that it handles at `now`. -/
def fire (course : Course) (w : Worker) (now : Nat) : Worker × Act :=
  let w' := { w with since := now, due := Timer.following w.period w.due now }
  if w.isStale w.due then (w', .drop)
  else ({ w' with phase := .busy (now + (course now).span) }, .begin (course now))

/-- What a worker does at the moment `now`. -/
def act (course : Course) (w : Worker) (now : Nat) : Worker × Act :=
  match w.phase with
  | .fresh => w.enter now
  | .waiting =>
    if w.stopping then ({ w with since := now, phase := .ended }, .leave) else w.fire course now
  | .busy _ => ({ w with since := now, lastEnd := some now, phase := .waiting }, .finish)
  | .ended | .broken => (w, .finish)

/-- What is left for a worker to do up to a moment, as a number that every act makes smaller. -/
def rank (w : Worker) (upTo : Nat) : Nat :=
  match w.phase with
  | .fresh => 3 * (upTo + 1) + 3
  | .busy _ => 3 * (upTo + 1 - w.due) + 2
  | .waiting => 3 * (upTo + 1 - w.due) + 1
  | .ended | .broken => 0

theorem rank_enter_lt (w : Worker) {upTo : Nat} (now : Nat) (fresh : w.phase = .fresh) :
    (w.enter now).1.rank upTo < w.rank upTo := by
  unfold enter
  split <;> simp only [rank, fresh] <;> omega

theorem rank_fire_lt (course : Course) (w : Worker) {upTo now : Nat}
    (waiting : w.phase = .waiting) (due : w.due ≤ upTo) :
    (w.fire course now).1.rank upTo < w.rank upTo := by
  have := Timer.lt_following w.period_pos w.due now
  unfold fire
  simp only
  split <;> simp only [rank, waiting] <;> omega

theorem rank_act_lt (course : Course) (w : Worker) {upTo now : Nat}
    (next : w.nextMoment? = some now) (le : now ≤ upTo) :
    (w.act course now).1.rank upTo < w.rank upTo := by
  unfold act
  cases phase : w.phase with
  | fresh => exact rank_enter_lt w now phase
  | waiting =>
    simp only
    split
    · simp [rank, phase]
    · rename_i live
      refine rank_fire_lt course w phase ?_
      have := le_wakeUp w.due
      simp only [nextMoment?, phase, live, Option.some.injEq] at next
      simp at next
      omega
  | busy ends => simp [rank, phase]
  | ended => simp [nextMoment?, phase] at next
  | broken => simp [nextMoment?, phase] at next

/-- All that a worker does up to and including a moment. -/
def advance (course : Course) (upTo : Nat) (w : Worker) : Worker × List (Nat × Act) :=
  match next : w.nextMoment? with
  | none => (w, [])
  | some now =>
    if le : now ≤ upTo then
      have := rank_act_lt course w next le
      let rest := advance course upTo (w.act course now).1
      (rest.1, (now, (w.act course now).2) :: rest.2)
    else ({ w with since := max w.since upTo }, [])
termination_by w.rank upTo

/-- When a worker that is told to stop at `now` is done. -/
def endsAt (w : Worker) (now : Nat) : Nat :=
  match w.phase with
  | .busy ends => max now ends
  | _ => now

/-- Whether a worker came to its end without having been told to. -/
def isBroken (w : Worker) : Bool := w.phase == .broken

end Worker

end Vigil

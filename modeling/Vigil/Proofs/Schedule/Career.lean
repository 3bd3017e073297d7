import Vigil.Proofs.Schedule.Views

/-!
# The career of one monitor

A `Career` is a monitor at a station by itself, with what its workers have done. What is asked of it
comes one operation after the other: it is started, stopped or run once, and time goes by. A start
can be refused; then nothing has changed (`Career.perform`).

What a monitor is asked can leave a trace in the log that no worker has left. But for such reports
two careers can be the same (`Career.quiet`), and if they are, they stay so whatever is asked of both
(`Career.quiet_run_eq`).
-/

set_option autoImplicit false

namespace Vigil

/-- Something that is asked of a monitor, or time that goes by. -/
inductive Operation where
  | start
  | stop
  | runOnce
  /-- The worker does what it has to do for some time. -/
  | wait (span : Nat)
  /-- The worker does what is due. -/
  | turn
  /-- Nobody does anything up to a moment. -/
  | pass (later : Nat)
  deriving DecidableEq, Repr

/-- Whether an operation is one that is possible at any time. -/
def Operation.isAsked : Operation → Bool
  | .start | .stop | .runOnce | .wait _ => true
  | .turn | .pass _ => false

/-- Whether a monitor has been started, and not stopped since, after some operations. -/
def Operation.leavesOn (before : Bool) (ops : List Operation) : Bool :=
  ops.foldl (fun on op =>
    match op with
    | .start => true
    | .stop => false
    | .runOnce | .wait _ | .turn | .pass _ => on) before

/-- Whether the worker of a watch has nothing to do before a moment. -/
def Watch.isIdle (w : Watch) (later : Nat) : Bool :=
  (w.worker.bind Worker.nextMoment?).all (later ≤ ·)

namespace Station

variable {course : Monitor → Course} {s s' : Station} {i : Nat} {w : Watch} {k : Worker}

/-- A station but for what is reported outside of all workers. -/
def quiet (s : Station) : Station := { s with lines := s.lines.filter (·.worker.isSome) }

theorem quiet_quiet (s : Station) : s.quiet.quiet = s.quiet := by
  unfold quiet
  simp only [List.filter_filter, Bool.and_self]

theorem quiet_report (s : Station) (events : List Event) : (s.report events).quiet = s.quiet :=
  congrArg (fun lines => { s with lines }) (filter_report s events)

theorem quiet_setWatch (s : Station) (i : Nat) (w : Option Watch) :
    (s.setWatch i w).quiet = s.quiet.setWatch i w := rfl

theorem quiet_turn (course : Monitor → Course) (s : Station) (i : Nat) (w : Watch) (k : Worker) :
    (s.turn course i w k).quiet = s.quiet.turn course i w k := by
  unfold turn quiet
  simp only [List.filter_append, filter_workerLines]
  rfl

theorem filter_advanceWatch (course : Monitor → Course) (upTo : Nat) (w : Option Watch) :
    (advanceWatch course upTo w).2.filter (·.worker.isSome) = (advanceWatch course upTo w).2 := by
  cases w with
  | none => rfl
  | some w => exact filter_workerLines _ _

theorem quiet_advance (course : Monitor → Course) (upTo : Nat) (s : Station) :
    (s.advance course upTo).quiet = s.quiet.advance course upTo := by
  have leftover (l : Monitor × Worker) : (advanceLeftover course upTo l).2.filter
      (·.worker.isSome) = (advanceLeftover course upTo l).2 := filter_workerLines _ _
  unfold advance quiet
  simp only [List.filter_append, List.filter_flatMap, List.flatMap_map, filter_advanceWatch,
    leftover]

theorem quiet_sleep (course : Monitor → Course) (span : Nat) (s : Station) :
    (s.sleep course span).quiet = (s.quiet.sleep course span).quiet := by
  unfold sleep
  rw [quiet_advance, quiet_advance, quiet_quiet]
  rfl

theorem quiet_stop (here : s.watch? i = some w) :
    (s.stop course i w).quiet = (s.quiet.stop course i w).quiet := by
  have here' : s.quiet.watch? i = some w := here
  rw [stop_eq here, stop_eq here', quiet_report, quiet_report, quiet_setWatch, quiet_setWatch,
    quiet_advance, quiet_advance, quiet_setWatch, quiet_setWatch, quiet_quiet]
  rfl

/-- What a run reports that is apart from all workers is not seen. -/
theorem quiet_outside (s : Station) (entries : List Entry) :
    { s with lines := s.lines ++ entries.map (Line.mk none) }.quiet = s.quiet := by
  unfold quiet
  rw [List.filter_append, filter_outside, List.append_nil]

/-- While a monitor is run once, its worker goes on as in any other time. -/
theorem quiet_runOnce (course : Monitor → Course) (s : Station) (w : Watch) :
    (s.runOnce course w).2.quiet =
      (s.sleep course (course w.monitor s.now).span).quiet := by
  unfold runOnce sleep
  simp only [quiet_advance, quiet_outside]

end Station

/-- A monitor at a station by itself, and what its workers have done. -/
structure Career where
  station : Station
  /-- What the workers have done that it had before. -/
  past : List (Nat × Act) := []
  /-- What the worker has done that it has now. -/
  own : List (Nat × Act) := []
  /-- When it was last started. -/
  started : Nat := 0

namespace Career

variable {course : Monitor → Course} {c c' d : Career} {w : Watch} {op : Operation}
  {ops later : List Operation}

/-- A monitor that has been set up at a moment. -/
def begin (now : Nat) (w : Watch) : Career := { station := { now, watches := [some w] } }

def watch? (c : Career) : Option Watch := c.station.watch? 0

/-- Whether the monitor is running. -/
def isRunning (c : Career) : Bool := c.watch?.any Watch.isRunning

/-- Time has gone by at the station, and the worker of the watch `w` has worked. -/
def letWork (course : Monitor → Course) (c : Career) (w : Watch) (s : Station) : Career :=
  { c with station := s, own := c.own ++ (w.advance course s.now).2 }

/-- The worker `k` of the watch `w` has done what is due. -/
def turned (course : Monitor → Course) (c : Career) (w : Watch) (k : Worker) : Career :=
  { c with
    station := c.station.turn course 0 w k
    own := c.own ++ [(c.station.now, (k.act (course w.monitor) c.station.now).2)] }

/-- The monitor of the watch `w` has been stopped. -/
def stopped (course : Monitor → Course) (c : Career) (w : Watch) : Career :=
  { c with
    station := c.station.stop course 0 w
    past := c.past ++ c.own ++ (w.signal.advance course (w.endsAt c.station.now)).2
    own := [] }

/-- What comes of an operation for the watch of a monitor, if it is possible. -/
def performWith (course : Monitor → Course) (c : Career) (w : Watch) : Operation → Option Career
  | .start =>
    match c.station.start 0 w with
    | .ok s => some { c with station := s, own := [], started := c.station.now }
    | .error _ => some c
  | .stop => some (c.stopped course w)
  | .runOnce => some (c.letWork course w (c.station.runOnce course w).2)
  | .wait span => some (c.letWork course w (c.station.sleep course span))
  | .turn => w.worker.bind fun k =>
    if k.nextMoment? = some c.station.now then some (c.turned course w k) else none
  | .pass later =>
    if c.station.now ≤ later && w.isIdle later then
      some { c with station := c.station.pass later }
    else none

/-- What comes of an operation, if it is possible. -/
def perform (course : Monitor → Course) (c : Career) (op : Operation) : Option Career :=
  c.watch?.bind fun w => c.performWith course w op

/-- What comes of one operation after the other, if all are possible. -/
def run (course : Monitor → Course) (c : Career) (ops : List Operation) : Option Career :=
  ops.foldlM (perform course) c

theorem run_cons (course : Monitor → Course) (c : Career) (op : Operation)
    (later : List Operation) :
    c.run course (op :: later) = (c.perform course op).bind fun c' => c'.run course later := rfl

theorem run_cons_of_perform (performs : c.perform course op = some d) (later : List Operation) :
    c.run course (op :: later) = d.run course later := by
  rw [run_cons, performs]
  rfl

theorem run_cons_eq_some_iff : c.run course (op :: later) = some d ↔
    ∃ c', c.perform course op = some c' ∧ c'.run course later = some d := by
  rw [run_cons, Option.bind_eq_some_iff]

theorem perform_of_watch? (here : c.watch? = some w) (op : Operation) :
    c.perform course op = c.performWith course w op := by
  rw [perform, here]
  rfl

theorem performWith_start_of_running {k : Worker} (running : w.worker = some k) :
    c.performWith course w .start = some c := by
  unfold performWith Station.start Watch.start Watch.isRunning
  rw [running]
  rfl

theorem performWith_start_of_resting (resting : w.worker = none) :
    c.performWith course w .start = some { c with
      station := (c.station.setWatch 0 (some { w with
        worker := some (.spawn w.monitor.period.nanos w.period_pos c.station.now) })).report
          [.monitorStarted w.name w.monitor.period]
      own := []
      started := c.station.now } := by
  unfold performWith Station.start Watch.start Watch.isRunning
  rw [resting]
  rfl

/-! ## But for reports from outside -/

/-- A career but for what is reported outside of all workers. -/
def quiet (c : Career) : Career := { c with station := c.station.quiet }

theorem quiet_congr {s s' : Station} (same : s.quiet = s'.quiet) (past own : List (Nat × Act))
    (started : Nat) : (mk s past own started).quiet = (mk s' past own started).quiet :=
  congrArg (fun s => mk s past own started) same

theorem quiet_quiet (c : Career) : c.quiet.quiet = c.quiet :=
  quiet_congr c.station.quiet_quiet c.past c.own c.started

/-- What is asked next does not depend on such reports. -/
theorem quiet_performWith (here : c.watch? = some w) (op : Operation) :
    (c.performWith course w op).map quiet = (c.quiet.performWith course w op).map quiet := by
  cases op with
  | start =>
    cases worker : w.worker with
    | none =>
      rw [performWith_start_of_resting worker, performWith_start_of_resting worker]
      refine congrArg some (quiet_congr ?_ ..)
      rw [Station.quiet_report, Station.quiet_report]
      exact (Station.quiet_quiet (c.station.setWatch 0 _)).symm
    | some k =>
      rw [performWith_start_of_running worker, performWith_start_of_running worker]
      exact congrArg some c.quiet_quiet.symm
  | stop => exact congrArg some (quiet_congr (Station.quiet_stop here) ..)
  | runOnce =>
    have ran := (Station.quiet_runOnce course c.station w).trans
      ((Station.quiet_sleep ..).trans (Station.quiet_runOnce course c.quiet.station w).symm)
    exact congrArg some (quiet_congr ran ..)
  | wait span => exact congrArg some (quiet_congr (Station.quiet_sleep ..) ..)
  | turn =>
    show (w.worker.bind _).map quiet = (w.worker.bind _).map quiet
    cases w.worker with
    | none => rfl
    | some k =>
      -- Whether it is due is told by the clock, which is the same for both.
      show Option.map quiet (ite (k.nextMoment? = some c.station.now) _ _) =
        Option.map quiet (ite (k.nextMoment? = some c.station.now) _ _)
      split
      · have acted := Station.quiet_turn course c.station 0 w k
        have again := Station.quiet_turn course c.station.quiet 0 w k
        rw [Station.quiet_quiet] at again
        exact congrArg some (quiet_congr (acted.trans again.symm) ..)
      · rfl
  | pass later =>
    show Option.map quiet (ite ((decide (c.station.now ≤ later) && w.isIdle later) = true) _ _) =
      Option.map quiet (ite ((decide (c.station.now ≤ later) && w.isIdle later) = true) _ _)
    split
    · exact congrArg some (quiet_congr (Station.quiet_quiet (c.station.pass later)).symm ..)
    · rfl

theorem quiet_perform (course : Monitor → Course) (c : Career) (op : Operation) :
    (c.perform course op).map quiet = (c.quiet.perform course op).map quiet := by
  cases here : c.watch? with
  | none =>
    have here' : c.quiet.watch? = none := here
    rw [perform, perform, here, here']
    rfl
  | some w =>
    have here' : c.quiet.watch? = some w := here
    rw [perform_of_watch? here, perform_of_watch? here', quiet_performWith here]

theorem quiet_run (course : Monitor → Course) (c : Career) (ops : List Operation) :
    (c.run course ops).map quiet = (c.quiet.run course ops).map quiet := by
  induction ops generalizing c with
  | nil => exact congrArg some c.quiet_quiet.symm
  | cons op ops ih =>
    -- What comes after the operation depends on no more than is left of its outcome.
    have rest : (fun d : Career => (d.run course ops).map quiet) =
        (fun d => (d.run course ops).map quiet) ∘ quiet := funext ih
    rw [run_cons, run_cons, Option.map_bind, Option.map_bind]
    show (c.perform course op).bind (fun d => (d.run course ops).map quiet) =
      (c.quiet.perform course op).bind (fun d => (d.run course ops).map quiet)
    rw [rest, ← Option.bind_map, ← Option.bind_map, quiet_perform]

/-- **The same but for reports from outside.** Two such careers stay so, whatever is asked of
both. -/
theorem quiet_run_eq (same : c.quiet = d.quiet) (ops : List Operation) :
    (c.run course ops).map quiet = (d.run course ops).map quiet := by
  rw [quiet_run course c, same, ← quiet_run course d]

end Career

end Vigil

import Vigil.Proofs.Schedule.Waiting

/-!
# Starting and stopping together

A station whose monitors are started and stopped together does what it is asked, one command after
the other (`Station.Obeys`). Whatever it is asked, it keeps its monitors in their order, and either
all of them are running or none is (`Station.Staffed`): all once they have been started, none once
they have been stopped (`Station.Obeys.staffed`). No start of a monitor is ever refused
(`Station.startAll?_eq`).
-/

set_option autoImplicit false

namespace Vigil

namespace Station

variable {course : Monitor → Course} {s s' : Station} {i : Nat} {w : Watch}
  {m : Monitor} {ms : List Monitor} {on : Bool}

/-! ## No start is refused -/

/-- The watch at a position started, unless it is running, where it may be refused to start it. -/
def startOne? (now : Nat) (w : Option Watch) : Except AlreadyStarted (Option Watch × List Event) :=
  match w with
  | none => return (none, [])
  | some w =>
    if w.isRunning then return (some w, [])
    else do
      let w ← w.start now
      return (some w, [.monitorStarted w.name w.monitor.period])

/-- Starts all monitors that are not running, one after the other, unless it is refused to start
one. -/
def startAll? (s : Station) : Except AlreadyStarted Station := do
  let started ← s.watches.mapM (startOne? s.now)
  let events := started.flatMap fun p => p.2
  return report { s with watches := started.map fun p => p.1 } (events ++ [.allStarted s.size])

theorem startOne?_eq (now : Nat) (w : Option Watch) :
    startOne? now w = .ok (startOne now w) := by
  cases w with
  | none => rfl
  | some w =>
    obtain ⟨m, pos, worker⟩ := w
    cases worker with
    | none => rfl
    | some k => rfl

/-- **No start is refused** when all monitors are started that are not running. -/
theorem startAll?_eq (s : Station) : s.startAll? = .ok s.startAll := by
  have each : s.watches.mapM (startOne? s.now) = .ok (s.watches.map (startOne s.now)) := by
    rw [mapM_eq_ok_iff, List.forall₂_map_right_iff, List.forall₂_same]
    exact fun w _ => startOne?_eq s.now w
  unfold startAll?
  rw [each]
  rfl

/-! ## Commands -/

/-- What can be asked of a station whose monitors are started and stopped together. -/
inductive Command where
  | startAll
  | stopAll
  | wait
  deriving DecidableEq, Repr

/-- A station does what it is asked, one command after the other. -/
inductive Obeys (course : Monitor → Course) : Station → List Command → Station → Prop where
  | nil {s : Station} : Obeys course s [] s
  | startAll {s s' : Station} {rest : List Command} (later : Obeys course s.startAll rest s') :
      Obeys course s (.startAll :: rest) s'
  | stopAll {s s' : Station} {rest : List Command}
      (later : Obeys course (s.stopAll course) rest s') : Obeys course s (.stopAll :: rest) s'
  | wait {s s₁ s' : Station} {rest : List Command} (waits : Waits course s s₁)
      (later : Obeys course s₁ rest s') : Obeys course s (.wait :: rest) s'

/-- Whatever a station is asked, it can do. -/
theorem exists_obeys (course : Monitor → Course) (s : Station) (commands : List Command) :
    ∃ s', Obeys course s commands s' := by
  induction commands generalizing s with
  | nil => exact ⟨s, .nil⟩
  | cons command rest ih =>
    cases command with
    | startAll =>
      obtain ⟨s', later⟩ := ih s.startAll
      exact ⟨s', .startAll later⟩
    | stopAll =>
      obtain ⟨s', later⟩ := ih (s.stopAll course)
      exact ⟨s', .stopAll later⟩
    | wait =>
      obtain ⟨s', later⟩ := ih (s.sleep course 0)
      exact ⟨s', .wait (waits_sleep course 0 s) later⟩

theorem Obeys.reached {commands : List Command} (obeys : Obeys course s commands s')
    (reached : Reached course s) : Reached course s' := by
  induction obeys with
  | nil => exact reached
  | startAll later ih => exact ih (reached.step .startAll)
  | stopAll later ih => exact ih (reached.step .stopAll)
  | wait waits later ih => exact ih (reached.step waits.step)

/-- Whether the monitors have been started, and not stopped since, after some commands. -/
def Command.leavesOn (before : Bool) (commands : List Command) : Bool :=
  commands.foldl (fun on command =>
    match command with
    | .startAll => true
    | .stopAll => false
    | .wait => on) before

/-! ## Staff -/

/-- A station has a watch for each of these monitors, in their order, and all of them are running or
none is. Nobody works there without a watch. -/
structure Staffed (ms : List Monitor) (on : Bool) (s : Station) : Prop where
  size : s.size = ms.length
  leftovers : s.leftovers = []
  watch : ∀ i m, ms[i]? = some m → ∃ w, s.watch? i = some w ∧ w.monitor = m ∧ w.isRunning = on

theorem Staffed.getElem? (staffed : s.Staffed ms on) (here : ms[i]? = some m) :
    ∃ w, s.watches[i]? = some (some w) ∧ w.monitor = m ∧ w.isRunning = on := by
  obtain ⟨w, there, monitor, running⟩ := staffed.watch i m here
  exact ⟨w, Option.join_eq_some_iff.1 there, monitor, running⟩

theorem Staffed.watches_eq (staffed : s.Staffed ms on) :
    s.watches.map (Option.map fun w => (w.monitor, w.isRunning)) =
      ms.map fun m => some (m, on) := by
  refine List.ext_getElem? fun i => ?_
  rw [List.getElem?_map, List.getElem?_map]
  cases here : ms[i]? with
  | none =>
    have past : s.watches[i]? = none := by
      rw [List.getElem?_eq_none_iff] at here ⊢
      exact Nat.le_trans (Nat.le_of_eq staffed.size) here
    rw [past]
    rfl
  | some m =>
    obtain ⟨w, there, rfl, rfl⟩ := staffed.getElem? here
    rw [there]
    rfl

theorem Staffed.of (staffed : s.Staffed ms on) : s.Of ms := by
  have eq := congrArg (List.map (Option.map Prod.fst)) staffed.watches_eq
  rw [List.map_map, List.map_map] at eq
  unfold Of
  refine Eq.trans (List.map_congr_left fun w _ => ?_) eq
  cases w <;> rfl

theorem Staffed.runningCount_eq (staffed : s.Staffed ms on) :
    s.runningCount = if on then s.size else 0 := by
  have counted : s.runningCount =
      (s.watches.map (Option.map fun w => (w.monitor, w.isRunning))).countP
        fun p => p.any Prod.snd := by
    unfold runningCount
    rw [List.countP_map]
    refine List.countP_congr fun w _ => ?_
    cases w <;> rfl
  rw [counted, staffed.watches_eq, List.countP_map, staffed.size]
  cases on with
  | true => exact List.countP_eq_length.2 fun m _ => rfl
  | false => exact List.countP_eq_zero.2 fun m _ => Bool.false_ne_true

theorem staffed_ofMonitors {now : Nat} (setUp : ofMonitors now ms = .ok s) :
    s.Staffed ms false := by
  have staff := of_ofMonitors setUp
  have leftovers : s.leftovers = [] := by
    obtain ⟨ws, -, rfl⟩ := ofMonitors_eq setUp
    rfl
  refine ⟨staff.size_eq, leftovers, fun i m here => ?_⟩
  have there := congrArg (·[i]?) staff
  simp only [List.getElem?_map, here, Option.map_some] at there
  obtain ⟨w, at_i, eq⟩ := Option.map_eq_some_iff.1 there
  obtain ⟨w, rfl, monitor⟩ := Option.map_eq_some_iff.1 eq
  have watched : s.watch? i = some w := by rw [watch?, at_i, Option.join_some]
  refine ⟨w, watched, monitor, ?_⟩
  cases worker : w.worker with
  | none => rw [Watch.isRunning, worker, Option.isSome_none]
  | some k => exact absurd (.watch watched rfl worker) (not_employs_ofMonitors setUp)

/-- A station keeps its staff if its watches keep their monitors. -/
theorem Staffed.keep {on' : Bool} (staffed : s.Staffed ms on) (size : s'.size = s.size)
    (leftovers : s.leftovers = [] → s'.leftovers = [])
    (each : ∀ i w, s.watch? i = some w → w.isRunning = on →
      ∃ w', s'.watch? i = some w' ∧ w'.monitor = w.monitor ∧ w'.isRunning = on') :
    s'.Staffed ms on' := by
  refine ⟨size.trans staffed.size, leftovers staffed.leftovers, fun i m here => ?_⟩
  obtain ⟨w, there, rfl, running⟩ := staffed.watch i m here
  exact each i w there running

theorem size_setWatch (s : Station) (i : Nat) (w : Option Watch) :
    (s.setWatch i w).size = s.size := List.length_set

theorem size_advance (course : Monitor → Course) (upTo : Nat) (s : Station) :
    (s.advance course upTo).size = s.size := by
  unfold size advance
  rw [List.length_map, List.length_map]

theorem leftovers_advance (course : Monitor → Course) (upTo : Nat) (none : s.leftovers = []) :
    (s.advance course upTo).leftovers = [] := by
  unfold advance
  rw [none]
  rfl

theorem Waits.size (waits : Waits course s s') : s'.size = s.size := by
  cases waits with
  | turn here running due => exact size_setWatch s _ _
  | turnLeftover here due => rfl
  | pass le idle => exact List.length_map _
  | @advance upTo le => exact size_advance course upTo s

theorem Waits.leftovers (waits : Waits course s s') (none : s.leftovers = []) :
    s'.leftovers = [] := by
  cases waits with
  | turn here running due => exact none
  | turnLeftover here due =>
    rw [none] at here
    cases here
  | pass le idle =>
    unfold Station.pass
    rw [none]
    rfl
  | @advance upTo le => exact leftovers_advance course upTo none

theorem size_startAll (s : Station) : s.startAll.size = s.size := by
  unfold startAll size report
  rw [List.length_map, List.length_map]

theorem size_stop (here : s.watch? i = some w) : (s.stop course i w).size = s.size := by
  rw [stop_eq here]
  refine (size_setWatch _ i _).trans ?_
  rw [size_advance, size_setWatch]

theorem leftovers_stop (here : s.watch? i = some w) (none : s.leftovers = []) :
    (s.stop course i w).leftovers = [] := by
  rw [stop_eq here]
  have waiting : (s.setWatch i (some w.signal)).leftovers = [] := none
  exact leftovers_advance course (w.endsAt s.now) waiting

theorem size_stoppedTo (course : Monitor → Course) (s : Station) (n : Nat) :
    (s.stoppedTo course n).size = s.size := by
  induction n with
  | zero => exact List.length_map _
  | succ n ih =>
    rw [stoppedTo_succ, stopAt]
    split
    · next w here => exact (size_stop here).trans ih
    · exact ih

theorem leftovers_stoppedTo (course : Monitor → Course) (none : s.leftovers = []) (n : Nat) :
    (s.stoppedTo course n).leftovers = [] := by
  induction n with
  | zero => exact none
  | succ n ih =>
    rw [stoppedTo_succ, stopAt]
    split
    · next w here => exact leftovers_stop here ih
    · exact ih

theorem size_stopAll (course : Monitor → Course) (s : Station) :
    (s.stopAll course).size = s.size := size_stoppedTo course s s.size

theorem Staffed.wait (staffed : s.Staffed ms on) (sound : s.Sound course)
    (waits : Waits course s s') : s'.Staffed ms on := by
  refine staffed.keep waits.size waits.leftovers fun i w here running => ?_
  obtain ⟨w', there, carries⟩ := (waits.carries sound i).exists here
  exact ⟨w', there, carries.monitor, carries.isRunning.trans running⟩

theorem Staffed.startAll (staffed : s.Staffed ms on) : s.startAll.Staffed ms true := by
  refine staffed.keep (size_startAll s) id fun i w here _ => ?_
  cases worker : w.worker with
  | none => exact ⟨_, watch?_startAll_of_resting here worker, rfl, rfl⟩
  | some k =>
    refine ⟨w, watch?_startAll_of_running here worker, rfl, ?_⟩
    rw [Watch.isRunning, worker, Option.isSome_some]

theorem Staffed.stopAll (staffed : s.Staffed ms on) (sound : s.Sound course) :
    (s.stopAll course).Staffed ms false := by
  have leftovers : s.leftovers = [] → (s.stopAll course).leftovers = [] :=
    fun none => leftovers_stoppedTo course none s.size
  refine staffed.keep (size_stopAll course s) leftovers fun i w here _ => ?_
  refine ⟨w.release, ?_, rfl, rfl⟩
  rw [watch?_stopAll sound, here, Option.map_some]

/-- **Staff.** Whatever a station is asked, it keeps its monitors, and they are all running or none
is. -/
theorem Obeys.staffed {commands : List Command} (obeys : Obeys course s commands s')
    (reached : Reached course s) (staffed : s.Staffed ms on) :
    s'.Staffed ms (Command.leavesOn on commands) := by
  induction obeys generalizing on with
  | nil => exact staffed
  | startAll later ih => exact ih (reached.step .startAll) staffed.startAll
  | stopAll later ih => exact ih (reached.step .stopAll) (staffed.stopAll reached.sound)
  | wait waits later ih => exact ih (reached.step waits.step) (staffed.wait reached.sound waits)

end Station

end Vigil

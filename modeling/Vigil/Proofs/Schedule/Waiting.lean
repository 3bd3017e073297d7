import Vigil.Proofs.Schedule.Anchor
import Vigil.Proofs.Schedule.Shutdown

/-!
# Waiting

While time goes by at a station, in whatever order its workers do what is due (`Station.Waits`),
each worker that has a watch lives on, and nobody tells it to stop (`Watch.Carries`). Between
operations the worker of a watch never has been told to stop: whoever tells it also takes it away
from its watch (`Station.Reached.untold`). So what it has done since it was started is what it does
when it is left to itself (`Station.Tenure`).
-/

set_option autoImplicit false

namespace Vigil

/-- What becomes of a watch from `now` to `later`, when its worker lives on and nobody tells it to
stop. -/
inductive Watch.Carries (course : Monitor → Course) (now later : Nat) (w : Watch) :
    Watch → Prop where
  | resting (resting : w.worker = none) : Carries course now later w w
  | running {k k' : Worker} {more : List (Nat × Act)} (running : w.worker = some k)
      (lives : Worker.Lives (course w.monitor) now k later more k')
      (untold : k'.stopping = k.stopping) :
      Carries course now later w { w with worker := some k' }

namespace Watch

variable {course : Monitor → Course} {now later : Nat} {w w' : Watch} {k : Worker}

theorem Carries.refl (course : Monitor → Course) (now : Nat) (w : Watch) :
    w.Carries course now now w := by
  obtain ⟨m, pos, worker⟩ := w
  cases worker with
  | none => exact .resting rfl
  | some k => exact .running rfl .begin rfl

theorem Carries.monitor (carries : w.Carries course now later w') : w'.monitor = w.monitor := by
  cases carries <;> rfl

theorem Carries.isRunning (carries : w.Carries course now later w') :
    w'.isRunning = w.isRunning := by
  cases carries with
  | resting resting => rfl
  | running running =>
    unfold Watch.isRunning
    rw [running]
    rfl

end Watch

namespace Station

variable {course : Monitor → Course} {s s' : Station} {i j upTo : Nat} {w w' : Watch} {k : Worker}
  {m : Monitor}

/-- Time goes by, and workers do what is due, one by one and in any order, or together. -/
inductive Waits (course : Monitor → Course) (s : Station) : Station → Prop where
  | turn {i : Nat} {w : Watch} {k : Worker} (here : s.watch? i = some w)
      (running : w.worker = some k) (due : k.nextMoment? = some s.now) :
      Waits course s (s.turn course i w k)
  | turnLeftover {n : Nat} {m : Monitor} {k : Worker} (here : s.leftovers[n]? = some (m, k))
      (due : k.nextMoment? = some s.now) : Waits course s (s.turnLeftover course n m k)
  | pass {later : Nat} (le : s.now ≤ later)
      (idle : ∀ m k, s.Employs m k → ∀ next, k.nextMoment? = some next → later ≤ next) :
      Waits course s (s.pass later)
  | advance {upTo : Nat} (le : s.now ≤ upTo) : Waits course s (s.advance course upTo)

theorem Waits.step (waits : Waits course s s') : Step course s s' := by
  cases waits with
  | turn here running due => exact .turn here running due
  | turnLeftover here due => exact .turnLeftover here due
  | pass le idle => exact .pass le idle
  | advance le => exact .advance le

theorem waits_sleep (course : Monitor → Course) (span : Nat) (s : Station) :
    Waits course s (s.sleep course span) := .advance (Nat.le_add_right _ _)

theorem carries_advance (sound : s.Sound course) (le : s.now ≤ upTo) (here : s.watch? i = some w) :
    w.Carries course s.now upTo (w.advance course upTo).1 := by
  cases worker : w.worker with
  | none =>
    rw [Watch.advance_of_none course upTo worker]
    exact .resting worker
  | some k =>
    rw [Watch.advance_of_some course upTo worker]
    obtain ⟨acts, doing⟩ := (sound _ _ (.watch here rfl worker)).doing
    have lives := (Worker.lives_advance (course w.monitor) upTo k s.now acts doing le).1
    exact .running worker lives (Worker.advance_stopping _ upTo k)

theorem carries_pass {later : Nat} (le : s.now ≤ later)
    (idle : ∀ m k, s.Employs m k → ∀ next, k.nextMoment? = some next → later ≤ next)
    (here : s.watch? i = some w) :
    w.Carries course s.now later { w with worker := w.worker.map (·.wait later) } := by
  cases worker : w.worker with
  | none =>
    have same : { w with worker := none } = w := by rw [← worker]
    rw [Option.map_none, same]
    exact .resting worker
  | some k =>
    have idle' := idle w.monitor k (.watch here rfl worker)
    exact .running worker (Worker.Lives.begin.wait le idle') (k.wait_stopping later)

/-- The watch at a position, if there is one, is carried from one station to another. -/
abbrev CarriesAt (course : Monitor → Course) (s s' : Station) (i : Nat) : Prop :=
  Option.Rel (Watch.Carries course s.now s'.now) (s.watch? i) (s'.watch? i)

theorem CarriesAt.of_map (f : Watch → Watch) (eq : s'.watch? i = (s.watch? i).map f)
    (each : ∀ w, s.watch? i = some w → w.Carries course s.now s'.now (f w)) :
    CarriesAt course s s' i := by
  unfold CarriesAt
  rw [eq]
  cases here : s.watch? i with
  | none => exact .none
  | some w => exact .some (each w here)

theorem CarriesAt.of_eq (now : s'.now = s.now) (eq : s'.watch? i = s.watch? i) :
    CarriesAt course s s' i := by
  have same : s'.watch? i = (s.watch? i).map id := eq.trans (congrFun Option.map_id _).symm
  refine .of_map id same fun w _ => ?_
  rw [now]
  exact .refl course s.now w

theorem CarriesAt.exists (carries : CarriesAt course s s' i) (here : s.watch? i = some w) :
    ∃ w', s'.watch? i = some w' ∧ w.Carries course s.now s'.now w' := by
  unfold CarriesAt at carries
  rw [here] at carries
  cases there : s'.watch? i with
  | none =>
    rw [there] at carries
    cases carries
  | some w' =>
    rw [there] at carries
    cases carries with
    | some carries => exact ⟨w', rfl, carries⟩

theorem CarriesAt.exists_before (carries : CarriesAt course s s' i)
    (there : s'.watch? i = some w') :
    ∃ w, s.watch? i = some w ∧ w.Carries course s.now s'.now w' := by
  unfold CarriesAt at carries
  rw [there] at carries
  cases here : s.watch? i with
  | none =>
    rw [here] at carries
    cases carries
  | some w =>
    rw [here] at carries
    cases carries with
    | some carries => exact ⟨w, rfl, carries⟩

/-- What becomes of the watches while time goes by. -/
theorem Waits.carries (waits : Waits course s s') (sound : s.Sound course) (i : Nat) :
    CarriesAt course s s' i := by
  cases waits with
  | @turn j w k there running due =>
    by_cases same : j = i
    · subst same
      have acted : w.Carries course s.now s.now
          { w with worker := some (k.act (course w.monitor) s.now).1 } :=
        .running running (Worker.Lives.begin.act due) (Worker.act_stopping _ k s.now)
      refine .of_map (fun _ => { w with worker := some (k.act (course w.monitor) s.now).1 }) ?_ ?_
      · rw [there]
        exact watch?_setWatch_self there _
      · intro w' there'
        rw [there] at there'
        cases there'
        exact acted
    · exact .of_eq rfl (watch?_setWatch_of_ne same _)
  | turnLeftover there due => exact .of_eq rfl rfl
  | @pass later le idle => exact .of_map _ (watch?_pass s later i) fun w => carries_pass le idle
  | @advance upTo le =>
    have now : (s.advance course upTo).now = upTo := Nat.max_eq_right le
    refine .of_map _ (watch?_advance course upTo s i) fun w here => ?_
    rw [now]
    exact carries_advance sound le here

/-- What becomes of a watch while the monitor of another one is stopped. -/
theorem carries_stop (sound : s.Sound course) (there : s.watch? j = some w) (ne : j ≠ i) :
    CarriesAt course s (s.stop course j w) i := by
  refine .of_map _ (watch?_stop_of_ne there ne) fun w' here => ?_
  rw [now_stop there]
  exact carries_advance sound (w.le_endsAt s.now) here

/-- What becomes of the watches while a monitor is run once. -/
theorem carries_runOnce (sound : s.Sound course) (w : Watch) (i : Nat) :
    CarriesAt course s (s.runOnce course w).2 i := by
  have logged : Sound course { s with
      lines := s.lines ++ (course w.monitor s.now).entries.map (Line.mk none) } := by
    intro m k employs
    cases employs with
    | watch there monitor running => exact sound m k (.watch there monitor running)
    | leftover there => exact sound m k (.leftover there)
  exact (waits_sleep course (course w.monitor s.now).span _).carries logged i

/-- When all monitors have been stopped, all watches are released. -/
theorem watch?_stopAll (sound : s.Sound course) (i : Nat) :
    (s.stopAll course).watch? i = (s.watch? i).map Watch.release := by
  have stopped := stopping sound s.size
  show (s.stoppedTo course s.size).watch? i = _
  cases here : s.watch? i with
  | none => exact stopped.absent i here
  | some w => exact (stopped.released i w (lt_of_watch? here) here).1

/-! ## Between operations -/

/-- No worker of the watch at a position was told to stop. -/
def UntoldAt (s : Station) (i : Nat) : Prop :=
  ∀ w k, s.watch? i = some w → w.worker = some k → k.stopping = false

theorem UntoldAt.of_resting (resting : ∀ w, s.watch? i = some w → w.worker = none) :
    s.UntoldAt i := by
  intro w k here running
  rw [resting w here] at running
  cases running

theorem UntoldAt.carried (untold : s.UntoldAt i) (carries : CarriesAt course s s' i) :
    s'.UntoldAt i := by
  intro w' k' there running
  obtain ⟨w, here, carries⟩ := carries.exists_before there
  cases carries with
  | resting resting => exact untold w' k' here running
  | running was lives same =>
    cases running
    exact same.trans (untold w _ here was)

theorem UntoldAt.start (untold : s.UntoldAt i) (started : s.start j w = .ok s') :
    s'.UntoldAt i := by
  obtain ⟨-, rfl⟩ := eq_of_start started
  intro w' k there running
  have there' : (s.setWatch j (some { w with
      worker := some (.spawn w.monitor.period.nanos w.period_pos s.now) })).watch? i = some w' :=
    there
  rw [watch?_setWatch] at there'
  split at there'
  · split at there'
    · cases there'
      cases running
      rfl
    · cases there'
  · exact untold w' k there' running

theorem UntoldAt.startAll (untold : s.UntoldAt i) : s.startAll.UntoldAt i := by
  intro w' k there running
  cases here : s.watch? i with
  | none =>
    rw [watch?_startAll, here] at there
    cases there
  | some w =>
    cases worker : w.worker with
    | none =>
      rw [watch?_startAll_of_resting here worker] at there
      cases there
      cases running
      rfl
    | some k₀ =>
      rw [watch?_startAll_of_running here worker] at there
      cases there
      exact untold w' k here running

theorem Step.untold (step : Step course s s') (sound : s.Sound course) (untold : s.UntoldAt i) :
    s'.UntoldAt i := by
  cases step with
  | turn here running due => exact untold.carried (Waits.carries (.turn here running due) sound i)
  | turnLeftover here due => exact untold.carried (Waits.carries (.turnLeftover here due) sound i)
  | pass le idle => exact untold.carried (Waits.carries (.pass le idle) sound i)
  | advance le => exact untold.carried (Waits.carries (.advance le) sound i)
  | start here started => exact untold.start started
  | @stop j w here =>
    by_cases same : j = i
    · subst same
      refine .of_resting fun w' there => ?_
      rw [watch?_stop_self here] at there
      cases there
      rfl
    · exact untold.carried (carries_stop sound here same)
  | @drop j w here =>
    by_cases same : j = i
    · subst same
      refine .of_resting fun w' there => ?_
      rw [watch?_drop_self here] at there
      cases there
    · intro w' k there running
      rw [watch?_drop_of_ne same] at there
      exact untold w' k there running
  | @runOnce j w here => exact untold.carried (carries_runOnce sound w i)
  | startAll => exact untold.startAll
  | stopAll =>
    refine .of_resting fun w' there => ?_
    rw [watch?_stopAll sound, Option.map_eq_some_iff] at there
    obtain ⟨w, -, rfl⟩ := there
    rfl

/-- **Untold.** Between operations, no worker that has a watch was told to stop. -/
theorem Reached.untold (reached : Reached course s) (i : Nat) : s.UntoldAt i := by
  obtain ⟨s₀, nobody, evolves⟩ := reached
  have sound : s₀.Sound course := fun m k employs => absurd employs (nobody m k)
  induction evolves with
  | refl =>
    refine .of_resting fun w here => ?_
    cases worker : w.worker with
    | none => rfl
    | some k => exact absurd (.watch here rfl worker) (nobody w.monitor k)
  | tail before step ih => exact step.untold (Evolves.goes before sound).sound ih

/-- A worker of a monitor that was started at `start`, has done `acts` by now, and was never told to
stop. -/
structure Tenure (course : Monitor → Course) (m : Monitor) (start now : Nat)
    (acts : List (Nat × Act)) (k : Worker) : Prop where
  period_pos : 0 < m.period.nanos
  lives : Worker.Lives (course m) start (.spawn m.period.nanos period_pos start) now acts k
  untold : k.stopping = false

namespace Tenure

variable {start now later : Nat} {acts more : List (Nat × Act)} {k' : Worker}

theorem begin (course : Monitor → Course) (pos : 0 < m.period.nanos) (start : Nat) :
    Tenure course m start start [] (.spawn m.period.nanos pos start) := ⟨pos, .begin, rfl⟩

theorem trans (tenure : Tenure course m start now acts k)
    (lives : Worker.Lives (course m) now k later more k') (same : k'.stopping = k.stopping) :
    Tenure course m start later (acts ++ more) k' :=
  ⟨tenure.period_pos, tenure.lives.trans lives, same.trans tenure.untold⟩

theorem doing (tenure : Tenure course m start now acts k) :
    Worker.Doing (course m) now acts k := by
  have doing := (Worker.doing_spawn tenure.period_pos).lives tenure.lives
  rwa [List.nil_append] at doing

theorem anchored (tenure : Tenure course m start now acts k) :
    k.Anchored start ∧ k.period = m.period.nanos := by
  have from_ := Worker.anchored_spawn tenure.period_pos start
  obtain ⟨anchored, period, -⟩ := tenure.lives.anchored from_
  exact ⟨anchored, period⟩

end Tenure

/-- **Tenure.** Between operations, the worker of a watch is one that was started some time and was
never told to stop. -/
theorem Reached.exists_tenure (reached : Reached course s) (here : s.watch? i = some w)
    (running : w.worker = some k) : ∃ start acts, Tenure course w.monitor start s.now acts k := by
  obtain ⟨start, pos, acts, lives⟩ := reached.sound _ _ (.watch here rfl running)
  exact ⟨start, acts, pos, lives, reached.untold i w k here running⟩

/-- The worker of a watch as it is when it was told to stop at `now` and is done. -/
def lastWorker? (course : Monitor → Course) (now : Nat) (w : Watch) : Option Worker :=
  (w.signal.advance course (w.endsAt now)).1.worker

/-- A worker that is taken away from its watch has ended. -/
theorem ended_of_lastWorker? (reached : Reached course s) (here : s.watch? i = some w)
    (last : lastWorker? course s.now w = some k) : k.nextMoment? = none := by
  unfold lastWorker? at last
  cases worker : w.worker with
  | none =>
    rw [Watch.signal_of_none worker, Watch.advance_of_none course _ worker, worker] at last
    cases last
  | some k₀ =>
    rw [Watch.signal_of_some worker, Watch.advance_of_some course _ rfl] at last
    obtain rfl := Option.some.inj last
    obtain ⟨start, acts, tenure⟩ := reached.exists_tenure here worker
    rw [Watch.endsAt_of_some worker]
    exact tenure.doing.stops.done _ (Nat.le_refl _)

end Station

end Vigil

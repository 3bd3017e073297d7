import Mathlib.Logic.Relation
import Vigil.Proofs.Schedule.Lives
import Vigil.Proofs.Schedule.Setup

/-!
# What happens to a station

`Station.Step` lists what can happen to a station next. Its workers do what is due one by one and
in any order (`turn`, `turnLeftover`, `pass`), or are let work together (`advance`); and watches are
started, stopped and given up. After any number of such steps each worker leads the life of a
worker that was started some time (`Sound`), and a worker whose watch was given up goes on living
it at its place among the leftovers (`Goes`). Each operation has a lemma that says so, and from
these `Evolves.goes` follows for any number of steps.
-/

set_option autoImplicit false

namespace Vigil

theorem Watch.advance_eq (course : Monitor → Course) (upTo : Nat) (w : Watch) :
    (w.advance course upTo).1 =
      { w with worker := w.worker.map fun k => (k.advance (course w.monitor) upTo).1 } := by
  obtain ⟨m, pos, worker⟩ := w
  cases worker <;> rfl

theorem Watch.le_endsAt (w : Watch) (now : Nat) : now ≤ w.endsAt now := by
  unfold endsAt
  cases w.worker with
  | none => exact Nat.le_refl _
  | some k => exact k.le_endsAt now

namespace Station

variable {course : Monitor → Course} {s s' s'' : Station} {i j n upTo later : Nat} {m : Monitor}
  {w w' : Watch} {k k' : Worker}

/-! ## The watch at a position -/

theorem lt_of_watch? (here : s.watch? i = some w) : i < s.watches.length := by
  apply Nat.lt_of_not_le
  intro past
  rw [watch?, List.getElem?_eq_none past] at here
  cases here

theorem watch?_setWatch (s : Station) (i j : Nat) (w : Option Watch) :
    (s.setWatch i w).watch? j =
      if i = j then if i < s.watches.length then w else none else s.watch? j := by
  unfold watch? setWatch
  rw [List.getElem?_set]
  split
  · next same =>
    subst same
    split <;> rfl
  · rfl

theorem watch?_setWatch_self (here : s.watch? i = some w) (w' : Option Watch) :
    (s.setWatch i w').watch? i = w' := by
  rw [watch?_setWatch, if_pos rfl, if_pos (lt_of_watch? here)]

theorem watch?_setWatch_of_ne (ne : i ≠ j) (w : Option Watch) :
    (s.setWatch i w).watch? j = s.watch? j := by
  rw [watch?_setWatch, if_neg ne]

theorem join_getElem?_map {f : Option Watch → Option Watch} (none : f none = none)
    (ws : List (Option Watch)) (i : Nat) : ((ws.map f)[i]?).join = f (ws[i]?).join := by
  rw [List.getElem?_map]
  cases ws[i]? with
  | none => exact none.symm
  | some w => rfl

theorem watch?_advance (course : Monitor → Course) (upTo : Nat) (s : Station) (i : Nat) :
    (s.advance course upTo).watch? i = (s.watch? i).map fun w => (w.advance course upTo).1 := by
  have each : (s.advance course upTo).watches =
      s.watches.map fun w => (advanceWatch course upTo w).1 := List.map_map
  unfold watch?
  rw [each, join_getElem?_map rfl]
  cases (s.watches[i]?).join <;> rfl

theorem leftover_advance (course : Monitor → Course) (upTo : Nat) (s : Station) (n : Nat) :
    (s.advance course upTo).leftovers[n]? =
      (s.leftovers[n]?).map fun l => (l.1, (l.2.advance (course l.1) upTo).1) := by
  have each : (s.advance course upTo).leftovers =
      s.leftovers.map fun l => (advanceLeftover course upTo l).1 := List.map_map
  rw [each, List.getElem?_map]
  rfl

/-! ## Steps -/

/-- A worker works at a station, for a monitor whose watch is there or was given up. -/
inductive Employs (s : Station) (m : Monitor) (k : Worker) : Prop where
  | watch {i : Nat} {w : Watch} (here : s.watch? i = some w) (monitor : w.monitor = m)
      (running : w.worker = some k)
  | leftover {n : Nat} (here : s.leftovers[n]? = some (m, k))

/-- Time goes by, and nobody does anything. -/
def pass (s : Station) (later : Nat) : Station :=
  { s with
    now := later
    watches := s.watches.map (Option.map fun w => { w with worker := w.worker.map (·.wait later) })
    leftovers := s.leftovers.map fun l => (l.1, l.2.wait later) }

theorem watch?_pass (s : Station) (later i : Nat) :
    (s.pass later).watch? i =
      (s.watch? i).map fun w => { w with worker := w.worker.map (·.wait later) } := by
  unfold pass watch?
  rw [join_getElem?_map rfl]

/-- The worker of the watch at a position does what is due. -/
def turn (course : Monitor → Course) (s : Station) (i : Nat) (w : Watch) (k : Worker) : Station :=
  let r := k.act (course w.monitor) s.now
  { s.setWatch i (some { w with worker := some r.1 }) with
    lines := s.lines ++ workerLines w.name [(s.now, r.2)] }

/-- A worker without a watch does what is due. -/
def turnLeftover (course : Monitor → Course) (s : Station) (n : Nat) (m : Monitor) (k : Worker) :
    Station :=
  let r := k.act (course m) s.now
  { s with
    leftovers := s.leftovers.set n (m, r.1)
    lines := s.lines ++ workerLines m.name [(s.now, r.2)] }

/-- What can happen to a station next. -/
inductive Step (course : Monitor → Course) (s : Station) : Station → Prop where
  | turn {i : Nat} {w : Watch} {k : Worker} (here : s.watch? i = some w)
      (running : w.worker = some k) (due : k.nextMoment? = some s.now) :
      Step course s (s.turn course i w k)
  | turnLeftover {n : Nat} {m : Monitor} {k : Worker} (here : s.leftovers[n]? = some (m, k))
      (due : k.nextMoment? = some s.now) : Step course s (s.turnLeftover course n m k)
  /-- Time goes by, but not past what a worker has to do. -/
  | pass {later : Nat} (le : s.now ≤ later)
      (idle : ∀ m k, s.Employs m k → ∀ next, k.nextMoment? = some next → later ≤ next) :
      Step course s (s.pass later)
  | advance {upTo : Nat} (le : s.now ≤ upTo) : Step course s (s.advance course upTo)
  | start {i : Nat} {w : Watch} {s' : Station} (here : s.watch? i = some w)
      (started : s.start i w = .ok s') : Step course s s'
  | stop {i : Nat} {w : Watch} (here : s.watch? i = some w) : Step course s (s.stop course i w)
  | drop {i : Nat} {w : Watch} (here : s.watch? i = some w) : Step course s (s.drop i w)
  | runOnce {i : Nat} {w : Watch} (here : s.watch? i = some w) :
      Step course s (s.runOnce course w).2
  | startAll : Step course s s.startAll
  | stopAll : Step course s (s.stopAll course)

/-- What a station becomes in any number of steps. -/
abbrev Evolves (course : Monitor → Course) : Station → Station → Prop :=
  Relation.ReflTransGen (Step course)

/-- The stations that come of one at which nobody worked. -/
def Reached (course : Monitor → Course) (s : Station) : Prop :=
  ∃ s₀, (∀ m k, ¬ Employs s₀ m k) ∧ Evolves course s₀ s

theorem Reached.step (reached : Reached course s) (step : Step course s s') :
    Reached course s' := by
  obtain ⟨s₀, nobody, evolves⟩ := reached
  exact ⟨s₀, nobody, evolves.tail step⟩

theorem not_employs_ofMonitors {now : Nat} {ms : List Monitor} (ok : ofMonitors now ms = .ok s) :
    ¬ s.Employs m k := by
  obtain ⟨ws, each, rfl⟩ := ofMonitors_eq ok
  intro employs
  cases employs with
  | @watch i w here _ running =>
    obtain ⟨-, m, -, made⟩ := watch?_ofMonitors each here
    rw [Watch.worker_ofMonitor made] at running
    cases running
  | leftover here => cases here

/-- A station that has just been set up. -/
theorem reached_ofMonitors {now : Nat} {ms : List Monitor} (ok : ofMonitors now ms = .ok s) :
    Reached course s :=
  ⟨s, fun _ _ => not_employs_ofMonitors ok, .refl⟩

/-! ## What stays so -/

/-- A worker of a monitor that was started some time and is what it has become by now. -/
def Living (course : Monitor → Course) (now : Nat) (m : Monitor) (k : Worker) : Prop :=
  ∃ start pos acts, Worker.Lives (course m) start (.spawn m.period.nanos pos start) now acts k

theorem Living.doing {now : Nat} (living : Living course now m k) :
    ∃ acts, Worker.Doing (course m) now acts k := by
  obtain ⟨start, pos, acts, lives⟩ := living
  exact ⟨_, (Worker.doing_spawn pos).lives lives⟩

theorem Living.lives {now later : Nat} {more : List (Nat × Act)} (living : Living course now m k)
    (lives : Worker.Lives (course m) now k later more k') : Living course later m k' := by
  obtain ⟨start, pos, acts, before⟩ := living
  exact ⟨start, pos, _, before.trans lives⟩

/-- Every worker at a station lives. -/
def Sound (course : Monitor → Course) (s : Station) : Prop :=
  ∀ m k, s.Employs m k → Living course s.now m k

/-- A station becomes another one. Its workers live on, those without a watch at their places. -/
structure Goes (course : Monitor → Course) (s s' : Station) : Prop where
  sound : s'.Sound course
  leftovers : ∀ (n : Nat) (m : Monitor) (k : Worker), s.leftovers[n]? = some (m, k) →
    ∃ more k', s'.leftovers[n]? = some (m, k') ∧ Worker.Lives (course m) s.now k s'.now more k'

theorem Goes.refl (sound : s.Sound course) : Goes course s s where
  sound := sound
  leftovers _ _ k here := ⟨[], k, here, .begin⟩

theorem Goes.trans (first : Goes course s s') (second : Goes course s' s'') :
    Goes course s s'' where
  sound := second.sound
  leftovers n m k here := by
    obtain ⟨early, k', there, lives⟩ := first.leftovers n m k here
    obtain ⟨late, k'', then_, lives'⟩ := second.leftovers n m k' there
    exact ⟨early ++ late, k'', then_, lives.trans lives'⟩

/-- Only watches change, and their workers live. -/
theorem Goes.of_watches (sound : s.Sound course) (now : s'.now = s.now)
    (leftovers : s'.leftovers = s.leftovers)
    (living : ∀ i w, s'.watch? i = some w → ∀ k, w.worker = some k →
      Living course s.now w.monitor k) : Goes course s s' where
  sound m k employs := by
    rw [now]
    cases employs with
    | watch here monitor running =>
      rw [← monitor]
      exact living _ _ here k running
    | leftover here =>
      rw [leftovers] at here
      exact sound m k (.leftover here)
  leftovers n m k here := by
    rw [leftovers, now]
    exact ⟨[], k, here, .begin⟩

/-- Every worker lives on. -/
theorem Goes.of_each (f : Monitor → Worker → Worker) (sound : s.Sound course)
    (watches : ∀ i, s'.watch? i =
      (s.watch? i).map fun w => { w with worker := w.worker.map (f w.monitor) })
    (leftovers : ∀ n : Nat, s'.leftovers[n]? = (s.leftovers[n]?).map fun l => (l.1, f l.1 l.2))
    (lives : ∀ m k, s.Employs m k →
      ∃ more, Worker.Lives (course m) s.now k s'.now more (f m k)) : Goes course s s' where
  sound m k employs := by
    cases employs with
    | @watch i w here monitor running =>
      rw [watches, Option.map_eq_some_iff] at here
      obtain ⟨w, here, rfl⟩ := here
      obtain ⟨k, was, rfl⟩ := Option.map_eq_some_iff.1 running
      have employed : s.Employs w.monitor k := .watch here rfl was
      obtain ⟨more, lives⟩ := lives w.monitor k employed
      rw [← monitor]
      exact (sound _ _ employed).lives lives
    | @leftover n here =>
      rw [leftovers, Option.map_eq_some_iff] at here
      obtain ⟨⟨m, k⟩, here, eq⟩ := here
      cases eq
      obtain ⟨more, lives⟩ := lives m k (.leftover here)
      exact (sound _ _ (.leftover here)).lives lives
  leftovers n m k here := by
    obtain ⟨more, lives⟩ := lives m k (.leftover here)
    refine ⟨more, f m k, ?_, lives⟩
    rw [leftovers, here]
    rfl

theorem goes_setWatch (sound : s.Sound course) (i : Nat) {w : Option Watch}
    (living : ∀ w', w = some w' → ∀ k, w'.worker = some k → Living course s.now w'.monitor k) :
    Goes course s (s.setWatch i w) := by
  refine Goes.of_watches sound rfl rfl ?_
  intro j w' here k running
  rw [watch?_setWatch] at here
  split at here
  · split at here
    · exact living w' here k running
    · cases here
  · exact sound _ _ (.watch here rfl running)

theorem goes_report (sound : s.Sound course) (events : List Event) :
    Goes course s (s.report events) :=
  .of_watches sound rfl rfl fun _ _ here _ running => sound _ _ (.watch here rfl running)

theorem goes_advance (sound : s.Sound course) (le : s.now ≤ upTo) :
    Goes course s (s.advance course upTo) := by
  have now : (s.advance course upTo).now = upTo := Nat.max_eq_right le
  apply Goes.of_each (fun m k => (k.advance (course m) upTo).1) sound
  case watches =>
    intro i
    rw [watch?_advance]
    simp only [Watch.advance_eq]
  case leftovers => exact leftover_advance course upTo s
  case lives =>
    intro m k employs
    obtain ⟨acts, doing⟩ := (sound m k employs).doing
    rw [now]
    exact ⟨_, (Worker.lives_advance (course m) upTo k s.now acts doing le).1⟩

theorem goes_pass (sound : s.Sound course) (le : s.now ≤ later)
    (idle : ∀ m k, s.Employs m k → ∀ next, k.nextMoment? = some next → later ≤ next) :
    Goes course s (s.pass later) := by
  apply Goes.of_each (fun _ k => k.wait later) sound
  case watches => exact watch?_pass s later
  case leftovers => exact fun n => List.getElem?_map
  case lives =>
    intro m k employs
    exact ⟨[], Worker.Lives.begin.wait le (idle m k employs)⟩

theorem goes_turn (sound : s.Sound course) (here : s.watch? i = some w)
    (running : w.worker = some k) (due : k.nextMoment? = some s.now) :
    Goes course s (s.turn course i w k) := by
  have acted := (sound _ _ (.watch here rfl running)).lives (Worker.Lives.begin.act due)
  have set : Goes course s (s.setWatch i
      (some { w with worker := some (k.act (course w.monitor) s.now).1 })) := by
    apply goes_setWatch sound
    intro w' eq k' running'
    cases eq
    cases running'
    exact acted
  exact .of_watches sound rfl rfl fun _ _ there _ running' =>
    set.sound _ _ (.watch there rfl running')

theorem goes_turnLeftover (sound : s.Sound course) (here : s.leftovers[n]? = some (m, k))
    (due : k.nextMoment? = some s.now) : Goes course s (s.turnLeftover course n m k) := by
  have begun : Worker.Lives (course m) s.now k s.now [] k := .begin
  have life := begun.act due
  have get : ∀ p : Nat, (s.turnLeftover course n m k).leftovers[p]? =
      if n = p then some (m, (k.act (course m) s.now).1) else s.leftovers[p]? := by
    intro p
    unfold turnLeftover
    rw [List.getElem?_set]
    split
    · next same =>
      subst same
      rw [if_pos (List.getElem?_eq_some_iff.1 here).1]
    · rfl
  refine ⟨?_, ?_⟩
  · intro m' k' employs
    cases employs with
    | watch there monitor running => exact sound _ _ (.watch there monitor running)
    | leftover there =>
      rw [get] at there
      split at there
      · cases there
        exact (sound _ _ (.leftover here)).lives life
      · exact sound _ _ (.leftover there)
  · intro p m' k' there
    rw [get]
    split
    · next same =>
      subst same
      rw [here] at there
      cases there
      exact ⟨_, _, rfl, life⟩
    · exact ⟨[], k', there, .begin⟩

/-- A monitor that is started has no worker, and gets one. -/
theorem eq_of_start (started : s.start i w = .ok s') :
    w.worker = none ∧
      s' = (s.setWatch i (some { w with
        worker := some (.spawn w.monitor.period.nanos w.period_pos s.now) })).report
        [.monitorStarted w.name w.monitor.period] := by
  unfold start Watch.start at started
  split at started
  · cases started
  · next resting =>
    cases started
    exact ⟨by simpa [Watch.isRunning] using resting, rfl⟩

theorem goes_start (sound : s.Sound course) {s' : Station} (started : s.start i w = .ok s') :
    Goes course s s' := by
  obtain ⟨-, rfl⟩ := eq_of_start started
  have set : Goes course s (s.setWatch i
      (some { w with worker := some (.spawn w.monitor.period.nanos w.period_pos s.now) })) := by
    apply goes_setWatch sound
    intro w' eq k running
    cases eq
    cases running
    exact ⟨s.now, w.period_pos, [], .begin⟩
  exact set.trans (goes_report set.sound _)

theorem living_signal (sound : s.Sound course) (employs : s.Employs m k) :
    Living course s.now m k.signal :=
  (sound m k employs).lives Worker.Lives.begin.signal

/-- The worker of the watch at a position is told to stop. -/
theorem goes_signal (sound : s.Sound course) (here : s.watch? i = some w) :
    Goes course s (s.setWatch i (some w.signal)) := by
  apply goes_setWatch sound
  intro w' eq k running
  cases eq
  obtain ⟨k, was, rfl⟩ := Option.map_eq_some_iff.1 running
  exact living_signal sound (.watch here rfl was)

theorem goes_await (sound : s.Sound course) (i : Nat) (w : Watch) :
    Goes course s (s.await course i w) := by
  unfold await
  have waited := goes_advance sound (w.le_endsAt s.now)
  simp only
  split
  · next w' there =>
    have released := goes_setWatch waited.sound i (w := some w'.release) fun _ eq _ running => by
      cases eq
      cases running
    exact (waited.trans released).trans (goes_report released.sound _)
  · exact waited

theorem goes_stop (sound : s.Sound course) (here : s.watch? i = some w) :
    Goes course s (s.stop course i w) :=
  have told := goes_signal sound here
  told.trans (goes_await told.sound i w)

theorem drop_eq (s : Station) (i : Nat) (w : Watch) :
    s.drop i w = { s.setWatch i none with
      leftovers := s.leftovers ++ (w.worker.map fun k => (w.monitor, k.signal)).toList } := by
  unfold drop Watch.signal
  cases w.worker with
  | none =>
    simp only [Option.map_none, Option.toList_none, List.append_nil]
    rfl
  | some k => rfl

theorem watch?_drop_self (here : s.watch? i = some w) : (s.drop i w).watch? i = none := by
  rw [drop_eq]
  exact watch?_setWatch_self here none

theorem watch?_drop_of_ne (ne : i ≠ j) : (s.drop i w).watch? j = s.watch? j := by
  rw [drop_eq]
  exact watch?_setWatch_of_ne ne none

theorem goes_drop (sound : s.Sound course) (here : s.watch? i = some w) :
    Goes course s (s.drop i w) := by
  have gone : Goes course s (s.setWatch i none) := by
    apply goes_setWatch sound
    intro w' eq
    cases eq
  unfold drop
  simp only
  split
  · next k running =>
    obtain ⟨k, was, rfl⟩ := Option.map_eq_some_iff.1 running
    have told := living_signal sound (.watch here rfl was)
    refine ⟨?_, ?_⟩
    · intro m k' employs
      cases employs with
      | watch there monitor running' => exact gone.sound _ _ (.watch there monitor running')
      | @leftover n there =>
        rcases List.mem_append.1 (List.mem_of_getElem? there) with mem | mem
        · obtain ⟨p, at_p⟩ := List.mem_iff_getElem?.1 mem
          exact sound _ _ (.leftover at_p)
        · cases List.mem_singleton.1 mem
          exact told
    · intro n m k' there
      refine ⟨[], k', ?_, .begin⟩
      exact (List.getElem?_append_left (List.getElem?_eq_some_iff.1 there).1).trans there
  · exact gone

theorem goes_runOnce (sound : s.Sound course) (w : Watch) :
    Goes course s (s.runOnce course w).2 := by
  unfold runOnce sleep
  have logged : Goes course s { s with
      lines := s.lines ++ (course w.monitor s.now).entries.map (Line.mk none) } :=
    .of_watches sound rfl rfl fun _ _ here _ running => sound _ _ (.watch here rfl running)
  exact logged.trans (goes_advance logged.sound (Nat.le_add_right _ _))

theorem watch?_startAll (s : Station) (i : Nat) :
    s.startAll.watch? i = (startOne s.now (s.watch? i)).1 := by
  unfold startAll report watch?
  simp only [List.map_map]
  exact join_getElem?_map rfl _ i

theorem watch?_startAll_of_running (here : s.watch? i = some w) (running : w.worker = some k) :
    s.startAll.watch? i = some w := by
  have refused : w.start s.now = .error ⟨w.name⟩ := by
    rw [Watch.start, Watch.isRunning, running]
    rfl
  rw [watch?_startAll, here, startOne]
  simp only [refused]

theorem watch?_startAll_of_resting (here : s.watch? i = some w) (resting : w.worker = none) :
    s.startAll.watch? i =
      some { w with worker := some (.spawn w.monitor.period.nanos w.period_pos s.now) } := by
  have granted : w.start s.now =
      .ok { w with worker := some (.spawn w.monitor.period.nanos w.period_pos s.now) } := by
    rw [Watch.start, Watch.isRunning, resting]
    rfl
  rw [watch?_startAll, here, startOne]
  simp only [granted]

theorem goes_startAll (sound : s.Sound course) : Goes course s s.startAll := by
  refine Goes.of_watches sound rfl rfl ?_
  intro i w here k running
  cases before : s.watch? i with
  | none =>
    rw [watch?_startAll, before] at here
    cases here
  | some w₀ =>
    cases worker : w₀.worker with
    | none =>
      rw [watch?_startAll_of_resting before worker] at here
      cases here
      cases running
      exact ⟨s.now, w₀.period_pos, [], .begin⟩
    | some k₀ =>
      rw [watch?_startAll_of_running before worker] at here
      cases here
      exact sound _ _ (.watch before rfl running)

theorem watch?_signalAll (s : Station) (i : Nat) :
    s.signalAll.watch? i = (s.watch? i).map Watch.signal := by
  unfold signalAll watch?
  rw [join_getElem?_map rfl]

theorem goes_signalAll (sound : s.Sound course) : Goes course s s.signalAll := by
  refine Goes.of_watches sound rfl rfl ?_
  intro i w here k running
  rw [watch?_signalAll, Option.map_eq_some_iff] at here
  obtain ⟨w, here, rfl⟩ := here
  obtain ⟨k, was, rfl⟩ := Option.map_eq_some_iff.1 running
  exact living_signal sound (.watch here rfl was)

theorem goes_stopAt (sound : s.Sound course) (i : Nat) : Goes course s (s.stopAt course i) := by
  unfold stopAt
  split
  · next w here => exact goes_stop sound here
  · exact .refl sound

theorem goes_stopAts (sound : s.Sound course) (is : List Nat) :
    Goes course s (is.foldl (stopAt course) s) := by
  induction is generalizing s with
  | nil => exact .refl sound
  | cons i is ih =>
    have first := goes_stopAt sound i
    exact first.trans (ih first.sound)

theorem goes_stopAll (sound : s.Sound course) : Goes course s (s.stopAll course) := by
  have told := goes_signalAll sound
  have stopped := told.trans (goes_stopAts told.sound (List.range s.size))
  exact stopped.trans (goes_report stopped.sound _)

/-- **One step.** Whatever happens to a station, its workers live on. -/
theorem Step.goes (step : Step course s s') (sound : s.Sound course) : Goes course s s' := by
  cases step with
  | turn here running due => exact goes_turn sound here running due
  | turnLeftover here due => exact goes_turnLeftover sound here due
  | pass le idle => exact goes_pass sound le idle
  | advance le => exact goes_advance sound le
  | start here started => exact goes_start sound started
  | stop here => exact goes_stop sound here
  | drop here => exact goes_drop sound here
  | @runOnce i w here => exact goes_runOnce sound w
  | startAll => exact goes_startAll sound
  | stopAll => exact goes_stopAll sound

/-- **Any number of steps.** -/
theorem Evolves.goes (evolves : Evolves course s s') (sound : s.Sound course) :
    Goes course s s' := by
  induction evolves with
  | refl => exact .refl sound
  | tail _ step ih => exact ih.trans (step.goes ih.sound)

theorem Reached.sound (reached : Reached course s) : s.Sound course := by
  obtain ⟨s₀, nobody, evolves⟩ := reached
  have sound : s₀.Sound course := fun m k employs => absurd employs (nobody m k)
  exact (Evolves.goes evolves sound).sound

end Station

end Vigil

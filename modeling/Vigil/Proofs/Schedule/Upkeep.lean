import Vigil.Proofs.Schedule.Apart
import Vigil.Proofs.Schedule.Career
import Vigil.Proofs.Schedule.Staff

/-!
# What a career keeps

A monitor that is asked one operation after the other has a worker exactly if it has been started
and not stopped since. The worker was started at the moment that its career tells, has done what its
career tells, and was never told to stop; the runs of the workers before it had ended when it was
started. This is `Career.Sound`. Each operation has a lemma that says that it stays so; they come
together in `Career.Sound.perform`, and by induction along the operations in `Career.Sound.run`.
-/

set_option autoImplicit false

namespace Vigil

namespace Station

variable {s : Station} {w : Watch}

theorem workerLines_append (name : String) (acts more : List (Nat × Act)) :
    workerLines name (acts ++ more) = workerLines name acts ++ workerLines name more :=
  List.flatMap_append

/-- What is logged when the only worker of a station works. -/
theorem lines_advance_alone (watches : s.watches = [some w]) (leftovers : s.leftovers = [])
    (course : Monitor → Course) (upTo : Nat) :
    (s.advance course upTo).lines =
      s.lines ++ workerLines w.name (w.advance course upTo).2 := by
  unfold advance
  rw [watches, leftovers]
  show s.lines ++ (workerLines w.name (w.advance course upTo).2 ++ []) ++ [] = _
  rw [List.append_nil, List.append_nil]

theorem watches_setWatch_alone (watches : s.watches = [some w]) (w' : Option Watch) :
    (s.setWatch 0 w').watches = [w'] := by
  unfold setWatch
  rw [watches]
  rfl

theorem watches_advance_alone (watches : s.watches = [some w]) (course : Monitor → Course)
    (upTo : Nat) : (s.advance course upTo).watches = [some (w.advance course upTo).1] := by
  unfold advance
  rw [watches]
  rfl

end Station

namespace Watch

variable {w : Watch} {k : Worker}

theorem acts_of_some (course : Monitor → Course) (upTo : Nat) (running : w.worker = some k) :
    (w.advance course upTo).2 = (k.advance (course w.monitor) upTo).2 := by
  rw [advance, running]

theorem acts_of_none (course : Monitor → Course) (upTo : Nat) (resting : w.worker = none) :
    (w.advance course upTo).2 = [] := by
  rw [advance, resting]

theorem isRunning_of_some (running : w.worker = some k) : w.isRunning = true := by
  rw [isRunning, running]
  rfl

theorem isRunning_advance (course : Monitor → Course) (upTo : Nat) (w : Watch) :
    (w.advance course upTo).1.isRunning = w.isRunning := by
  rw [advance_eq]
  exact Option.isSome_map ..

theorem isIdle_iff {later : Nat} (running : w.worker = some k) :
    w.isIdle later = true ↔ ∀ next, k.nextMoment? = some next → later ≤ next := by
  unfold isIdle
  rw [running, Option.bind_some, Option.all_eq_true]
  simp only [decide_eq_true_eq]

end Watch

namespace Career

open Station (Tenure)

variable {course : Monitor → Course} {c c' : Career} {w : Watch} {m : Monitor} {k : Worker}
  {op : Operation} {ops : List Operation} {upTo : Nat}

/-- A career of the monitor `m`, whose watch is `w`. -/
structure Sound (course : Monitor → Course) (m : Monitor) (c : Career) (w : Watch) : Prop where
  watches : c.station.watches = [some w]
  leftovers : c.station.leftovers = []
  monitor : w.monitor = m
  /-- What workers have reported is what is reported of what they have done. -/
  log : c.station.lines.filter (·.worker.isSome) =
    Station.workerLines m.name (c.past ++ c.own)
  resting : w.worker = none → c.own = []
  running : ∀ k, w.worker = some k → Tenure course m c.started c.station.now c.own k
  /-- The runs of the workers before have come one after the other, -/
  successive : Successive c.past
  /-- they have ended, -/
  ended : ∀ run ∈ runs c.past, run.2 ≤ c.station.now
  /-- and had when the worker was started that there is now. -/
  before : w.isRunning = true → ∀ run ∈ runs c.past, run.2 ≤ c.started

theorem Sound.watch? (sound : Sound course m c w) : c.watch? = some w := by
  unfold Career.watch? Station.watch?
  rw [sound.watches]
  rfl

theorem Sound.isRunning (sound : Sound course m c w) : c.isRunning = w.isRunning := by
  unfold Career.isRunning
  rw [sound.watch?]
  rfl

theorem sound_begin (course : Monitor → Course) (ok : Watch.ofMonitor m = .ok w) (now : Nat) :
    Sound course m (.begin now w) w := by
  obtain ⟨pos, rfl⟩ := Watch.ofMonitor_eq_ok_iff.1 ok
  exact ⟨rfl, rfl, rfl, rfl, fun _ => rfl, nofun, .nil, nofun, nofun⟩

/-! ## One operation -/

/-- Time goes by for a worker that has done `c.own`, and it does more. -/
theorem Sound.goesOn (sound : Sound course m c w) {s : Station} {k k' : Worker}
    {more : List (Nat × Act)} {now : Nat} (at_ : s.now = now) (was : w.worker = some k)
    (lives : Worker.Lives (course m) c.station.now k now more k')
    (untold : k'.stopping = k.stopping)
    (watches : s.watches = [some { w with worker := some k' }]) (leftovers : s.leftovers = [])
    (log : s.lines.filter (·.worker.isSome) =
      c.station.lines.filter (·.worker.isSome) ++ Station.workerLines m.name more) :
    Sound course m { c with station := s, own := c.own ++ more }
      { w with worker := some k' } where
  watches := watches
  leftovers := leftovers
  monitor := sound.monitor
  log := by
    rw [log, sound.log, ← Station.workerLines_append, List.append_assoc]
  resting := nofun
  running := by
    rintro _ ⟨⟩
    subst at_
    exact (sound.running k was).trans lives untold
  successive := sound.successive
  ended run mem := by
    subst at_
    exact Nat.le_trans (sound.ended run mem) lives.le
  before _ := sound.before (Watch.isRunning_of_some was)

/-- Time goes by for a monitor that has no worker. -/
theorem Sound.rests (sound : Sound course m c w) {s : Station} (resting : w.worker = none)
    (watches : s.watches = [some w]) (leftovers : s.leftovers = [])
    (le : c.station.now ≤ s.now)
    (log : s.lines.filter (·.worker.isSome) = c.station.lines.filter (·.worker.isSome)) :
    Sound course m { c with station := s } w where
  watches := watches
  leftovers := leftovers
  monitor := sound.monitor
  log := log.trans sound.log
  resting := sound.resting
  running k running := by
    rw [resting] at running
    cases running
  successive := sound.successive
  ended run mem := Nat.le_trans (sound.ended run mem) le
  before := sound.before

theorem Sound.letWork (sound : Sound course m c w) {s : Station}
    (same : s.quiet = c.station.quiet) (le : c.station.now ≤ upTo) :
    Sound course m (c.letWork course w (s.advance course upTo)) (w.advance course upTo).1 := by
  obtain rfl := sound.monitor
  have here : s.quiet.now = c.station.quiet.now := congrArg Station.now same
  have now : (s.advance course upTo).now = upTo :=
    Nat.max_eq_right (Nat.le_trans (Nat.le_of_eq here) le)
  have stand : s.quiet.watches = c.station.quiet.watches := congrArg Station.watches same
  have watches : s.quiet.watches = [some w] := stand.trans sound.watches
  have left : s.quiet.leftovers = c.station.quiet.leftovers := congrArg Station.leftovers same
  have none : s.quiet.leftovers = [] := left.trans sound.leftovers
  have watches' := Station.watches_advance_alone watches course upTo
  have leftovers := Station.leftovers_advance course upTo none
  have log : (s.advance course upTo).lines.filter (·.worker.isSome) =
      c.station.lines.filter (·.worker.isSome) ++
        Station.workerLines w.monitor.name (w.advance course upTo).2 := by
    have quiet : s.quiet.lines = c.station.quiet.lines := congrArg Station.lines same
    have advanced := congrArg Station.lines (Station.quiet_advance course upTo s)
    rw [Station.lines_advance_alone watches none, quiet] at advanced
    exact advanced
  unfold Career.letWork
  rw [now]
  cases worker : w.worker with
  | none =>
    rw [Watch.acts_of_none course upTo worker] at log ⊢
    rw [Watch.advance_of_none course upTo worker] at watches' ⊢
    rw [List.append_nil]
    exact sound.rests worker watches' leftovers (Nat.le_trans le (Nat.le_of_eq now.symm))
      (log.trans (List.append_nil _))
  | some k =>
    have lives := (Worker.lives_advance (course w.monitor) upTo k c.station.now c.own
      (sound.running k worker).doing le).1
    rw [Watch.acts_of_some course upTo worker] at log ⊢
    rw [Watch.advance_of_some course upTo worker] at watches' ⊢
    exact sound.goesOn now worker lives (Worker.advance_stopping _ upTo k) watches' leftovers log

/-- The worker of a monitor that is started begins its career now. -/
theorem Sound.start (sound : Sound course m c w) (resting : w.worker = none) {events : List Event} :
    Sound course m
      { c with
        station := (c.station.setWatch 0 (some { w with
          worker := some (.spawn w.monitor.period.nanos w.period_pos c.station.now) })).report events
        own := []
        started := c.station.now }
      { w with worker := some (.spawn w.monitor.period.nanos w.period_pos c.station.now) } where
  watches := Station.watches_setWatch_alone sound.watches _
  leftovers := sound.leftovers
  monitor := sound.monitor
  log := by
    have log := sound.log
    rw [sound.resting resting] at log
    rwa [Station.filter_report]
  resting := nofun
  running := by
    obtain rfl := sound.monitor
    rintro _ ⟨⟩
    exact .begin course w.period_pos c.station.now
  successive := sound.successive
  ended := sound.ended
  before _ := sound.ended

/-- The worker has not begun a run since it was told to stop. -/
theorem Sound.runs_stopped (sound : Sound course m c w) :
    runs (c.stopped course w).past = runs (c.past ++ c.own) := by
  obtain rfl := sound.monitor
  have none : runs (w.signal.advance course (w.endsAt c.station.now)).2 = [] := by
    cases worker : w.worker with
    | none =>
      rw [Watch.signal_of_none worker, Watch.acts_of_none course _ worker]
      rfl
    | some k =>
      have doing := (sound.running k worker).doing
      have lives := (Worker.lives_advance (course w.monitor) (w.endsAt c.station.now) k.signal _ _
        doing.signal (w.le_endsAt _)).1
      rw [Watch.signal_of_some worker, Watch.acts_of_some course _ rfl]
      exact doing.stops.none_begins _ _ _ lives
  unfold stopped
  rw [runs_append, none, List.append_nil]

/-- The runs of all workers, those before and the one that there is now. -/
theorem Sound.successive_all (sound : Sound course m c w) : Successive (c.past ++ c.own) := by
  cases worker : w.worker with
  | none =>
    rw [sound.resting worker, List.append_nil]
    exact sound.successive
  | some k =>
    have before := sound.before (Watch.isRunning_of_some worker)
    have apart := (sound.running k worker).lives.apart
    exact sound.successive.append apart.successive before apart.begun

/-- When the monitor is stopped, all runs have ended. -/
theorem Sound.ended_stopped (sound : Sound course m c w) :
    ∀ run ∈ runs (c.past ++ c.own), run.2 ≤ w.endsAt c.station.now := by
  have le := w.le_endsAt c.station.now
  rw [runs_append]
  refine List.forall_mem_append.2
    ⟨fun run mem => Nat.le_trans (sound.ended run mem) le, fun run mem => ?_⟩
  cases worker : w.worker with
  | none =>
    rw [sound.resting worker] at mem
    cases mem
  | some k =>
    rcases (sound.running k worker).lives.apart.ended run mem with past | busy
    · exact Nat.le_trans past le
    · rw [Watch.endsAt_of_some worker, Worker.endsAt_of_busy busy]
      exact Nat.le_max_right _ _

theorem Sound.stop (sound : Sound course m c w) :
    Sound course m (c.stopped course w) w.release where
  watches := by
    have told := Station.watches_setWatch_alone sound.watches (some w.signal)
    have waited := Station.watches_advance_alone told course (w.endsAt c.station.now)
    unfold stopped
    rw [Station.stop_eq sound.watch?]
    exact Station.watches_setWatch_alone waited (some w.release)
  leftovers := Station.leftovers_stop sound.watch? sound.leftovers
  monitor := sound.monitor
  log := by
    have told := Station.watches_setWatch_alone sound.watches (some w.signal)
    unfold stopped
    rw [Station.stop_eq sound.watch?, Station.filter_report]
    show List.filter _ (Station.advance ..).lines = _
    rw [Station.lines_advance_alone told sound.leftovers, List.filter_append,
      Station.filter_workerLines, List.append_nil, Station.workerLines_append, ← sound.log]
    show _ ++ Station.workerLines w.monitor.name _ = _
    rw [sound.monitor]
    rfl
  resting _ := rfl
  running := nofun
  successive := by
    rw [Successive, sound.runs_stopped]
    exact sound.successive_all
  ended := by
    rw [sound.runs_stopped]
    intro run mem
    show run.2 ≤ (c.station.stop course 0 w).now
    rw [Station.now_stop sound.watch?]
    exact sound.ended_stopped run mem
  before := nofun

theorem Sound.turn (sound : Sound course m c w) (running : w.worker = some k)
    (due : k.nextMoment? = some c.station.now) :
    Sound course m (c.turned course w k)
      { w with worker := some (k.act (course w.monitor) c.station.now).1 } := by
  obtain rfl := sound.monitor
  refine sound.goesOn rfl running (Worker.Lives.begin.act due) (Worker.act_stopping _ k _) ?_
    sound.leftovers ?_
  · exact Station.watches_setWatch_alone sound.watches _
  · have turned := congrArg Station.lines (Station.quiet_turn course c.station 0 w k)
    exact turned

theorem Sound.pass (sound : Sound course m c w) {later : Nat} (le : c.station.now ≤ later)
    (idle : w.isIdle later = true) :
    Sound course m { c with station := c.station.pass later }
      { w with worker := w.worker.map (·.wait later) } := by
  have watches : (c.station.pass later).watches =
      [some { w with worker := w.worker.map (·.wait later) }] := by
    unfold Station.pass
    rw [sound.watches]
    rfl
  have leftovers : (c.station.pass later).leftovers = [] := by
    unfold Station.pass
    rw [sound.leftovers]
    rfl
  cases worker : w.worker with
  | none =>
    rw [worker] at watches
    have same : { w with worker := none } = w := by rw [← worker]
    rw [Option.map_none, same] at watches ⊢
    exact sound.rests worker watches leftovers le rfl
  | some k =>
    rw [worker] at watches
    have lives : Worker.Lives (course m) c.station.now k later [] (k.wait later) :=
      Worker.Lives.begin.wait le ((Watch.isIdle_iff worker).1 idle)
    have goesOn := sound.goesOn (s := c.station.pass later) rfl worker lives
      (k.wait_stopping later) watches leftovers (List.append_nil _).symm
    rw [List.append_nil] at goesOn
    exact goesOn

/-- What an operation makes of a career. -/
structure Next (course : Monitor → Course) (m : Monitor) (c : Career) (op : Operation)
    (c' : Career) : Prop where
  sound : ∃ w, Sound course m c' w
  isRunning : c'.isRunning = Operation.leavesOn c.isRunning [op]
  /-- Until the monitor is stopped, its worker keeps its start, and the workers before have done what
  they had done. -/
  keeps : op ≠ .stop → c.isRunning = true → c'.started = c.started ∧ c'.past = c.past

theorem Sound.next {w' : Watch} (sound : Sound course m c w) (sound' : Sound course m c' w')
    (isRunning : w'.isRunning = Operation.leavesOn w.isRunning [op])
    (keeps : op ≠ .stop → w.isRunning = true → c'.started = c.started ∧ c'.past = c.past) :
    Next course m c op c' :=
  ⟨⟨w', sound'⟩, by rw [sound.isRunning, sound'.isRunning, isRunning], by rwa [sound.isRunning]⟩

/-- **One operation.** -/
theorem Sound.perform (sound : Sound course m c w) (performs : c.perform course op = some c') :
    Next course m c op c' := by
  rw [perform_of_watch? sound.watch?] at performs
  cases op with
  | start =>
    cases worker : w.worker with
    | none =>
      rw [performWith_start_of_resting worker] at performs
      cases performs
      refine sound.next (sound.start worker) rfl fun _ running => ?_
      rw [Watch.isRunning, worker] at running
      cases running
    | some k =>
      rw [performWith_start_of_running worker] at performs
      cases performs
      exact sound.next sound (Watch.isRunning_of_some worker) fun _ _ => ⟨rfl, rfl⟩
  | stop =>
    cases performs
    exact sound.next sound.stop rfl fun ne => absurd rfl ne
  | runOnce =>
    cases performs
    have ran := sound.letWork (Station.quiet_outside c.station
      (course w.monitor c.station.now).entries)
      (Nat.le_add_right _ (course w.monitor c.station.now).span)
    exact sound.next ran (Watch.isRunning_advance ..) fun _ _ => ⟨rfl, rfl⟩
  | wait span =>
    cases performs
    have waited := sound.letWork rfl (Nat.le_add_right _ span)
    exact sound.next waited (Watch.isRunning_advance ..) fun _ _ => ⟨rfl, rfl⟩
  | turn =>
    obtain ⟨k, running, performs⟩ := Option.bind_eq_some_iff.1 performs
    split at performs
    · next due =>
      cases performs
      have still := Watch.isRunning_of_some running
      exact sound.next (sound.turn running due) still.symm fun _ _ => ⟨rfl, rfl⟩
    · cases performs
  | pass later =>
    simp only [performWith, Option.ite_none_right_eq_some, Bool.and_eq_true, decide_eq_true_eq,
      Option.some.injEq] at performs
    obtain ⟨⟨le, idle⟩, rfl⟩ := performs
    refine sound.next (sound.pass le idle) ?_ fun _ _ => ⟨rfl, rfl⟩
    exact Option.isSome_map ..

/-- **Any number of operations.** -/
theorem Sound.run (sound : Sound course m c w) (ran : c.run course ops = some c') :
    (∃ w', Sound course m c' w') ∧ c'.isRunning = Operation.leavesOn c.isRunning ops := by
  induction ops generalizing c w with
  | nil =>
    cases ran
    exact ⟨⟨w, sound⟩, rfl⟩
  | cons op ops ih =>
    obtain ⟨c₁, performs, rest⟩ := run_cons_eq_some_iff.1 ran
    have next := sound.perform performs
    obtain ⟨w₁, sound₁⟩ := next.sound
    obtain ⟨sound', isRunning⟩ := ih sound₁ rest
    rw [next.isRunning] at isRunning
    exact ⟨sound', isRunning⟩

/-- Until it is stopped, a monitor that is running has the worker that it has now. -/
theorem Sound.run_keeps (sound : Sound course m c w) (running : c.isRunning = true)
    (unstopped : Operation.stop ∉ ops) (ran : c.run course ops = some c') :
    c'.isRunning = true ∧ c'.started = c.started ∧ c'.past = c.past := by
  induction ops generalizing c w with
  | nil =>
    cases ran
    exact ⟨running, rfl, rfl⟩
  | cons op ops ih =>
    obtain ⟨c₁, performs, rest⟩ := run_cons_eq_some_iff.1 ran
    obtain ⟨other, unstopped⟩ := not_or.1 (List.mem_cons.not.1 unstopped)
    have next := sound.perform performs
    obtain ⟨w₁, sound₁⟩ := next.sound
    obtain ⟨started, past⟩ := next.keeps (Ne.symm other) running
    have running₁ : c₁.isRunning = true := by
      rw [next.isRunning, running]
      cases op with
      | stop => exact absurd rfl other
      | start | runOnce | wait | turn | pass => rfl
    obtain ⟨running', started', past'⟩ := ih sound₁ running₁ unstopped rest
    exact ⟨running', started'.trans started, past'.trans past⟩

end Career

end Vigil

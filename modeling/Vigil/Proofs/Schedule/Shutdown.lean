import Vigil.Proofs.Chain.Completion
import Vigil.Proofs.Schedule.Closing
import Vigil.Proofs.Schedule.Evolution

/-!
# Shutdown

A worker is told to stop when its monitor is stopped, when its watch is given up, or when all
monitors of its station are stopped. In each case it lives on as one that has been told, until its
watch is released or for ever; and its watch is released at the very moment at which it is done
(`shutdown_law`). When all monitors are stopped, all workers have been told before the first of them
is waited for, and the watches are released one after the other (`stopping`).
-/

set_option autoImplicit false

namespace Vigil

/-- The runs of monitors by a client, where each run of each monitor may meet a server that behaves
differently. -/
def Monitor.runsBy (client : Client) (servers : Monitor → Nat → Server)
    (builtins : Monitor → Nat → Builtins) (m : Monitor) : Course :=
  fun now => m.tickAt client (servers m now) (builtins m) now

namespace Watch

variable {w : Watch} {k : Worker}

theorem signal_of_some (running : w.worker = some k) :
    w.signal = { w with worker := some k.signal } := by
  rw [signal, running]
  rfl

theorem signal_of_none (resting : w.worker = none) : w.signal = w := by
  obtain ⟨m, pos, worker⟩ := w
  cases resting
  rfl

theorem advance_of_some (course : Monitor → Course) (upTo : Nat) (running : w.worker = some k) :
    (w.advance course upTo).1 =
      { w with worker := some (k.advance (course w.monitor) upTo).1 } := by
  rw [advance_eq, running]
  rfl

theorem advance_of_none (course : Monitor → Course) (upTo : Nat) (resting : w.worker = none) :
    (w.advance course upTo).1 = w := by
  obtain ⟨m, pos, worker⟩ := w
  cases resting
  rfl

theorem endsAt_of_some (running : w.worker = some k) (now : Nat) :
    w.endsAt now = k.endsAt now := by
  rw [endsAt, running]

theorem endsAt_of_none (resting : w.worker = none) (now : Nat) : w.endsAt now = now := by
  rw [endsAt, resting]

end Watch

namespace Station

variable {course : Monitor → Course} {s s' : Station} {i j n : Nat} {w w' : Watch} {k : Worker}

/-! ## Stopping one monitor -/

theorem stop_eq (here : s.watch? i = some w) :
    s.stop course i w =
      (((s.setWatch i (some w.signal)).advance course (w.endsAt s.now)).setWatch i
        (some w.release)).report (w.signal.advance course (w.endsAt s.now)).1.stopEvents := by
  have there : ((s.setWatch i (some w.signal)).advance course (w.endsAt s.now)).watch? i =
      some (w.signal.advance course (w.endsAt s.now)).1 := by
    rw [watch?_advance, watch?_setWatch_self here]
    rfl
  have released : (w.signal.advance course (w.endsAt s.now)).1.release = w.release := by
    rw [Watch.advance_eq]
    rfl
  have awaited (s' : Station) (w' : Watch) (at_ : (s'.advance course (w.endsAt s'.now)).watch? i =
      some w') : s'.await course i w =
        ((s'.advance course (w.endsAt s'.now)).setWatch i (some w'.release)).report
          w'.stopEvents := by
    unfold await
    simp only [at_]
  rw [stop, awaited _ _ there, released]
  rfl

theorem now_stop (here : s.watch? i = some w) : (s.stop course i w).now = w.endsAt s.now := by
  rw [stop_eq here]
  exact Nat.max_eq_right (w.le_endsAt s.now)

theorem watch?_stop_self (here : s.watch? i = some w) :
    (s.stop course i w).watch? i = some w.release := by
  have there : ((s.setWatch i (some w.signal)).advance course (w.endsAt s.now)).watch? i =
      some (w.signal.advance course (w.endsAt s.now)).1 := by
    rw [watch?_advance, watch?_setWatch_self here]
    rfl
  rw [stop_eq here]
  exact watch?_setWatch_self there _

theorem watch?_stop_of_ne (here : s.watch? i = some w) (ne : i ≠ j) :
    (s.stop course i w).watch? j =
      (s.watch? j).map fun w' => (w'.advance course (w.endsAt s.now)).1 := by
  rw [stop_eq here]
  show (((s.setWatch i (some w.signal)).advance course (w.endsAt s.now)).setWatch i
    (some w.release)).watch? j = _
  rw [watch?_setWatch_of_ne ne, watch?_advance, watch?_setWatch_of_ne ne]

/-! ## Stopping all monitors -/

/-- A station at which all workers were told to stop and then the first `n` monitors stopped. -/
def stoppedTo (course : Monitor → Course) (s : Station) (n : Nat) : Station :=
  (List.range n).foldl (stopAt course) s.signalAll

theorem stoppedTo_succ (course : Monitor → Course) (s : Station) (n : Nat) :
    s.stoppedTo course (n + 1) = (s.stoppedTo course n).stopAt course n := by
  unfold stoppedTo
  rw [List.range_succ, List.foldl_append]
  rfl

/-- How far a station `s` has come, at which all workers were told to stop and then the first `n`
monitors stopped. -/
structure Stopping (course : Monitor → Course) (s : Station) (n : Nat) (s' : Station) : Prop where
  absent : ∀ i, s.watch? i = none → s'.watch? i = none
  /-- The watches of the first monitors are released, and their workers are done by now. -/
  released : ∀ i w, i < n → s.watch? i = some w →
    s'.watch? i = some w.release ∧ w.endsAt s.now ≤ s'.now
  /-- The other workers live on as workers that have been told. -/
  running : ∀ i w k, n ≤ i → s.watch? i = some w → w.worker = some k →
    ∃ more k', s'.watch? i = some { w with worker := some k' } ∧
      Worker.Lives (course w.monitor) s.now k.signal s'.now more k'
  resting : ∀ i w, n ≤ i → s.watch? i = some w → w.worker = none → s'.watch? i = some w
  /-- No more time has gone by than until the last of the first workers was done. -/
  latest : s'.now = s.now ∨ ∃ i w, i < n ∧ s.watch? i = some w ∧ w.endsAt s.now = s'.now

theorem stopping_zero (course : Monitor → Course) (s : Station) :
    Stopping course s 0 (s.stoppedTo course 0) := by
  show Stopping course s 0 s.signalAll
  constructor
  case absent =>
    intro i none
    rw [watch?_signalAll, none]
    rfl
  case released =>
    intro i w less
    exact absurd less (Nat.not_lt_zero i)
  case running =>
    intro i w k _ here running
    refine ⟨[], k.signal, ?_, .begin⟩
    rw [watch?_signalAll, here, Option.map_some, Watch.signal_of_some running]
  case resting =>
    intro i w _ here resting
    rw [watch?_signalAll, here, Option.map_some, Watch.signal_of_none resting]
  case latest => exact .inl rfl

theorem Stopping.le (stopping : Stopping course s n s') : s.now ≤ s'.now := by
  rcases stopping.latest with eq | ⟨i, w, -, -, eq⟩
  · exact Nat.le_of_eq eq.symm
  · rw [← eq]
    exact w.le_endsAt s.now

/-- The watch of a monitor that is still to be stopped, and when its worker is done. -/
theorem Stopping.waiting (stopping : Stopping course s n s') (sound : s.Sound course)
    (le : n ≤ i) (here : s.watch? i = some w) :
    ∃ w', s'.watch? i = some w' ∧ w'.release = w.release ∧
      w'.endsAt s'.now = max s'.now (w.endsAt s.now) := by
  cases worker : w.worker with
  | none =>
    refine ⟨w, stopping.resting i w le here worker, rfl, ?_⟩
    rw [Watch.endsAt_of_none worker, Watch.endsAt_of_none worker, Nat.max_eq_left stopping.le]
  | some k =>
    obtain ⟨more, k', there, lives⟩ := stopping.running i w k le here worker
    obtain ⟨acts, doing⟩ := (sound _ _ (.watch here rfl worker)).doing
    refine ⟨_, there, rfl, ?_⟩
    rw [Watch.endsAt_of_some worker]
    exact lives.endsAt_eq doing

theorem Stopping.latest_succ (stopping : Stopping course s n s') :
    s'.now = s.now ∨ ∃ i w, i < n + 1 ∧ s.watch? i = some w ∧ w.endsAt s.now = s'.now := by
  rcases stopping.latest with eq | ⟨i, w, less, there, eq⟩
  · exact .inl eq
  · exact .inr ⟨i, w, Nat.lt_succ_of_lt less, there, eq⟩

theorem Stopping.succ (stopping : Stopping course s n s') (sound : s.Sound course) :
    Stopping course s (n + 1) (s'.stopAt course n) := by
  cases here : s.watch? n with
  | none =>
    have same : s'.stopAt course n = s' := by
      rw [stopAt, stopping.absent n here]
    rw [same]
    constructor
    case absent => exact stopping.absent
    case released =>
      intro i w less there
      rcases Nat.lt_succ_iff_lt_or_eq.1 less with less | rfl
      · exact stopping.released i w less there
      · rw [here] at there
        cases there
    case running => exact fun i w k le => stopping.running i w k (Nat.le_of_succ_le le)
    case resting => exact fun i w le => stopping.resting i w (Nat.le_of_succ_le le)
    case latest => exact stopping.latest_succ
  | some w₀ =>
    obtain ⟨w₁, there, release, ends⟩ := stopping.waiting sound (Nat.le_refl n) here
    have eq : s'.stopAt course n = s'.stop course n w₁ := by
      rw [stopAt, there]
    have now : (s'.stop course n w₁).now = max s'.now (w₀.endsAt s.now) := by
      rw [now_stop there, ends]
    have others : ∀ i, n ≠ i → (s'.stop course n w₁).watch? i =
        (s'.watch? i).map fun w => (w.advance course (w₁.endsAt s'.now)).1 :=
      fun i ne => watch?_stop_of_ne there ne
    rw [eq]
    constructor
    case absent =>
      intro i none
      have ne : n ≠ i := by
        rintro rfl
        rw [here] at none
        cases none
      rw [others i ne, stopping.absent i none]
      rfl
    case released =>
      intro i w less at_i
      rw [now]
      rcases Nat.lt_succ_iff_lt_or_eq.1 less with less | rfl
      · obtain ⟨released, done⟩ := stopping.released i w less at_i
        refine ⟨?_, Nat.le_trans done (Nat.le_max_left _ _)⟩
        rw [others i (Nat.ne_of_gt less), released, Option.map_some, Watch.advance_of_none _ _ rfl]
      · rw [here] at at_i
        cases at_i
        exact ⟨by rw [watch?_stop_self there, release], Nat.le_max_right _ _⟩
    case running =>
      intro i w k le at_i running
      obtain ⟨more, k', at_i', lives⟩ :=
        stopping.running i w k (Nat.le_of_succ_le le) at_i running
      obtain ⟨acts, doing⟩ := (sound _ _ (.watch at_i rfl running)).doing
      have doing' := doing.signal.lives lives
      have on := (Worker.lives_advance (course w.monitor) (w₁.endsAt s'.now) k' s'.now _ doing'
        (w₁.le_endsAt s'.now)).1
      refine ⟨_, _, ?_, lives.trans (by rw [now_stop there]; exact on)⟩
      rw [others i (Nat.ne_of_lt le), at_i', Option.map_some, Watch.advance_of_some _ _ rfl]
    case resting =>
      intro i w le at_i resting
      rw [others i (Nat.ne_of_lt le), stopping.resting i w (Nat.le_of_succ_le le) at_i resting,
        Option.map_some, Watch.advance_of_none _ _ resting]
    case latest =>
      rw [now]
      rcases Nat.le_total (w₀.endsAt s.now) s'.now with le | le
      · rw [Nat.max_eq_left le]
        exact stopping.latest_succ
      · rw [Nat.max_eq_right le]
        exact .inr ⟨n, w₀, Nat.lt_succ_self n, here, rfl⟩

theorem stopping (sound : s.Sound course) (n : Nat) :
    Stopping course s n (s.stoppedTo course n) := by
  induction n with
  | zero => exact stopping_zero course s
  | succ n ih =>
    rw [stoppedTo_succ]
    exact ih.succ sound

/-! ## The shutdown law -/

/-- What it comes to if the worker `k` of the watch `w` at position `i` is told to stop now. -/
structure Shutdown (client : Client) (servers : Monitor → Nat → Server)
    (builtins : Monitor → Nat → Builtins) (s : Station) (i : Nat) (w : Watch) (k : Worker) :
    Prop where
  /-- What the worker has done since it was started tells whether a run is in progress. If there is
  one, it is a whole run, and the worker is done when it ends; if not, the worker is done now. In
  either case it begins no other run. -/
  told : ∃ start pos acts,
    Worker.Lives (w.monitor.runsBy client servers builtins) start
      (.spawn w.monitor.period.nanos pos start) s.now acts k ∧
    Worker.Stops (w.monitor.runsBy client servers builtins) s.now acts k (k.endsAt s.now) ∧
    ∀ b t, inFlight? acts = some (b, t) →
      w.monitor.RunsThrough client (servers w.monitor b) (builtins w.monitor b) b t
  /-- If the monitor is stopped, the worker is waited for until it is done, and no longer. -/
  stop_now : (s.stop (Monitor.runsBy client servers builtins) i w).now = k.endsAt s.now
  /-- Then its watch is released. -/
  stop_released : (s.stop (Monitor.runsBy client servers builtins) i w).watch? i = some w.release
  /-- In the meantime it does what a worker does that was told to stop now. -/
  stop_acts : ∃ k', ((s.setWatch i (some w.signal)).advance (Monitor.runsBy client servers builtins)
      (k.endsAt s.now)).watch? i = some { w with worker := some k' } ∧ k'.nextMoment? = none ∧
    k' = (k.signal.advance (w.monitor.runsBy client servers builtins) (k.endsAt s.now)).1 ∧
    runs (k.signal.advance (w.monitor.runsBy client servers builtins) (k.endsAt s.now)).2 = []
  /-- If the watch is given up, the worker goes on as one that was told to stop, whatever happens
  to the station. -/
  drop_acts : ∀ s', Evolves (Monitor.runsBy client servers builtins) (s.drop i w) s' →
    ∃ more k', s'.leftovers[s.leftovers.length]? = some (w.monitor, k') ∧
      Worker.Lives (w.monitor.runsBy client servers builtins) s.now k.signal s'.now more k' ∧
      runs more = []
  /-- If all monitors are stopped, the worker is told before any worker is waited for, -/
  stopAll_acts : ∀ n ≤ i, ∃ more k',
    (s.stoppedTo (Monitor.runsBy client servers builtins) n).watch? i =
      some { w with worker := some k' } ∧
    Worker.Lives (w.monitor.runsBy client servers builtins) s.now k.signal
      (s.stoppedTo (Monitor.runsBy client servers builtins) n).now more k' ∧
    runs more = []
  /-- and its watch is released when it is done. -/
  stopAll_released : (s.stopAll (Monitor.runsBy client servers builtins)).watch? i =
      some w.release ∧
    k.endsAt s.now ≤ (s.stopAll (Monitor.runsBy client servers builtins)).now

theorem leftover_drop (running : w.worker = some k) :
    (s.drop i w).leftovers[s.leftovers.length]? = some (w.monitor, k.signal) := by
  unfold drop
  simp only [Watch.signal_of_some running]
  show (s.leftovers ++ [(w.monitor, k.signal)])[s.leftovers.length]? = _
  rw [List.getElem?_append_right (Nat.le_refl _), Nat.sub_self]
  rfl

theorem now_drop (s : Station) (i : Nat) (w : Watch) : (s.drop i w).now = s.now := by
  unfold drop
  simp only
  split <;> rfl

/-- **The shutdown law**, for every state that a station gets into, each worker and each way of
telling it to stop. -/
theorem shutdown_law (client : Client) (servers : Monitor → Nat → Server)
    (builtins : Monitor → Nat → Builtins) {s : Station}
    (reached : Reached (Monitor.runsBy client servers builtins) s) {i : Nat} {w : Watch}
    (here : s.watch? i = some w) {k : Worker} (running : w.worker = some k) :
    Shutdown client servers builtins s i w k := by
  have sound := reached.sound
  obtain ⟨start, pos, acts, lives⟩ := sound _ _ (.watch here rfl running)
  have doing := (Worker.doing_spawn pos).lives lives
  rw [List.nil_append] at doing
  have stops := doing.stops
  have ends := Watch.endsAt_of_some running s.now
  constructor
  case told =>
    refine ⟨start, pos, acts, lives, stops, ?_⟩
    intro b t inFlight
    obtain ⟨rfl, -⟩ := stops.running b t inFlight
    exact Monitor.tickAt_runsThrough client _ _ _ b
  case stop_now => rw [now_stop here, ends]
  case stop_released => exact watch?_stop_self here
  case stop_acts =>
    refine ⟨_, ?_, stops.done _ (Nat.le_refl _), rfl, ?_⟩
    · rw [watch?_advance, watch?_setWatch_self here, Option.map_some, Watch.signal_of_some running]
      rfl
    · exact Worker.runs_advance_of_stopping _ rfl _
  case drop_acts =>
    intro s' evolves
    have goes := Evolves.goes evolves (goes_drop sound here).sound
    obtain ⟨more, k', there, on⟩ := goes.leftovers _ _ _ (leftover_drop running)
    rw [now_drop] at on
    exact ⟨more, k', there, on, stops.none_begins _ _ _ on⟩
  case stopAll_acts =>
    intro n le
    obtain ⟨more, k', there, on⟩ := (stopping sound n).running i w k le here running
    exact ⟨more, k', there, on, stops.none_begins _ _ _ on⟩
  case stopAll_released =>
    rw [← ends]
    exact (stopping sound s.size).released i w (lt_of_watch? here) here

end Station

/-- A monitor with one request and one cleanup request. -/
def Monitor.twoSteps : Monitor where
  name := "two steps"
  period := ⟨300000000, by decide⟩
  requests := [{ name := "get", url := "http://[::1]/slow" }]
  cleanup := [{ name := "delete", url := "http://[::1]/cleanup" }]

/-- The monitor's runs with a server that takes four tenths of a second for each answer. -/
def Monitor.slowRuns : Monitor → Course :=
  runsBy {} (fun _ _ _ _ _ => .answer 400000000 {}) fun _ _ => ⟨"r", "i"⟩

/-- The worker of the monitor four tenths of a second after it was started. It is in the middle of
a run. -/
theorem Worker.advance_twoSteps :
    ((spawn 300000000 (by decide) 0).advance Monitor.twoSteps.slowRuns 400000000).1.phase =
      .busy 1100000000 := by
  have span : (Monitor.twoSteps.slowRuns 300000000).span = 800000000 := by decide +kernel
  rw [advance_of_le rfl (by decide : 0 ≤ 400000000),
    advance_of_le rfl (by decide : 300000000 ≤ 400000000), advance_of_lt
      (show _ = some (300000000 + (Monitor.twoSteps.slowRuns 300000000).span) from ?_)]
  · show Phase.busy (300000000 + (Monitor.twoSteps.slowRuns 300000000).span) = _
    rw [span]
  · rw [span]
    decide
  · show some (max 300000000 (300000000 + (Monitor.twoSteps.slowRuns 300000000).span)) = _
    rw [span]
    rfl

/-- The monitor is stopped in the middle of its first run. -/
theorem Station.shutdown_law_twoSteps :
    ∃ s w k, s.now = 400000000 ∧ k.endsAt s.now = 1100000000 ∧
      Shutdown {} (fun _ _ _ _ _ => .answer 400000000 {}) (fun _ _ => ⟨"r", "i"⟩) s 0 w k := by
  let w₀ : Watch := ⟨.twoSteps, by decide, none⟩
  let k₀ : Worker := .spawn 300000000 (by decide) 0
  let s₀ : Station := { now := 0, watches := [some w₀] }
  let s₁ : Station := (s₀.setWatch 0 (some { w₀ with worker := some k₀ })).report
    [.monitorStarted w₀.name w₀.monitor.period]
  have setUp : ofMonitors 0 [.twoSteps] = .ok s₀ := rfl
  have reached : Reached Monitor.slowRuns (s₁.advance Monitor.slowRuns 400000000) := by
    have started : Step Monitor.slowRuns s₀ s₁ := .start (i := 0) (w := w₀) rfl rfl
    exact ((reached_ofMonitors setUp).step started).step (.advance (by decide))
  have there : (s₁.advance Monitor.slowRuns 400000000).watch? 0 =
      some { w₀ with worker := some (k₀.advance Monitor.twoSteps.slowRuns 400000000).1 } := by
    rw [watch?_advance]
    rfl
  refine ⟨_, _, _, rfl, ?_, shutdown_law _ _ _ reached there rfl⟩
  show (k₀.advance Monitor.twoSteps.slowRuns 400000000).1.endsAt 400000000 = 1100000000
  rw [Worker.endsAt, Worker.advance_twoSteps]
  rfl

end Vigil

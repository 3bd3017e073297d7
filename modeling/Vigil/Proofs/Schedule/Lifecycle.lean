import Vigil.Proofs.Schedule.Staff

/-!
# The life of a station

The workers of monitors that are started together begin at the same moment, and until they are
stopped they do what they would have done if nothing had been asked since (`Station.FromStart`); in
particular a second start does not move their slots.

When all monitors are stopped, every worker is told before the first of them is waited for. None
begins a run after that, not even while another one is waited for (`Station.Silenced`), and so what
is waited for is the latest end of the runs in progress (`Station.now_stopAll`).
-/

set_option autoImplicit false

namespace Vigil

namespace Station

variable {course : Monitor → Course} {s s' : Station} {i n start now : Nat} {w : Watch} {k : Worker}
  {m : Monitor} {ms : List Monitor} {acts : List (Nat × Act)} {commands : List Command}

/-! ## Running since a moment -/

/-- All monitors of a station are running since `start`. -/
def RunningSince (course : Monitor → Course) (start : Nat) (s : Station) : Prop :=
  ∀ i w, s.watch? i = some w →
    ∃ k acts, w.worker = some k ∧ Tenure course w.monitor start s.now acts k

theorem resting_of_runningCount (none : s.runningCount = 0) (here : s.watch? i = some w) :
    w.worker = .none := by
  have there : some w ∈ s.watches := by
    unfold watch? at here
    exact List.mem_of_getElem? (Option.join_eq_some_iff.1 here)
  have resting := List.countP_eq_zero.1 none _ there
  cases worker : w.worker with
  | none => rfl
  | some k =>
    rw [Option.any_some, Watch.isRunning, worker] at resting
    exact absurd rfl resting

theorem runningSince_startAll (course : Monitor → Course) (none : s.runningCount = 0) :
    s.startAll.RunningSince course s.now := by
  intro i w there
  cases here : s.watch? i with
  | none =>
    rw [watch?_startAll, here] at there
    cases there
  | some w₀ =>
    rw [watch?_startAll_of_resting here (resting_of_runningCount none here)] at there
    cases there
    exact ⟨_, [], rfl, .begin course w₀.period_pos s.now⟩

theorem RunningSince.wait (since : s.RunningSince course start) (sound : s.Sound course)
    (waits : Waits course s s') : s'.RunningSince course start := by
  intro i w there
  obtain ⟨w₀, here, carries⟩ := (waits.carries sound i).exists_before there
  obtain ⟨k, acts, running, tenure⟩ := since i w₀ here
  cases carries with
  | resting resting =>
    rw [resting] at running
    cases running
  | running was lives same =>
    rw [was] at running
    cases running
    exact ⟨_, _, rfl, tenure.trans lives same⟩

theorem RunningSince.startAll (since : s.RunningSince course start) :
    s.startAll.RunningSince course start := by
  intro i w there
  cases here : s.watch? i with
  | none =>
    rw [watch?_startAll, here] at there
    cases there
  | some w₀ =>
    obtain ⟨k, acts, running, tenure⟩ := since i w₀ here
    rw [watch?_startAll_of_running here running] at there
    cases there
    exact ⟨k, acts, running, tenure⟩

/-- **Start once.** Monitors that are running since a moment are running since that moment until they
are stopped, however often they are started again. -/
theorem Obeys.runningSince (obeys : Obeys course s commands s') (reached : Reached course s)
    (since : s.RunningSince course start) (unstopped : Command.stopAll ∉ commands) :
    s'.RunningSince course start := by
  induction obeys with
  | nil => exact since
  | startAll later ih =>
    exact ih (reached.step .startAll) since.startAll fun mem =>
      unstopped (List.mem_cons_of_mem _ mem)
  | stopAll later ih => exact absurd List.mem_cons_self unstopped
  | wait waits later ih =>
    exact ih (reached.step waits.step) (since.wait reached.sound waits) fun mem =>
      unstopped (List.mem_cons_of_mem _ mem)

/-- The worker `k` of a monitor, which has done `acts` by now, was started at `start` and nothing has
come between. -/
structure FromStart (course : Monitor → Course) (m : Monitor) (start now : Nat)
    (acts : List (Nat × Act)) (k : Worker) : Prop where
  tenure : Tenure course m start now acts k
  /-- What it has done and will do is what a worker does that is started and left to itself. -/
  same : ∀ upTo, now ≤ upTo → acts ++ (k.advance (course m) upTo).2 =
    ((Worker.spawn m.period.nanos tenure.period_pos start).advance (course m) upTo).2
  /-- Its runs begin when it wakes up for a slot counted from its start, -/
  onSlot : ∀ upTo, now ≤ upTo → ∀ run ∈ runs (acts ++ (k.advance (course m) upTo).2),
    Worker.OnSlot start m.period.nanos run
  /-- and they obey the slot law if start and period are whole milliseconds. -/
  slotLaw : start % 1000000 = 0 → m.period.nanos % 1000000 = 0 →
    start + m.period.nanos ≤ Timer.latest → ∀ upTo, now ≤ upTo →
    SlotLaw start m.period.nanos upTo (runs (acts ++ (k.advance (course m) upTo).2))

theorem Tenure.fromStart (tenure : Tenure course m start now acts k) :
    FromStart course m start now acts k := by
  have pos := tenure.period_pos
  have same : ∀ upTo, now ≤ upTo → acts ++ (k.advance (course m) upTo).2 =
      ((Worker.spawn m.period.nanos pos start).advance (course m) upTo).2 := by
    intro upTo le
    exact (congrArg Prod.snd (tenure.lives.undisturbed tenure.untold upTo le)).symm
  constructor
  case tenure => exact tenure
  case same => exact same
  case onSlot =>
    intro upTo le
    have lives := tenure.lives.trans
      (Worker.lives_advance (course m) upTo k now acts tenure.doing le).1
    exact (lives.anchored (Worker.anchored_spawn pos start)).2.2
  case slotLaw =>
    intro wholeStart wholePeriod fits upTo le
    have regular : (Worker.spawn m.period.nanos pos start).Regular start :=
      ⟨wholeStart, wholePeriod, fits⟩
    rw [same upTo le]
    exact ((Worker.onSlots_spawn pos start).succession regular rfl upTo).slotLaw pos

/-! ## Stopping all monitors -/

/-- What becomes of the worker `k` of the watch `w` at position `i` if all monitors are stopped. -/
structure Silenced (course : Monitor → Course) (s : Station) (i : Nat) (w : Watch) (k : Worker) :
    Prop where
  /-- From now on it begins no run, in whatever order things happen. -/
  none_begins : ∀ later more k', Worker.Lives (course w.monitor) s.now k.signal later more k' →
    runs more = []
  /-- While the monitors before it are being stopped, it lives on as a worker that was told to stop
  now. -/
  waiting : ∀ n ≤ i, ∃ more k',
    (s.stoppedTo course n).watch? i = some { w with worker := some k' } ∧
    Worker.Lives (course w.monitor) s.now k.signal (s.stoppedTo course n).now more k' ∧
    runs more = []
  /-- When it is taken away from its watch, it has ended, and all that it has done since now is
  `more`. -/
  ended : ∃ w' more k', (s.stoppedTo course i).watch? i = some w' ∧
    lastWorker? course (s.stoppedTo course i).now w' = some k' ∧ k'.nextMoment? = none ∧
    Worker.Lives (course w.monitor) s.now k.signal (s.stoppedTo course (i + 1)).now more k' ∧
    runs more = []
  released : (s.stopAll course).watch? i = some w.release

theorem silenced (reached : Reached course s) (here : s.watch? i = some w)
    (running : w.worker = some k) : Silenced course s i w k := by
  have sound := reached.sound
  obtain ⟨start, acts, tenure⟩ := reached.exists_tenure here running
  have stops := tenure.doing.stops
  constructor
  case none_begins => exact stops.none_begins
  case waiting =>
    intro n le
    obtain ⟨more, k', there, lives⟩ := (stopping sound n).running i w k le here running
    exact ⟨more, k', there, lives, stops.none_begins _ _ _ lives⟩
  case ended =>
    obtain ⟨more, k', there, lives⟩ := (stopping sound i).running i w k (Nat.le_refl i) here running
    have doing := tenure.doing.signal.lives lives
    have ends : (s.stoppedTo course (i + 1)).now = k'.endsAt (s.stoppedTo course i).now := by
      rw [stoppedTo_succ, stopAt, there]
      exact now_stop there
    have on := (Worker.lives_advance (course w.monitor) (k'.endsAt (s.stoppedTo course i).now)
      k'.signal _ _ doing.signal (k'.le_endsAt _)).1
    have whole := lives.signal.trans on
    rw [← ends] at whole
    have last : lastWorker? course (s.stoppedTo course i).now { w with worker := some k' } =
        some (k'.signal.advance (course w.monitor) (k'.endsAt (s.stoppedTo course i).now)).1 := rfl
    rw [← ends] at last
    exact ⟨_, _, _, there, last, doing.stops.done _ (Nat.le_of_eq ends.symm), whole,
      stops.none_begins _ _ _ whole⟩
  case released => rw [watch?_stopAll sound, here, Option.map_some]

end Station

/-- When the run in progress ends, if there is one. -/
def Worker.busyUntil? (k : Worker) : Option Nat :=
  match k.phase with
  | .busy ends => some ends
  | _ => none

theorem Worker.Doing.busyUntil?_eq {course : Course} {now : Nat} {acts : List (Nat × Act)}
    {k : Worker} (doing : Doing course now acts k) :
    k.busyUntil? = (inFlight? acts).map fun run => run.1 + run.2.span := by
  unfold busyUntil?
  cases doing with
  | busy b running phase began within since =>
    rw [phase, running]
    rfl
  | free none phase since =>
    rw [none, Option.map_none]
    cases phase' : k.phase with
    | busy ends => exact absurd phase' (phase ends)
    | fresh | waiting | ended | broken => rfl

theorem Worker.Doing.endsAt_eq {course : Course} {now : Nat} {acts : List (Nat × Act)}
    {k : Worker} (doing : Doing course now acts k) : k.endsAt now = k.busyUntil?.getD now := by
  rw [doing.busyUntil?_eq]
  cases doing with
  | busy b running phase began within since =>
    rw [endsAt_of_busy phase, running]
    exact Nat.max_eq_right within
  | free none phase since =>
    rw [endsAt_of_free phase, none]
    rfl

namespace Station

variable {course : Monitor → Course} {s s' : Station} {i ends : Nat} {w : Watch}
  {ms : List Monitor} {commands : List Command}

/-- When the runs in progress end. -/
def inFlightEnds (s : Station) : List Nat :=
  s.watches.filterMap fun w => (w.bind Watch.worker).bind Worker.busyUntil?

theorem mem_inFlightEnds_iff : ends ∈ s.inFlightEnds ↔
    ∃ i w k, s.watch? i = some w ∧ w.worker = some k ∧ k.busyUntil? = some ends := by
  unfold inFlightEnds
  rw [List.mem_filterMap]
  constructor
  · rintro ⟨o, mem, found⟩
    obtain ⟨k, worker, busy⟩ := Option.bind_eq_some_iff.1 found
    obtain ⟨w, rfl, running⟩ := Option.bind_eq_some_iff.1 worker
    obtain ⟨i, at_i⟩ := List.mem_iff_getElem?.1 mem
    exact ⟨i, w, k, by rw [watch?, at_i, Option.join_some], running, busy⟩
  · rintro ⟨i, w, k, here, running, busy⟩
    have at_i := Option.join_eq_some_iff.1 here
    refine ⟨some w, List.mem_of_getElem? at_i, ?_⟩
    rw [Option.bind_some, running, Option.bind_some, busy]

/-- The end of a run in progress, or now if there is none. -/
theorem endsAt_cases (sound : s.Sound course) (here : s.watch? i = some w) :
    w.endsAt s.now = s.now ∨ w.endsAt s.now ∈ s.inFlightEnds := by
  cases worker : w.worker with
  | none => exact .inl (Watch.endsAt_of_none worker s.now)
  | some k =>
    obtain ⟨acts, doing⟩ := (sound _ _ (.watch here rfl worker)).doing
    rw [Watch.endsAt_of_some worker, doing.endsAt_eq]
    cases busy : k.busyUntil? with
    | none => exact .inl rfl
    | some ends => exact .inr (mem_inFlightEnds_iff.2 ⟨i, w, k, here, worker, busy⟩)

theorem exists_endsAt (sound : s.Sound course) (mem : ends ∈ s.inFlightEnds) :
    ∃ i w, s.watch? i = some w ∧ w.endsAt s.now = ends := by
  obtain ⟨i, w, k, here, running, busy⟩ := mem_inFlightEnds_iff.1 mem
  obtain ⟨acts, doing⟩ := (sound _ _ (.watch here rfl running)).doing
  refine ⟨i, w, here, ?_⟩
  rw [Watch.endsAt_of_some running, doing.endsAt_eq, busy, Option.getD_some]

/-- **How long it takes** to stop all monitors: until the latest end of the runs in progress, or no
time if there is none. -/
theorem now_stopAll (sound : s.Sound course) :
    (s.stopAll course).now = s.inFlightEnds.max?.getD s.now := by
  have stopped := stopping sound s.size
  show (s.stoppedTo course s.size).now = _
  have done : ∀ i w, s.watch? i = some w → w.endsAt s.now ≤ (s.stoppedTo course s.size).now :=
    fun i w here => (stopped.released i w (lt_of_watch? here) here).2
  have reaches : (s.stoppedTo course s.size).now = s.now ∨
      (s.stoppedTo course s.size).now ∈ s.inFlightEnds := by
    rcases stopped.latest with eq | ⟨i, w, -, here, eq⟩
    · exact .inl eq
    · rw [← eq]
      exact endsAt_cases sound here
  cases latest : s.inFlightEnds.max? with
  | none =>
    rw [List.max?_eq_none_iff] at latest
    rw [latest] at reaches
    rcases reaches with eq | mem
    · exact eq
    · cases mem
  | some last =>
    obtain ⟨mem, bound⟩ := List.max?_eq_some_iff.1 latest
    obtain ⟨i, w, here, ends⟩ := exists_endsAt sound mem
    have le := done i w here
    have ge := w.le_endsAt s.now
    show (s.stoppedTo course s.size).now = last
    rcases reaches with eq | there
    · omega
    · have := bound _ there
      omega

/-! ## The law -/

/-- A station for the monitors `ms` that was asked some commands since it was set up. -/
structure Lifecycle (course : Monitor → Course) (ms : List Monitor) (commands : List Command)
    (s : Station) : Prop where
  size : s.size = ms.length
  names : s.names = ms.map (·.name)
  /-- There are no workers but those of the watches. -/
  leftovers : s.leftovers = []
  /-- Whatever is asked from now on, it can be done. -/
  goes_on : ∀ more, ∃ s', Obeys course s more s'
  /-- All monitors are running or none is, according to what was asked last. -/
  runningCount : s.runningCount = if Command.leavesOn false commands then s.size else 0
  /-- No start is refused when all are started, -/
  startAll? : s.startAll? = .ok s.startAll
  started : s.startAll.runningCount = s.size
  stopped : (s.stopAll course).runningCount = 0
  /-- If none is running and they are started now, then until they are stopped their workers do what
  they do if they are started now, however often they are started again. -/
  anchored : s.runningCount = 0 → ∀ after s', Obeys course s.startAll after s' →
    Command.stopAll ∉ after → ∀ i m, ms[i]? = some m →
    ∃ w k acts, s'.watch? i = some w ∧ w.monitor = m ∧ w.worker = some k ∧
      FromStart course m s.now s'.now acts k
  /-- If all are stopped now, no worker begins a run from now on, -/
  silenced : ∀ i w k, s.watch? i = some w → w.worker = some k → Silenced course s i w k
  /-- and they are stopped at the latest end of the runs in progress, at once if there are none, -/
  stopped_now : (s.stopAll course).now = s.inFlightEnds.max?.getD s.now
  /-- where the runs in progress are those that have begun last, and have not ended. -/
  inFlight : ∀ ends, ends ∈ s.inFlightEnds ↔ ∃ i w k start acts b t,
    s.watch? i = some w ∧ w.worker = some k ∧ Tenure course w.monitor start s.now acts k ∧
    inFlight? acts = some (b, t) ∧ ends = b + t.span

theorem inFlightEnds_iff (reached : Reached course s) (ends : Nat) :
    ends ∈ s.inFlightEnds ↔ ∃ i w k start acts b t,
      s.watch? i = some w ∧ w.worker = some k ∧ Tenure course w.monitor start s.now acts k ∧
      inFlight? acts = some (b, t) ∧ ends = b + t.span := by
  rw [mem_inFlightEnds_iff]
  constructor
  · rintro ⟨i, w, k, here, running, busy⟩
    obtain ⟨start, acts, tenure⟩ := reached.exists_tenure here running
    rw [tenure.doing.busyUntil?_eq, Option.map_eq_some_iff] at busy
    obtain ⟨⟨b, t⟩, inFlight, rfl⟩ := busy
    exact ⟨i, w, k, start, acts, b, t, here, running, tenure, inFlight, rfl⟩
  · rintro ⟨i, w, k, start, acts, b, t, here, running, tenure, inFlight, rfl⟩
    refine ⟨i, w, k, here, running, ?_⟩
    rw [tenure.doing.busyUntil?_eq, inFlight, Option.map_some]

/-- **The life of a station**, for all monitors and whatever is asked. -/
theorem lifecycle_law {now : Nat} {s₀ : Station} (setUp : ofMonitors now ms = .ok s₀)
    (obeys : Obeys course s₀ commands s) : Lifecycle course ms commands s := by
  have reached := obeys.reached (reached_ofMonitors setUp)
  have staffed := obeys.staffed (reached_ofMonitors setUp) (staffed_ofMonitors setUp)
  constructor
  case size => exact staffed.size
  case names => exact staffed.of.names_eq
  case leftovers => exact staffed.leftovers
  case goes_on => exact exists_obeys course s
  case runningCount => exact staffed.runningCount_eq
  case startAll? => exact startAll?_eq s
  case started =>
    rw [staffed.startAll.runningCount_eq, size_startAll]
    rfl
  case stopped => exact (staffed.stopAll reached.sound).runningCount_eq
  case anchored =>
    intro none after s' later unstopped i m here
    have since := later.runningSince (reached.step .startAll) (runningSince_startAll course none)
      unstopped
    obtain ⟨w, there, rfl, -⟩ :=
      (later.staffed (reached.step .startAll) staffed.startAll).watch i m here
    obtain ⟨k, acts, running, tenure⟩ := since i w there
    exact ⟨w, k, acts, there, rfl, running, tenure.fromStart⟩
  case silenced => exact fun i w k here running => Station.silenced reached here running
  case stopped_now => exact now_stopAll reached.sound
  case inFlight => exact inFlightEnds_iff reached

end Station

/-- A monitor with a shorter period. -/
def Monitor.brisk : Monitor :=
  { Monitor.twoSteps with name := "brisk", period := ⟨250000000, by decide⟩ }

/-- Runs of the one monitor take seven tenths of a second, those of the other one take a
twentieth. -/
def Monitor.slowAndBrisk (m : Monitor) : Course :=
  .steady (if m.period = Monitor.brisk.period then 50000000 else 700000000)

/-- Four tenths of a second after they were started, one is in the middle of its first run. -/
theorem Worker.busyUntil?_twoSteps :
    ((spawn 300000000 (by decide) 0).advance Monitor.twoSteps.slowAndBrisk
      400000000).1.busyUntil? = some 1000000000 := by
  rw [advance_of_le rfl (by decide : 0 ≤ 400000000),
    advance_of_le rfl (by decide : 300000000 ≤ 400000000),
    advance_of_lt rfl (by decide : 400000000 < 1000000000)]
  rfl

/-- The other one waits for its second slot. -/
theorem Worker.busyUntil?_brisk :
    ((spawn 250000000 (by decide) 0).advance Monitor.brisk.slowAndBrisk
      400000000).1.busyUntil? = none := by
  rw [advance_of_le rfl (by decide : 0 ≤ 400000000),
    advance_of_le rfl (by decide : 250000000 ≤ 400000000),
    advance_of_le rfl (by decide : 300000000 ≤ 400000000),
    advance_of_lt rfl (by decide : 400000000 < 500000000)]
  rfl

/-- Two monitors four tenths of a second after they were started. When they are stopped, the run in
progress is waited for, and nothing else. -/
theorem Station.lifecycle_law_pair : ∃ s, s.inFlightEnds = [1000000000] ∧
    Lifecycle Monitor.slowAndBrisk [.twoSteps, .brisk] [.startAll, .wait] s := by
  let s₀ : Station :=
    { now := 0, watches := [some ⟨.twoSteps, by decide, none⟩, some ⟨.brisk, by decide, none⟩] }
  have setUp : ofMonitors 0 [.twoSteps, .brisk] = .ok s₀ := rfl
  have obeys : Obeys Monitor.slowAndBrisk s₀ [.startAll, .wait]
      (s₀.startAll.advance Monitor.slowAndBrisk 400000000) :=
    .startAll (.wait (.advance (Nat.zero_le _)) .nil)
  refine ⟨_, ?_, lifecycle_law setUp obeys⟩
  show List.filterMap Worker.busyUntil?
    [((Worker.spawn 300000000 _ 0).advance Monitor.twoSteps.slowAndBrisk 400000000).1,
      ((Worker.spawn 250000000 _ 0).advance Monitor.brisk.slowAndBrisk 400000000).1] = _
  rw [List.filterMap_cons_some Worker.busyUntil?_twoSteps,
    List.filterMap_cons_none Worker.busyUntil?_brisk, List.filterMap_nil]

end Vigil

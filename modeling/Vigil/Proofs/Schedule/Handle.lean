import Vigil.Proofs.Schedule.Waiting

/-!
# What a watch tells about its worker

Whether a monitor is running is read off its watch alone, and a worker can end on its own side. It
does so if the moment one period after it was started cannot be told; in that case only, a monitor
that is running has no live worker (`Station.HandleLaw.exact`). A worker that is taken away from its
watch has ended (`Station.Handled.past_ended`), so apart from this case a monitor is running exactly
when it has a live worker (`Station.handle_law`).
-/

set_option autoImplicit false

namespace Vigil

/-- A worker that began at `start` is live at the moment `now`: it has not ended, and it will run its
monitor at a slot that is still to come, unless it is told to stop. -/
structure Worker.Live (course : Course) (start now : Nat) (w : Worker) : Prop where
  goesOn : ∃ next, w.nextMoment? = some next
  nextRun : ∃ slot, w.NextRun course start now slot

theorem Worker.Lifeless.not_live {course : Course} {start now later : Nat} {w : Worker}
    (lifeless : w.Lifeless course now) : ¬ w.Live course start later := by
  rintro ⟨-, slot, run⟩
  exact lifeless.not_nextRun run

namespace Station

variable {course : Monitor → Course} {s s' : Station} {i j start now : Nat} {m : Monitor}
  {w : Watch} {k : Worker} {acts : List (Nat × Act)} {past : List Worker}

theorem Tenure.live (tenure : Tenure course m start now acts k)
    (fits : start + m.period.nanos ≤ Timer.latest) : k.Live (course m) start now := by
  obtain ⟨anchored, period⟩ := tenure.anchored
  rw [← period] at fits
  obtain ⟨slot, run⟩ := anchored.exists_nextRun tenure.untold fits
  obtain ⟨next, some⟩ := run.exists_next
  rw [tenure.doing.since some] at run
  exact ⟨⟨next, some⟩, slot, run⟩

theorem Tenure.lifeless (tenure : Tenure course m start now acts k)
    (late : Timer.latest < start + m.period.nanos) : k.Lifeless (course m) now := by
  obtain ⟨anchored, period⟩ := tenure.anchored
  rw [← period] at late
  exact anchored.lifeless tenure.untold late fun next some => tenure.doing.since some

/-- What can become of a station at which monitors are started, stopped and run once, and time goes
by. The monitor at position `i` had the workers `past` before, as they were when they were taken away
from their watch. -/
inductive Handled (course : Monitor → Course) (i : Nat) : Station → List Worker → Prop where
  | setUp {now : Nat} {ms : List Monitor} {s : Station} (ok : ofMonitors now ms = .ok s) :
      Handled course i s []
  | wait {s s' : Station} {past : List Worker} (before : Handled course i s past)
      (waits : Waits course s s') : Handled course i s' past
  | start {s s' : Station} {past : List Worker} {j : Nat} {w : Watch}
      (before : Handled course i s past) (here : s.watch? j = some w)
      (started : s.start j w = .ok s') : Handled course i s' past
  | stop {s : Station} {past : List Worker} {w : Watch} (before : Handled course i s past)
      (here : s.watch? i = some w) :
      Handled course i (s.stop course i w) (past ++ (lastWorker? course s.now w).toList)
  | stopOther {s : Station} {past : List Worker} {j : Nat} {w : Watch}
      (before : Handled course i s past) (here : s.watch? j = some w) (ne : j ≠ i) :
      Handled course i (s.stop course j w) past
  | runOnce {s : Station} {past : List Worker} {j : Nat} {w : Watch}
      (before : Handled course i s past) (here : s.watch? j = some w) :
      Handled course i (s.runOnce course w).2 past

theorem Handled.reached (handled : Handled course i s past) : Reached course s := by
  induction handled with
  | setUp ok => exact reached_ofMonitors ok
  | wait before waits ih => exact ih.step waits.step
  | start before here started ih => exact ih.step (.start here started)
  | stop before here ih => exact ih.step (.stop here)
  | stopOther before here ne ih => exact ih.step (.stop here)
  | runOnce before here ih => exact ih.step (.runOnce here)

/-- All workers that a monitor had before have ended. -/
theorem Handled.past_ended (handled : Handled course i s past) :
    ∀ k ∈ past, k.nextMoment? = none := by
  induction handled with
  | setUp ok => exact nofun
  | wait before waits ih => exact ih
  | start before here started ih => exact ih
  | stop before here ih =>
    intro k mem
    rcases List.mem_append.1 mem with mem | mem
    · exact ih k mem
    · exact ended_of_lastWorker? before.reached here (Option.mem_toList.1 mem)
  | stopOther before here ne ih => exact ih
  | runOnce before here ih => exact ih

theorem start_eq_error_iff {e : AlreadyStarted} :
    s.start i w = .error e ↔ w.isRunning = true ∧ e = ⟨w.name⟩ := by
  unfold start Watch.start
  cases w.isRunning with
  | true =>
    constructor
    · rintro ⟨⟩
      exact ⟨rfl, rfl⟩
    · rintro ⟨-, rfl⟩
      rfl
  | false => exact iff_of_false nofun (by rintro ⟨⟨⟩, -⟩)

theorem start_refused_iff : (∃ e, s.start i w = .error e) ↔ w.isRunning = true := by
  simp only [start_eq_error_iff, exists_and_left, exists_eq, and_true]

/-- What the watch `w` at position `i` tells about the workers that its monitor has had, those that
it had before and the one that it has now. -/
structure HandleLaw (course : Monitor → Course) (i : Nat) (s : Station) (past : List Worker)
    (w : Watch) : Prop where
  /-- If the monitor is running, it has a worker, which was started some time and was not told to
  stop. It is live, unless one period after that moment is past the last one that can be told; then
  it has ended as soon as it is let work, and never runs the monitor. -/
  running : w.isRunning = true → ∃ k start acts, w.worker = some k ∧
    Tenure course w.monitor start s.now acts k ∧
    (start + w.monitor.period.nanos ≤ Timer.latest → k.Live (course w.monitor) start s.now) ∧
    (Timer.latest < start + w.monitor.period.nanos → k.Lifeless (course w.monitor) s.now)
  /-- The monitor has a live worker exactly when it is running and was started early enough. -/
  exact : (∃ k ∈ past ++ w.worker.toList, ∃ start, k.Live (course w.monitor) start s.now) ↔
    ∃ k start acts, w.worker = some k ∧ Tenure course w.monitor start s.now acts k ∧
      start + w.monitor.period.nanos ≤ Timer.latest
  /-- As long as one period from now can be told, the monitor is running exactly when it has a live
  worker, -/
  reflects : s.now + w.monitor.period.nanos ≤ Timer.latest →
    (w.isRunning = true ↔
      ∃ k ∈ past ++ w.worker.toList, ∃ start, k.Live (course w.monitor) start s.now)
  /-- and it is refused to start it only if it has one. -/
  refused : s.now + w.monitor.period.nanos ≤ Timer.latest → ∀ e, s.start i w = .error e →
    ∃ k ∈ past ++ w.worker.toList, ∃ start, k.Live (course w.monitor) start s.now

theorem exists_worker_of_isRunning (running : w.isRunning = true) : ∃ k, w.worker = some k :=
  Option.isSome_iff_exists.1 running

/-- A live worker of a monitor is the one that it has now. -/
theorem Handled.worker_of_live (handled : Handled course i s past)
    (mem : k ∈ past ++ w.worker.toList) (live : k.Live (course w.monitor) start now) :
    w.worker = some k := by
  rcases List.mem_append.1 mem with mem | mem
  · obtain ⟨next, some⟩ := live.goesOn
    rw [handled.past_ended k mem] at some
    cases some
  · exact Option.mem_toList.1 mem

/-- **What a watch tells.** In every state that a monitor gets into by being started, stopped and run
once, and by time going by. -/
theorem handle_law (handled : Handled course i s past) (here : s.watch? i = some w) :
    HandleLaw course i s past w := by
  have reached := handled.reached
  have exact : (∃ k ∈ past ++ w.worker.toList, ∃ start, k.Live (course w.monitor) start s.now) ↔
      ∃ k start acts, w.worker = some k ∧ Tenure course w.monitor start s.now acts k ∧
        start + w.monitor.period.nanos ≤ Timer.latest := by
    constructor
    · rintro ⟨k, mem, start, live⟩
      have worker := handled.worker_of_live mem live
      obtain ⟨start', acts, tenure⟩ := reached.exists_tenure here worker
      refine ⟨k, start', acts, worker, tenure, Nat.le_of_not_lt fun late => ?_⟩
      exact (tenure.lifeless late).not_live live
    · rintro ⟨k, start, acts, worker, tenure, fits⟩
      have mem : k ∈ past ++ w.worker.toList :=
        List.mem_append_right past (Option.mem_toList.2 worker)
      exact ⟨k, mem, start, tenure.live fits⟩
  have reflects (fits : s.now + w.monitor.period.nanos ≤ Timer.latest) : w.isRunning = true ↔
      ∃ k ∈ past ++ w.worker.toList, ∃ start, k.Live (course w.monitor) start s.now := by
    rw [exact]
    constructor
    · intro running
      obtain ⟨k, worker⟩ := exists_worker_of_isRunning running
      obtain ⟨start, acts, tenure⟩ := reached.exists_tenure here worker
      have le := tenure.lives.le
      exact ⟨k, start, acts, worker, tenure, by omega⟩
    · rintro ⟨k, start, acts, worker, -⟩
      rw [Watch.isRunning, worker]
      rfl
  constructor
  case running =>
    intro running
    obtain ⟨k, worker⟩ := exists_worker_of_isRunning running
    obtain ⟨start, acts, tenure⟩ := reached.exists_tenure here worker
    exact ⟨k, start, acts, worker, tenure, tenure.live, tenure.lifeless⟩
  case exact => exact exact
  case reflects => exact reflects
  case refused => exact fun fits e refused => (reflects fits).1 (start_refused_iff.1 ⟨e, refused⟩)

/-- A monitor that is set up alone, started at once and let work up to a moment. -/
theorem exists_handled_alone (course : Monitor → Course) {m : Monitor} (pos : 0 < m.period.nanos)
    (upTo : Nat) : ∃ s, Handled course 0 s [] ∧ s.now = upTo ∧ s.watch? 0 =
      some ⟨m, pos, some ((Worker.spawn m.period.nanos pos 0).advance (course m) upTo).1⟩ := by
  let s₀ : Station := { now := 0, watches := [some ⟨m, pos, none⟩] }
  have setUp : ofMonitors 0 [m] = .ok s₀ := by
    have made := Watch.ofMonitor_eq_ok_iff.2 ⟨pos, rfl⟩
    simp only [ofMonitors, List.mapM_cons, made]
    rfl
  obtain ⟨s₁, started⟩ : ∃ s₁, s₀.start 0 ⟨m, pos, none⟩ = .ok s₁ := ⟨_, rfl⟩
  have handled : Handled course 0 s₁ [] := .start (.setUp setUp) rfl started
  obtain ⟨-, rfl⟩ := eq_of_start started
  refine ⟨_, handled.wait (.advance (Nat.zero_le upTo)), Nat.zero_max upTo, ?_⟩
  rw [watch?_advance]
  rfl

/-- A monitor that was started nine tenths of a second ago. -/
theorem handle_law_twoSteps : ∃ s w, s.now = 900000000 ∧ w.isRunning = true ∧
    HandleLaw (fun _ => .steady 0) 0 s [] w := by
  obtain ⟨s, handled, now, here⟩ :=
    exists_handled_alone (fun _ => .steady 0) (m := .twoSteps) (by decide) 900000000
  exact ⟨s, _, now, rfl, handle_law handled here⟩

end Station

/-- A monitor with the longest period in whole seconds. -/
def Monitor.forever : Monitor where
  name := "forever"
  period := ⟨18446744073709551615000000000, by decide⟩

/-- Once the monitor with the longest period is started, it is running and cannot be started again,
but its worker has ended. -/
theorem Station.running_lifeless : ∃ s w, Handled (fun _ => .steady 0) 0 s [] ∧
    s.watch? 0 = some w ∧ w.isRunning = true ∧ (∃ e, s.start 0 w = .error e) ∧
    ∀ k ∈ [] ++ w.worker.toList, ∀ start, ¬ k.Live (.steady 0) start s.now := by
  obtain ⟨s, handled, -, here⟩ :=
    exists_handled_alone (fun _ => .steady 0) (m := .forever) (by decide) 250000000
  refine ⟨s, _, handled, here, rfl, start_refused_iff.2 rfl, ?_⟩
  intro k mem start live
  obtain rfl := List.mem_singleton.1 mem
  obtain ⟨start', acts, tenure⟩ := handled.reached.exists_tenure here rfl
  have late : Timer.latest < start' + Monitor.forever.period.nanos :=
    Nat.lt_of_lt_of_le (by decide) (Nat.le_add_left _ start')
  exact (tenure.lifeless late).not_live live

end Vigil

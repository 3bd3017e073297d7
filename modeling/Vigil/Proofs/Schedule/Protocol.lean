import Vigil.Proofs.Schedule.Handle
import Vigil.Proofs.Schedule.Lifecycle
import Vigil.Proofs.Schedule.Upkeep

/-!
# The protocol of one monitor

A monitor is started, stopped and run once in whatever order, and time goes by in between. Of what
is asked, some must not come to anything: a start that is refused, a stop of a monitor that is not
running, and a run apart from the worker. What becomes of the monitor is compared with what becomes
of it without: whatever is asked afterwards, it comes to the same (`Career.Protocol.undisturbed`,
`Career.Protocol.idle`, `Career.Protocol.runOnce`), in the second and third case but for what they
report themselves. The rest of `Career.Protocol` is about workers: each has its slots from its own
start, and runs of different ones never overlap.
-/

set_option autoImplicit false

namespace Vigil

namespace Station

variable {s : Station} {w : Watch}

/-- Nothing happens at a station whose only monitor has no worker. -/
theorem advance_resting (watches : s.watches = [some w]) (leftovers : s.leftovers = [])
    (resting : w.worker = none) (course : Monitor → Course) : s.advance course s.now = s := by
  obtain ⟨now, watches, leftovers, lines⟩ := s
  cases watches
  cases leftovers
  have same := Watch.advance_of_none course now resting
  have idle := Watch.acts_of_none course now resting
  simp [advance, advanceWatch, same, idle, workerLines]

theorem stop_resting (watches : s.watches = [some w]) (leftovers : s.leftovers = [])
    (resting : w.worker = none) (course : Monitor → Course) :
    s.stop course 0 w = s.report [.monitorNotRunning w.name] := by
  have here : s.watch? 0 = some w := by
    unfold watch?
    rw [watches]
    rfl
  have kept : s.setWatch 0 (some w) = s := by
    obtain ⟨now, watches, leftovers, lines⟩ := s
    cases watches
    rfl
  have released : w.release = w := by
    obtain ⟨m, pos, worker⟩ := w
    cases resting
    rfl
  have events : w.stopEvents = [.monitorNotRunning w.name] := by
    rw [Watch.stopEvents, resting]
  rw [stop_eq here, Watch.endsAt_of_none resting, Watch.signal_of_none resting,
    Watch.advance_of_none course s.now resting, kept,
    advance_resting watches leftovers resting course, released, kept, events]

end Station

namespace Career

open Station (FromStart)

variable {course : Monitor → Course} {c : Career} {w : Watch} {m : Monitor} {op : Operation}
  {ops : List Operation}

/-- A career of the monitor `m` in which it is running: its worker was started at the moment that
the career tells, has done what the career tells, and goes on as a worker does that was started then
and is left to itself. If one period after its start can be told, it is live. -/
def Working (course : Monitor → Course) (m : Monitor) (c : Career) : Prop :=
  ∃ w k, c.watch? = some w ∧ w.worker = some k ∧
    FromStart course m c.started c.station.now c.own k ∧
    (c.started + m.period.nanos ≤ Timer.latest → k.Live (course m) c.started c.station.now)

/-- What becomes of a monitor that is stopped. -/
structure Stopped (c c' : Career) : Prop where
  resting : c'.isRunning = false
  /-- No run has begun since it was stopped, -/
  runs_eq : runs c'.past = runs (c.past ++ c.own)
  /-- that took as long as the run in progress, and no time if there was none, -/
  now : c'.station.now =
    ((inFlight? c.own).map fun run => run.1 + run.2.span).getD c.station.now
  /-- and now all runs have ended. -/
  ended : ∀ run ∈ runs c'.past, run.2 ≤ c'.station.now

/-- What holds of the monitor `m`, whose watch is `w`, when it has been asked the operations `ops`
since it was set up. -/
structure Protocol (course : Monitor → Course) (m : Monitor) (ops : List Operation) (c : Career)
    (w : Watch) : Prop where
  watch? : c.watch? = some w
  monitor : w.monitor = m
  /-- What workers have logged is what is logged of what they have done. -/
  log : c.station.lines.filter (·.worker.isSome) =
    Station.workerLines m.name (c.past ++ c.own)
  /-- It can be started, stopped, run once and waited for at any time. -/
  asked : ∀ op, op.isAsked = true → ∃ c', c.perform course op = some c'
  isRunning : c.isRunning = Operation.leavesOn false ops
  /-- A start is refused exactly when the monitor is running, -/
  refused : ∀ e, c.station.start 0 w = .error e ↔ c.isRunning = true ∧ e = ⟨m.name⟩
  /-- and then it makes no difference whatsoever. -/
  undisturbed : c.isRunning = true →
    ∀ later, c.run course (.start :: later) = c.run course later
  /-- A stop of a monitor that is not running returns at once, reports that it is not running, and
  makes no other difference. -/
  idle : c.isRunning = false →
    c.station.stop course 0 w = c.station.report [.monitorNotRunning m.name] ∧
    ∀ later, (c.run course (.stop :: later)).map quiet = (c.run course later).map quiet
  /-- A run apart from the worker is the run that begins at that moment. It leaves the monitor running
  or not, as it was, and but for what it reports it makes no difference other than waiting as long
  does. -/
  runOnce : (c.station.runOnce course w).1 = (course m c.station.now).report ∧
    (∀ c', c.perform course .runOnce = some c' → c'.isRunning = c.isRunning) ∧
    ∀ later, (c.run course (.runOnce :: later)).map quiet =
      (c.run course (.wait (course m c.station.now).span :: later)).map quiet
  working : c.isRunning = true → Working course m c
  /-- If it is started now and not stopped since, its worker was started now, and the workers before
  have done no more. -/
  restarted : c.isRunning = false → ∀ later c', Operation.stop ∉ later →
    c.run course (.start :: later) = some c' →
    c'.started = c.station.now ∧ c'.past = c.past ∧ Working course m c'
  /-- All runs, of whichever worker, have come one after the other. -/
  successive : Successive (c.past ++ c.own)
  /-- The runs of workers before have ended, even when the worker was started that there is now. -/
  ended : ∀ run ∈ runs c.past, run.2 ≤ if c.isRunning then c.started else c.station.now
  stopped : ∀ c', c.perform course .stop = some c' → Stopped c c'

theorem Sound.working (sound : Sound course m c w) (running : c.isRunning = true) :
    Working course m c := by
  rw [sound.isRunning] at running
  obtain ⟨k, worker⟩ := Station.exists_worker_of_isRunning running
  have tenure := sound.running k worker
  exact ⟨w, k, sound.watch?, worker, tenure.fromStart, tenure.live⟩

theorem Sound.worker_eq_none (sound : Sound course m c w) (resting : c.isRunning = false) :
    w.worker = none := by
  rw [sound.isRunning, Watch.isRunning, Option.isSome_eq_false_iff] at resting
  exact Option.isNone_iff_eq_none.1 resting

theorem exists_perform (here : c.watch? = some w) (asked : op.isAsked = true) :
    ∃ c', c.perform course op = some c' := by
  rw [perform_of_watch? here]
  cases op with
  | start =>
    cases worker : w.worker with
    | none => exact ⟨_, performWith_start_of_resting worker⟩
    | some k => exact ⟨_, performWith_start_of_running worker⟩
  | stop | runOnce | wait span => exact ⟨_, rfl⟩
  | turn | pass later => cases asked

theorem Sound.quiet_stopped (sound : Sound course m c w) (resting : c.isRunning = false) :
    (c.stopped course w).quiet = c.quiet := by
  have worker := sound.worker_eq_none resting
  have stop := Station.stop_resting sound.watches sound.leftovers worker course
  unfold quiet stopped
  rw [stop, Station.quiet_report, sound.resting worker, Watch.signal_of_none worker,
    Watch.acts_of_none course _ worker, List.append_nil, List.append_nil]

theorem Sound.stopped (sound : Sound course m c w) : Stopped c (c.stopped course w) := by
  have now : (c.stopped course w).station.now = w.endsAt c.station.now :=
    Station.now_stop sound.watch?
  constructor
  case resting => exact sound.stop.isRunning
  case runs_eq => exact sound.runs_stopped
  case now =>
    rw [now]
    cases worker : w.worker with
    | none =>
      rw [sound.resting worker, Watch.endsAt_of_none worker]
      rfl
    | some k =>
      have doing := (sound.running k worker).doing
      rw [Watch.endsAt_of_some worker, doing.endsAt_eq, doing.busyUntil?_eq]
  case ended =>
    rw [now, sound.runs_stopped]
    exact sound.ended_stopped

/-- **The protocol of one monitor**, whatever it is asked. -/
theorem protocol_law {w₀ : Watch} {now : Nat} (ok : Watch.ofMonitor m = .ok w₀)
    (ran : (begin now w₀).run course ops = some c) :
    ∃ w, Protocol course m ops c w := by
  have begun := sound_begin course ok now
  have isRunning₀ : (begin now w₀).isRunning = false := by
    rw [begun.isRunning, Watch.isRunning, Watch.worker_ofMonitor ok]
    rfl
  obtain ⟨⟨w, sound⟩, isRunning⟩ := begun.run ran
  rw [isRunning₀] at isRunning
  refine ⟨w, ?_⟩
  constructor
  case watch? => exact sound.watch?
  case monitor => exact sound.monitor
  case log => exact sound.log
  case asked => exact fun op asked => exists_perform sound.watch? asked
  case isRunning => exact isRunning
  case refused =>
    intro e
    rw [Station.start_eq_error_iff, sound.isRunning, Watch.name, sound.monitor]
  case undisturbed =>
    intro running later
    rw [sound.isRunning] at running
    obtain ⟨k, worker⟩ := Station.exists_worker_of_isRunning running
    have refused : c.performWith course w .start = some c := performWith_start_of_running worker
    exact run_cons_of_perform ((perform_of_watch? sound.watch? .start).trans refused) later
  case idle =>
    intro resting
    have worker := sound.worker_eq_none resting
    have stop := Station.stop_resting sound.watches sound.leftovers worker course
    rw [Watch.name, sound.monitor] at stop
    refine ⟨stop, fun later => ?_⟩
    rw [run_cons_of_perform (perform_of_watch? sound.watch? .stop)]
    exact quiet_run_eq (sound.quiet_stopped resting) later
  case runOnce =>
    obtain rfl := sound.monitor
    refine ⟨rfl, fun c' performs => (sound.perform performs).isRunning, fun later => ?_⟩
    have same : (c.letWork course w (c.station.runOnce course w).2).quiet =
        (c.letWork course w (c.station.sleep course (course w.monitor c.station.now).span)).quiet :=
      quiet_congr (Station.quiet_runOnce course c.station w) ..
    rw [run_cons_of_perform (perform_of_watch? sound.watch? .runOnce),
      run_cons_of_perform (perform_of_watch? sound.watch? (.wait _))]
    exact quiet_run_eq same later
  case working => exact sound.working
  case restarted =>
    intro resting later c' unstopped ran'
    obtain ⟨c₁, performs, rest⟩ := run_cons_eq_some_iff.1 ran'
    have next := sound.perform performs
    obtain ⟨w₁, sound₁⟩ := next.sound
    rw [perform_of_watch? sound.watch?,
      performWith_start_of_resting (sound.worker_eq_none resting)] at performs
    cases performs
    -- As nobody stops the monitor, the worker that it gets now is the one that it has then.
    have running₁ := next.isRunning
    obtain ⟨running', started, past⟩ := sound₁.run_keeps running₁ unstopped rest
    obtain ⟨⟨w', sound'⟩, -⟩ := sound₁.run rest
    exact ⟨started, past, sound'.working running'⟩
  case successive => exact sound.successive_all
  case ended =>
    split
    · next running => exact sound.before (sound.isRunning ▸ running)
    · exact sound.ended
  case stopped =>
    intro c' performs
    rw [perform_of_watch? sound.watch?] at performs
    cases performs
    exact sound.stopped

/-- A monitor is started twice, run once, stopped twice and started again. -/
def restartScript : List Operation :=
  [.start, .wait 400000000, .start, .runOnce, .stop, .stop, .start, .wait 350000000]

/-- Runs of the monitor with a period of three tenths of a second take seven tenths. The second start
does not move the first slot, and the run apart from the worker takes place during that of the
worker. The slots of the second worker are counted from its own start. -/
theorem protocol_law_restart : ∃ c w,
    (begin 0 ⟨.twoSteps, by decide, none⟩).run (fun _ => .steady 700000000) restartScript = some c ∧
    c.started = 1100000000 ∧ runs c.past = [(300000000, 1000000000)] ∧
    runs c.own = [(1400000000, 2100000000)] ∧
    Protocol (fun _ => .steady 700000000) .twoSteps restartScript c w := by
  have ok : Watch.ofMonitor .twoSteps = .ok ⟨.twoSteps, by decide, none⟩ := rfl
  have outcome : ((begin 0 ⟨.twoSteps, by decide, none⟩).run (fun _ => .steady 700000000)
      restartScript).map (fun c => (c.started, runs c.past, runs c.own)) =
      some (1100000000, [(300000000, 1000000000)], [(1400000000, 2100000000)]) := by
    decide +kernel
  obtain ⟨c, ran, eq⟩ := Option.map_eq_some_iff.1 outcome
  simp only [Prod.mk.injEq] at eq
  obtain ⟨started, past, own⟩ := eq
  obtain ⟨w, protocol⟩ := protocol_law ok ran
  exact ⟨c, w, ran, started, past, own, protocol⟩

end Career

end Vigil

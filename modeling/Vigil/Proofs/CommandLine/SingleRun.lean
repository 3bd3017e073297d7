import Vigil.CommandLine.Service
import Vigil.Proofs.Chain.Completion
import Vigil.Proofs.Config.RoundTrip
import Vigil.Proofs.Config.Validation
import Vigil.Proofs.Text.Utf8

/-!
# Single runs

A program that is to run its monitors once gives each of them a turn, in the order of the
configuration and whatever became of those before (`takenInTurn_turns`). A turn is a whole run of
its monitor; it is healthy exactly if all requests were carried out and succeeded, the cleanup aside
(`Monitor.isHealthy_iff`). The loop of the program counts the turns that are not (`runEach_eq`), and
so the exit code says whether every turn was healthy (`single_run`).
-/

set_option autoImplicit false

namespace Vigil

variable {client : Client} {server : Server}

/-- All requests of a run of a monitor are carried out and succeed, cleanup requests aside. -/
def Monitor.Completes (m : Monitor) (client : Client) (server : Server) (b : Builtins)
    (j : Journal) : Prop :=
  (m.requestAttempts client server b j).map Attempt.spec = m.requests ∧
    ∀ a ∈ m.requestAttempts client server b j, ∃ vs, a.result = .ok vs

/-- A run is healthy exactly if all its requests are carried out and succeed. -/
theorem Monitor.isHealthy_iff {m : Monitor} {b : Builtins} {j : Journal} :
    (m.tick client server b j).1.isHealthy = true ↔ m.Completes client server b j := by
  have requests := (m.tick_madeOf client server b j).requests
  have first : (m.tick client server b j).1.monitoring.firstFailure =
      (m.requestAttempts client server b j).findSome? Attempt.failure? :=
    congrArg Outcome.firstFailure requests.outcome
  have healthy : (m.tick client server b j).1.isHealthy = true ↔
      ∀ a ∈ m.requestAttempts client server b j, a.hasFailed = false := by
    unfold TickReport.isHealthy Outcome.isSuccess
    rw [first, Option.isNone_iff_eq_none, List.findSome?_eq_none_iff]
    refine forall₂_congr fun a _ => ?_
    unfold Attempt.hasFailed
    cases a.failure? <;> simp
  rw [healthy]
  simp only [Attempt.hasFailed_eq_false_iff]
  refine ⟨fun ok => ⟨?_, ok⟩, And.right⟩
  rw [requests.inOrder]
  apply List.take_of_length_le
  apply Nat.le_of_not_lt
  -- A chain that was not carried out in full ends with a failure.
  intro short
  obtain ⟨-, a, last, failed⟩ := requests.stops short
  obtain ⟨vs, succeeded⟩ := ok a (List.mem_of_getLast? last)
  rw [Attempt.hasFailed_eq_false_iff.2 ⟨vs, succeeded⟩] at failed
  cases failed

/-- A configuration that was read from a text is usable. -/
theorem ServiceConfig.usable_of_ofText {c : ServiceConfig} {text : String}
    (read : ofText text = .ok c) : c.Usable :=
  usable_iff.2 (c.checked_validate.ok_iff.1 (validate_of_ofText read))

namespace CommandLine

/-- One monitor's turn in a single run of all monitors. -/
structure Turn where
  monitor : Monitor
  builtins : Builtins
  /-- What had happened before it. -/
  before : Journal
  report : TickReport
  /-- What has happened when it is over. -/
  after : Journal

namespace Turn

/-- The messages that arrive in a turn. -/
def arrived (t : Turn) : List Message := t.after.arrived.drop t.before.arrived.length

/-- All requests of the monitor are carried out and succeed in a turn, cleanup requests aside. -/
def Completes (client : Client) (server : Server) (t : Turn) : Prop :=
  t.monitor.Completes client server t.builtins t.before

end Turn

/-- What has happened after some turns, the first of which began with `j`. -/
def afterTurns (j : Journal) (ts : List Turn) : Journal := ts.foldl (fun _ t => t.after) j

/-- Turns are taken one after the other: each is a run of its monitor that begins with what had
happened when the turns before it were over. -/
def TakenInTurn (client : Client) (server : Server) (j : Journal) (ts : List Turn) : Prop :=
  ∀ (i : Nat) (t : Turn), ts[i]? = some t → t.before = afterTurns j (ts.take i) ∧
    t.monitor.tick client server t.builtins t.before = (t.report, t.after)

section Turns

variable (client : Client) (server : Server) (builtins : Nat → Builtins)

/-- A monitor takes its turn. -/
def Turn.of (m : Monitor) (b : Builtins) (j : Journal) : Turn where
  monitor := m
  builtins := b
  before := j
  report := (m.tick client server b j).1
  after := (m.tick client server b j).2

/-- Monitors take their turns. -/
def turns : List Monitor → Journal → List Turn
  | [], _ => []
  | m :: rest, j =>
    let t := Turn.of client server m (builtins rest.length) j
    t :: turns rest t.after

end Turns

variable {builtins : Nat → Builtins} {ms : List Monitor} {j : Journal} {t : Turn}

theorem turns_cons (m : Monitor) (rest : List Monitor) (j : Journal) :
    turns client server builtins (m :: rest) j =
      (let t := Turn.of client server m (builtins rest.length) j
      t :: turns client server builtins rest t.after) := rfl

/-- **The loop over the monitors** counts the turns that are not healthy. -/
theorem runEach_eq (ms : List Monitor) (unhealthy : Nat) (j : Journal) :
    Service.runEach client server builtins ms unhealthy j =
      (unhealthy + (turns client server builtins ms j).countP (fun t => !t.report.isHealthy),
        afterTurns j (turns client server builtins ms j)) := by
  induction ms generalizing unhealthy j with
  | nil => rfl
  | cons m rest ih =>
    have first : Service.runEach client server builtins (m :: rest) unhealthy j =
        (let t := Turn.of client server m (builtins rest.length) j
        Service.runEach client server builtins rest
          (if t.report.isHealthy then unhealthy else unhealthy + 1) t.after) := rfl
    rw [first, turns_cons]
    simp only
    rw [ih]
    generalize Turn.of client server m (builtins rest.length) j = t
    cases healthy : t.report.isHealthy with
    | true => simp [afterTurns, healthy]
    | false =>
      rw [List.countP_cons_of_pos (by rw [healthy]; rfl)]
      simp [afterTurns, Nat.add_assoc, Nat.add_comm 1]

theorem monitors_turns (ms : List Monitor) (j : Journal) :
    (turns client server builtins ms j).map Turn.monitor = ms := by
  induction ms generalizing j with
  | nil => rfl
  | cons m rest ih =>
    rw [turns_cons]
    simp only [List.map_cons, ih]
    rfl

theorem takenInTurn_turns (ms : List Monitor) (j : Journal) :
    TakenInTurn client server j (turns client server builtins ms j) := by
  induction ms generalizing j with
  | nil => exact fun i t here => nomatch here
  | cons m rest ih =>
    intro i t here
    rw [turns_cons] at here ⊢
    cases i with
    | zero =>
      obtain rfl := Option.some.inj here
      exact ⟨rfl, rfl⟩
    | succ i => exact ih _ i t here

/-- What arrives in a turn comes behind what had arrived before it. -/
theorem arrived_of_tick
    (run : t.monitor.tick client server t.builtins t.before = (t.report, t.after)) :
    t.after.arrived = t.before.arrived ++ t.arrived := by
  have leads := t.monitor.tick_leads client server t.builtins t.before
  rw [run] at leads
  exact (List.prefix_iff_eq_append.1 leads.arrived).symm

theorem arrived_turns (ms : List Monitor) (j : Journal) :
    (afterTurns j (turns client server builtins ms j)).arrived =
      j.arrived ++ (turns client server builtins ms j).flatMap Turn.arrived := by
  induction ms generalizing j with
  | nil => exact (List.append_nil _).symm
  | cons m rest ih =>
    have first : (Turn.of client server m (builtins rest.length) j).after.arrived = j.arrived ++
        (Turn.of client server m (builtins rest.length) j).arrived :=
      arrived_of_tick (t := Turn.of client server m (builtins rest.length) j) rfl
    rw [turns_cons]
    simp only
    rw [List.flatMap_cons, ← List.append_assoc, ← first, ← ih]
    rfl

/-- A turn that is taken is healthy exactly if its monitor's requests are carried out and
succeed. -/
theorem completes_iff
    (run : t.monitor.tick client server t.builtins t.before = (t.report, t.after)) :
    t.report.isHealthy = true ↔ t.Completes client server := by
  unfold Turn.Completes
  rw [← Monitor.isHealthy_iff, run]

/-- A turn that is taken is made of the attempts of its monitor. -/
theorem madeOf_of_tick
    (run : t.monitor.tick client server t.builtins t.before = (t.report, t.after)) :
    t.monitor.MadeOf client server t.builtins t.before t.report t.after := by
  have made := t.monitor.tick_madeOf client server t.builtins t.before
  rw [run] at made
  exact made

theorem countP_unhealthy_eq_zero_iff (ms : List Monitor) (j : Journal) :
    (turns client server builtins ms j).countP (fun t => !t.report.isHealthy) = 0 ↔
      ∀ t ∈ turns client server builtins ms j, t.Completes client server := by
  rw [List.countP_eq_zero]
  refine forall₂_congr fun t mem => ?_
  obtain ⟨i, here⟩ := List.mem_iff_getElem?.1 mem
  rw [← completes_iff (takenInTurn_turns ms j i t here).2]
  cases t.report.isHealthy <;> simp

/-! ## The program -/

namespace Service

/-- What has happened when the first monitor takes its turn. -/
def begun (s : Service) (now : Nat) : Journal := s.greeting.foldl Journal.report { now }

/-- The turns that a service gives its monitors. -/
def turns (s : Service) (w : Surroundings) : List Turn :=
  CommandLine.turns s.client w.server w.builtins s.config.monitors (s.begun w.now)

theorem arrived_begun (s : Service) (now : Nat) : (s.begun now).arrived = [] := by
  unfold begun greeting
  split <;> rfl

/-- A program gives every monitor of a service a turn, and then ends. -/
structure GivesTurns (s : Service) (w : Surroundings) (e : Ending) : Prop where
  /-- Every monitor has one turn, in the order of the configuration. -/
  monitors : (s.turns w).map Turn.monitor = s.config.monitors
  /-- It has its turn whatever became of those before. -/
  inTurn : TakenInTurn s.client w.server (s.begun w.now) (s.turns w)
  /-- A turn is made of the attempts at the requests of its monitor and then of those at its cleanup
  requests: that is what is reported of it, and what has happened when it is over. -/
  made : ∀ t ∈ s.turns w,
    t.monitor.MadeOf s.client w.server t.builtins t.before t.report t.after
  /-- In each turn all cleanup requests are carried out after the others. -/
  cleanup : ∀ t ∈ s.turns w,
    (t.monitor.cleanupAttempts s.client w.server t.builtins t.before).map Attempt.spec =
      t.monitor.cleanup ∧ t.report.cleanup.executed = t.monitor.cleanup.length
  /-- What arrives at the server is what arrives in the turns, one after the other. -/
  arrived : e.arrived = (s.turns w).flatMap Turn.arrived
  arrived_in_turn : ∀ t ∈ s.turns w, t.after.arrived = t.before.arrived ++ t.arrived
  /-- The program ends well exactly if in each turn all requests are carried out and succeed,
  whatever becomes of the cleanup. -/
  ends_well_iff : e.exitCode = 0 ↔ ∀ t ∈ s.turns w, t.Completes s.client w.server
  ends_badly : e.exitCode ≠ 0 → e.exitCode = 1

/-- **A single run gives every monitor its turn**, once the monitors can be set up. -/
theorem givesTurns {s : Service} (w : Surroundings)
    (periods : ∀ m ∈ s.config.monitors, 0 < m.period.nanos) :
    s.GivesTurns w (s.endOfOnce w.server w.builtins w.now) := by
  obtain ⟨station, setUp⟩ := Station.exists_ofMonitors w.now periods
  have taken : TakenInTurn s.client w.server (s.begun w.now) (s.turns w) := takenInTurn_turns _ _
  have run : s.runOnce w.server w.builtins { now := w.now } =
      ((s.turns w).countP (fun t => !t.report.isHealthy),
        (afterTurns (s.begun w.now) (s.turns w)).report (.onceFinished s.config.monitors.length
          ((s.turns w).countP fun t => !t.report.isHealthy))) := by
    unfold runOnce
    rw [runEach_eq, Nat.zero_add]
    rfl
  have healthy : (s.turns w).countP (fun t => !t.report.isHealthy) = 0 ↔
      ∀ t ∈ s.turns w, t.Completes s.client w.server := countP_unhealthy_eq_zero_iff _ _
  have made : ∀ t ∈ s.turns w,
      t.monitor.MadeOf s.client w.server t.builtins t.before t.report t.after := by
    intro t mem
    obtain ⟨i, here⟩ := List.mem_iff_getElem?.1 mem
    exact madeOf_of_tick (taken i t here).2
  unfold endOfOnce
  rw [setUp, run]
  constructor
  case monitors => exact monitors_turns _ _
  case inTurn => exact taken
  case made => exact made
  case cleanup =>
    intro t mem
    obtain ⟨each, executed, -⟩ := (made t mem).cleanup_all
    exact ⟨each, executed⟩
  case arrived =>
    show (afterTurns (s.begun w.now) (s.turns w)).arrived = _
    unfold turns
    rw [arrived_turns, arrived_begun, List.nil_append]
  case arrived_in_turn =>
    intro t mem
    obtain ⟨i, here⟩ := List.mem_iff_getElem?.1 mem
    exact arrived_of_tick (taken i t here).2
  case ends_well_iff =>
    rw [← healthy]
    simp only
    split
    · next all => exact iff_of_true rfl all
    · next some => exact iff_of_false (by decide) some
  case ends_badly =>
    simp only
    split
    · exact fun badly => absurd rfl badly
    · exact fun _ => rfl

end Service

/-- How a program ends that is to run its monitors once. -/
structure SingleRun (w : Surroundings) (path : String) (e : Ending) : Prop where
  /-- It ends well exactly if the configuration is loaded, the client can be made, and in each
  monitor's turn all requests are carried out and succeed. -/
  ends_well_iff : e.exitCode = 0 ↔ ∃ c client,
    ServiceConfig.ofFile path (w.contents path) = .ok c ∧
      Client.ofSettings c.client = .ok client ∧
      ∀ t ∈ Service.turns ⟨path, c, client⟩ w, t.Completes client w.server
  /-- Without a configuration nothing is sent, and the reason is told, -/
  unloaded : ∀ reason, ServiceConfig.ofFile path (w.contents path) = .error reason →
    e.exitCode = 1 ∧ e.arrived = [] ∧ e.failure = some reason
  /-- and so it is without a client. -/
  unmade : ∀ c reason, ServiceConfig.ofFile path (w.contents path) = .ok c →
    Client.ofSettings c.client = .error reason →
      e.exitCode = 1 ∧ e.arrived = [] ∧ e.failure = some (.unusable reason)
  /-- With both, every monitor is given its turn. -/
  turns : ∀ c client, ServiceConfig.ofFile path (w.contents path) = .ok c →
    Client.ofSettings c.client = .ok client → Service.GivesTurns ⟨path, c, client⟩ w e
  /-- The configuration is that of the text in the file. -/
  text : ∀ text, w.contents path = .ok (Text.encode text) →
    ServiceConfig.ofFile path (w.contents path) = ServiceConfig.ofText text

section Ends

variable {w : Surroundings} {path : String} {c : ServiceConfig}

theorem ending_of_unloaded {reason : ConfigError}
    (unloaded : ServiceConfig.ofFile path (w.contents path) = .error reason) :
    (Request.run path true).ending w = .failed reason := by
  have load : Service.load path (w.contents path) = .error reason := by
    unfold Service.load
    rw [unloaded]
    rfl
  unfold Request.ending
  simp only [load]

theorem ending_of_unmade {reason : Unusable}
    (loaded : ServiceConfig.ofFile path (w.contents path) = .ok c)
    (unmade : Client.ofSettings c.client = .error reason) :
    (Request.run path true).ending w = .failed (.unusable reason) := by
  have load : Service.load path (w.contents path) = .error (.unusable reason) := by
    simp only [Service.load, loaded, unmade, bind, Except.bind]
  unfold Request.ending
  simp only [load]

theorem ending_of_loaded (loaded : ServiceConfig.ofFile path (w.contents path) = .ok c)
    (made : Client.ofSettings c.client = .ok client) :
    (Request.run path true).ending w =
      Service.endOfOnce ⟨path, c, client⟩ w.server w.builtins w.now := by
  have load : Service.load path (w.contents path) = .ok ⟨path, c, client⟩ := by
    simp only [Service.load, loaded, made, bind, Except.bind, pure, Except.pure]
  unfold Request.ending
  simp only [load, if_pos]

/-- A configuration that is loaded from a file is usable. -/
theorem usable_of_ofFile {contents : Except FileFault (List UInt8)}
    (loaded : ServiceConfig.ofFile path contents = .ok c) : c.Usable := by
  unfold ServiceConfig.ofFile at loaded
  split at loaded
  · cases loaded
  · split at loaded
    · cases loaded
    · exact ServiceConfig.usable_of_ofText loaded

end Ends

/-- **A single run gives every monitor its turn**, and its exit code tells whether all were
healthy. -/
theorem single_run {arguments : List String} {path : String}
    (asks : Request.ofArguments arguments = .run path true) (w : Surroundings) :
    SingleRun w path ((Request.ofArguments arguments).ending w) := by
  rw [asks]
  have turns : ∀ c client, ServiceConfig.ofFile path (w.contents path) = .ok c →
      Client.ofSettings c.client = .ok client →
        Service.GivesTurns ⟨path, c, client⟩ w ((Request.run path true).ending w) := by
    intro c client loaded made
    rw [ending_of_loaded loaded made]
    exact Service.givesTurns w (usable_of_ofFile loaded).periods
  constructor
  case turns => exact turns
  case unloaded =>
    intro reason failed
    rw [ending_of_unloaded failed]
    exact ⟨rfl, rfl, rfl⟩
  case unmade =>
    intro c reason loaded failed
    rw [ending_of_unmade loaded failed]
    exact ⟨rfl, rfl, rfl⟩
  case text =>
    intro text found
    unfold ServiceConfig.ofFile
    rw [found]
    simp only [Text.decode?_encode]
  case ends_well_iff =>
    constructor
    · intro well
      cases loaded : ServiceConfig.ofFile path (w.contents path) with
      | error reason =>
        rw [ending_of_unloaded loaded] at well
        cases well
      | ok c =>
        cases made : Client.ofSettings c.client with
        | error reason =>
          rw [ending_of_unmade loaded made] at well
          cases well
        | ok client =>
          exact ⟨c, client, rfl, made, (turns c client loaded made).ends_well_iff.1 well⟩
    · rintro ⟨c, client, loaded, made, healthy⟩
      exact (turns c client loaded made).ends_well_iff.2 healthy

/-- A configuration with two monitors of one request each, of which the first has this time limit.
Each has a cleanup request for which an answer with the status code 200 will not do. -/
def ailing (limit : String) : ServiceConfig where
  monitors := [
    { name := "m"
      period := .ofSeconds 2
      requests := [{ name := "r", url := "http://[::1]/r", timeout := some limit }]
      cleanup := [{ name := "c", url := "http://[::1]/c", accepted := .single 204 }] },
    { name := "n"
      period := .ofSeconds 2
      requests := [{ name := "s", url := "http://[::1]/s" }]
      cleanup := [{ name := "d", url := "http://[::1]/d", accepted := .single 204 }] }]

/-- This configuration is in every file, and there is no answer with another code than 200. -/
def Surroundings.holding (c : ServiceConfig) : Surroundings where
  contents _ := .ok (Text.encode c.toJson.text)
  server := .atOnce {}
  builtins _ := default

theorem ofFile_holding {c : ServiceConfig} (path : String) (valid : c.validate = .ok ()) :
    ServiceConfig.ofFile path ((Surroundings.holding c).contents path) = .ok c := by
  have read := ServiceConfig.ofText_of_decode c.decode_toJson
  rw [valid] at read
  unfold ServiceConfig.ofFile
  simp only [Surroundings.holding, Text.decode?_encode]
  exact read

/-- If the time limit cannot be read, the program ends badly, but the other monitor has its turn and
is healthy. If it can, the program ends well. That the cleanup fails matters in neither case. -/
theorem single_run_ailing :
    Request.ofArguments ["--once", "--config", "monitors.json"] = .run "monitors.json" true ∧
      (∀ c, SingleRun (.holding c) "monitors.json"
        ((Request.ofArguments ["--once", "--config", "monitors.json"]).ending (.holding c))) ∧
      (∃ client, Client.ofSettings (ailing "").client = .ok client ∧
        (Service.turns ⟨"monitors.json", ailing "", client⟩ (.holding (ailing ""))).map
          (fun t => (t.report.isHealthy, t.report.cleanup.failed)) = [(false, 1), (true, 1)]) ∧
      (let e := (Request.run "monitors.json" true).ending (.holding (ailing ""))
      e.exitCode = 1 ∧ e.arrived.map (·.url.text) =
        ["http://[::1]/c", "http://[::1]/s", "http://[::1]/d"]) ∧
      let e := (Request.run "monitors.json" true).ending (.holding (ailing "1s"))
      e.exitCode = 0 ∧ e.arrived.map (·.url.text) =
        ["http://[::1]/r", "http://[::1]/c", "http://[::1]/s", "http://[::1]/d"] := by
  have asks : Request.ofArguments ["--once", "--config", "monitors.json"] =
      .run "monitors.json" true := by decide
  refine ⟨asks, fun c => single_run asks (.holding c), ⟨_, rfl, by decide +kernel⟩, ?_, ?_⟩
  · rw [ending_of_loaded (ofFile_holding _ (by decide +kernel)) rfl]
    decide +kernel
  · rw [ending_of_loaded (ofFile_holding _ (by decide +kernel)) rfl]
    decide +kernel

end CommandLine

end Vigil

import Vigil.Proofs.Chain.Tick
import Vigil.Proofs.Request.Reports

/-!
# What the log tells of a chain

Each request that a chain attempts has an entry when it begins and one when it has succeeded or
failed, and between the two stands what is reported while it is carried out (`ChainKind.Recounts`).
From that the outcome of the chain can be read off the log (`ChainKind.Tells`): how many requests
were executed and how many failed, what the first failure was, how many variables were gained, and
how many requests were left out. A run of a monitor adds one entry to the entries of its two chains,
which says whether it was healthy (`log_tells`).
-/

set_option autoImplicit false

namespace Vigil

namespace Attempt

/-- The phase that an attempt ends in. -/
def lastPhase (a : Attempt) : String := if a.hasFailed then "failed" else "succeeded"

variable {kind : ChainKind} {a : Attempt}

theorem verdict_of_ok {vs : List Variable} (ok : a.result = .ok vs) :
    a.verdict kind = .succeeded kind a.spec.name vs.length := by
  rw [verdict, ok]

theorem verdict_of_error {f : Failure} (error : a.result = .error f) :
    a.verdict kind = .failed kind a.spec.name f := by
  rw [verdict, error]

theorem lastPhase_of_ok {vs : List Variable} (ok : a.result = .ok vs) :
    a.lastPhase = "succeeded" := by
  rw [lastPhase, hasFailed_eq_false_iff.2 ⟨vs, ok⟩]
  rfl

theorem lastPhase_of_error {f : Failure} (error : a.result = .error f) :
    a.lastPhase = "failed" := by
  rw [lastPhase, hasFailed_iff.2 ⟨f, error⟩]
  rfl

/-- The entry at the end of an attempt is about its request, and about the phase that it ends in. -/
theorem read_verdict (kind : ChainKind) (a : Attempt) :
    (a.verdict kind).text? "request" = some a.spec.name ∧
      (a.verdict kind).phase? = some a.lastPhase := by
  cases result : a.result with
  | ok vs =>
    rw [verdict_of_ok result, lastPhase_of_ok result]
    exact ⟨rfl, rfl⟩
  | error f =>
    rw [verdict_of_error result, lastPhase_of_error result]
    exact ⟨rfl, rfl⟩

/-- The entries at the two ends of an attempt. -/
def ends (kind : ChainKind) (a : Attempt) : List Event :=
  [.executing kind a.spec.name, a.verdict kind]

end Attempt

namespace ChainKind

section Recounts

variable (kind : ChainKind) (client : Client) (server : Server)

/-- Entries recount attempts, the first of which began with the journal `j`: for each attempt there
is one entry when it begins, then what is reported while it is carried out, and then one entry when
it has succeeded or failed. -/
inductive Recounts : Journal → List Attempt → List Event → Prop where
  | nil {j : Journal} : Recounts j [] []
  | cons {j : Journal} {a : Attempt} {as : List Attempt} {between es : List Event}
      (own : a.spec.Reports client server a.given (j.report (.executing kind a.spec.name)) between)
      (others : Recounts (a.closing kind) as es) :
      Recounts j (a :: as) (.executing kind a.spec.name :: (between ++ a.verdict kind :: es))

end Recounts

variable {kind : ChainKind} {client : Client} {server : Server} {j : Journal} {as : List Attempt}
  {es : List Event}

/-- What one attempt reports. -/
theorem events_closing (kind : ChainKind) (client : Client) (server : Server) (s : RequestSpec)
    (store : Store) (j : Journal) : ∃ between,
      ((kind.attempt client server s store j).closing kind).events = j.events ++
        (.executing kind s.name ::
          (between ++ [(kind.attempt client server s store j).verdict kind])) ∧
      s.Reports client server store (j.report (.executing kind s.name)) between := by
  obtain ⟨between, reported, own⟩ :=
    s.reports_execute client server store (j.report (.executing kind s.name))
  refine ⟨between, ?_, own⟩
  have after : (kind.attempt client server s store j).after.events =
      j.events ++ (.executing kind s.name :: between) := by
    refine reported.trans ?_
    rw [Journal.events_report, List.append_assoc]
    rfl
  unfold Attempt.closing
  rw [Journal.events_report, after, List.append_assoc]
  rfl

/-- **The entries of a chain** recount its attempts. -/
theorem recounts_attempts (kind : ChainKind) (client : Client) (server : Server)
    (specs : List RequestSpec) (store : Store) (j : Journal) :
    ∃ es, (j.afterAttempts kind (kind.attempts client server specs store j)).events =
        j.events ++ es ∧
      kind.Recounts client server j (kind.attempts client server specs store j) es := by
  induction specs generalizing store j with
  | nil => exact ⟨[], (List.append_nil _).symm, .nil⟩
  | cons s rest ih =>
    obtain ⟨between, closed, reported⟩ := kind.events_closing client server s store j
    have own : (kind.attempt client server s store j).spec.Reports client server
        (kind.attempt client server s store j).given
        (j.report (.executing kind (kind.attempt client server s store j).spec.name)) between :=
      reported
    rw [attempts_cons]
    simp only
    cases (kind.attempt client server s store j).hasFailed && kind.stopsOnFailure with
    | true => exact ⟨_, closed, .cons own .nil⟩
    | false =>
      obtain ⟨es, later, recounts⟩ := ih
        (store.extend (kind.attempt client server s store j).yield)
        ((kind.attempt client server s store j).closing kind)
      refine ⟨_, later.trans ?_, .cons own recounts⟩
      rw [closed, List.append_assoc, List.cons_append, List.append_assoc]
      rfl

/-- The entries about phases are those at the two ends of each attempt. -/
theorem Recounts.filter_phase (recounts : kind.Recounts client server j as es) :
    (es.filter fun e => e.phase?.isSome) = as.flatMap (Attempt.ends kind) := by
  induction recounts with
  | nil => rfl
  | @cons j a as between es own others ih =>
    have none : (between.filter fun e => e.phase?.isSome) = [] :=
      List.filter_eq_nil_iff.2 fun e mem => by rw [own.unphased e mem]; exact Bool.false_ne_true
    have start : (Event.executing kind a.spec.name).phase?.isSome = true := rfl
    have finish : (a.verdict kind).phase?.isSome = true := by
      rw [(a.read_verdict kind).2]
      rfl
    rw [List.filter_cons, if_pos start, List.filter_append, none, List.nil_append,
      List.filter_cons, if_pos finish, ih, List.flatMap_cons]
    rfl

/-- An entry is at one of the two ends of an attempt, or between them. -/
theorem Recounts.mem_cases {e : Event} (recounts : kind.Recounts client server j as es)
    (mem : e ∈ es) : (∃ a ∈ as, e = .executing kind a.spec.name ∨ e = a.verdict kind) ∨
      e.message ∈ ["sending request", "response received"] ∧ e.phase? = none ∧
        e.level = .debug := by
  induction recounts with
  | nil => cases mem
  | @cons j a as between es own others ih =>
    rcases List.mem_cons.1 mem with start | mem
    · exact .inl ⟨a, List.mem_cons_self, .inl start⟩
    rcases List.mem_append.1 mem with inner | mem
    · exact .inr ⟨own.order.subset (List.mem_map_of_mem inner), own.unphased e inner,
        own.level e inner⟩
    rcases List.mem_cons.1 mem with finish | later
    · exact .inl ⟨a, List.mem_cons_self, .inr finish⟩
    · rcases ih later with ⟨b, listed, stands⟩ | inner
      · exact .inl ⟨b, List.mem_cons_of_mem a listed, stands⟩
      · exact .inr inner

/-! ## Reading the entries -/

/-- The entries for one phase are among those about phases. -/
theorem filter_onePhase (phase : String) (es : List Event) :
    (es.filter fun e => e.phase? == some phase) =
      (es.filter fun e => e.phase?.isSome).filter fun e => e.phase? == some phase := by
  rw [List.filter_filter]
  apply List.filter_congr
  intro e _
  cases e.phase? <;> simp

theorem filter_ends_executing (kind : ChainKind) (as : List Attempt) :
    ((as.flatMap (Attempt.ends kind)).filter fun e => e.phase? == some "executing") =
      as.map fun a => .executing kind a.spec.name := by
  induction as with
  | nil => rfl
  | cons a as ih =>
    have start : ((Event.executing kind a.spec.name).phase? == some "executing") = true := rfl
    have finish : ¬ ((a.verdict kind).phase? == some "executing") = true := by
      rw [(a.read_verdict kind).2]
      unfold Attempt.lastPhase
      cases a.hasFailed <;> decide
    rw [List.flatMap_cons, List.filter_append, ih, Attempt.ends, List.filter_cons, if_pos start,
      List.filter_cons, if_neg finish]
    rfl

/-- The entries for a phase that attempts end in are those of the attempts that end in it. -/
theorem filter_ends_last (kind : ChainKind) {phase : String} (last : phase ≠ "executing")
    (as : List Attempt) :
    ((as.flatMap (Attempt.ends kind)).filter fun e => e.phase? == some phase) =
      (as.filter fun a => a.lastPhase == phase).map (Attempt.verdict kind) := by
  induction as with
  | nil => rfl
  | cons a as ih =>
    have start : ¬ ((Event.executing kind a.spec.name).phase? == some phase) = true := by
      have phased : (Event.executing kind a.spec.name).phase? = some "executing" := rfl
      rw [phased, beq_iff_eq, Option.some.injEq]
      exact last.symm
    have finish : ((a.verdict kind).phase? == some phase) = (a.lastPhase == phase) := by
      rw [(a.read_verdict kind).2]
      rfl
    rw [List.flatMap_cons, List.filter_append, ih, Attempt.ends, List.filter_cons, if_neg start,
      List.filter_cons, finish, List.filter_cons]
    cases a.lastPhase == phase <;> rfl

/-- Of each failed attempt, what its last entry says is what the chain keeps of it. -/
theorem find?_failed (kind : ChainKind) (as : List Attempt) :
    ((as.filter fun a => a.lastPhase == "failed").map (Attempt.verdict kind)).head?.map
        (fun e => (e.text? "request", e.text? "error_kind", e.text? "error")) =
      (as.findSome? Attempt.failure?).map fun f =>
        (some f.request, some f.failure.kind.label, some f.failure.message) := by
  induction as with
  | nil => rfl
  | cons a as ih =>
    rw [List.filter_cons, List.findSome?_cons]
    cases result : a.result with
    | ok vs =>
      have none : a.failure? = none := by rw [Attempt.failure?, result]
      rw [Attempt.lastPhase_of_ok result, none]
      exact ih
    | error f =>
      have failure : a.failure? = some ⟨a.spec.name, f⟩ := by rw [Attempt.failure?, result]
      rw [Attempt.lastPhase_of_error result, if_pos (beq_self_eq_true _), List.map_cons,
        Attempt.verdict_of_error result, failure]
      rfl

theorem countP_lastPhase (as : List Attempt) :
    (as.filter fun a => a.lastPhase == "failed").length = as.countP Attempt.hasFailed := by
  rw [List.countP_eq_length_filter]
  apply congrArg
  apply List.filter_congr
  intro a _
  unfold Attempt.lastPhase
  cases a.hasFailed <;> decide

/-- What the attempts yield is counted by the last entries of those that succeeded. -/
theorem counts_succeeded (kind : ChainKind) (as : List Attempt) : ∃ counts : List Nat,
    ((as.filter fun a => a.lastPhase == "succeeded").map (Attempt.verdict kind)).map
        (·.count? "extracted") = counts.map some ∧
      ∀ n, n + (as.flatMap Attempt.yield).length = counts.foldl (· + ·) n := by
  induction as with
  | nil => exact ⟨[], rfl, fun _ => rfl⟩
  | cons a as ih =>
    obtain ⟨counts, read, size⟩ := ih
    rw [List.filter_cons, List.flatMap_cons, List.length_append]
    cases result : a.result with
    | ok vs =>
      refine ⟨vs.length :: counts, ?_, fun n => ?_⟩
      · rw [Attempt.lastPhase_of_ok result, if_pos (beq_self_eq_true _), List.map_cons,
          List.map_cons, read, Attempt.verdict_of_ok result]
        rfl
      · rw [Attempt.yield_of_ok result, ← Nat.add_assoc, size, List.foldl_cons]
    | error f =>
      refine ⟨counts, ?_, fun n => ?_⟩
      · rw [Attempt.lastPhase_of_error result]
        exact read
      · rw [Attempt.yield_of_error result, List.length_nil, Nat.zero_add, size]

/-- Of the entries of attempts, the errors are those of failures. -/
theorem Recounts.grave {e : Event} (recounts : kind.Recounts client server j as es)
    (mem : e ∈ es) : e.level = .error ↔ e.phase? = some "failed" := by
  rcases recounts.mem_cases mem with ⟨a, -, rfl | rfl⟩ | ⟨-, phase, level⟩
  · have other : some "executing" ≠ some "failed" := by decide
    exact iff_of_false nofun other
  · cases result : a.result with
    | ok vs =>
      have other : some "succeeded" ≠ some "failed" := by decide
      rw [Attempt.verdict_of_ok result]
      exact iff_of_false nofun other
    | error f =>
      rw [Attempt.verdict_of_error result]
      exact iff_of_true rfl rfl
  · rw [phase, level]
    exact iff_of_false nofun nofun

/-- The entry about requests that were left out, if there are any. -/
def ending (kind : ChainKind) (skipped : Nat) : List Event :=
  if 0 < skipped then [.skipping kind skipped] else []

theorem eq_of_mem_ending {n : Nat} {e : Event} (mem : e ∈ kind.ending n) :
    e = .skipping kind n := by
  unfold ending at mem
  split at mem
  · exact List.mem_singleton.1 mem
  · cases mem

/-- Those who read the entries `es` of a chain read its outcome `o` off them. -/
structure Tells (kind : ChainKind) (client : Client) (server : Server) (specs : List RequestSpec)
    (store : Store) (j : Journal) (o : Outcome) (es : List Event) : Prop where
  /-- All entries: those of the attempts, and one at the end if requests were left out. -/
  recounts : ∃ told,
    kind.Recounts client server j (kind.attempts client server specs store j) told ∧
      es = told ++ kind.ending o.skipped
  /-- Each request that is attempted begins, and then succeeds or fails before the next begins, -/
  phases : ((es.filter fun e => e.phase?.isSome).map fun e => (e.text? "request", e.phase?)) =
    (kind.attempts client server specs store j).flatMap fun a =>
      [(some a.spec.name, some "executing"), (some a.spec.name, some a.lastPhase)]
  /-- in the order of the requests. -/
  inOrder : (kind.attempts client server specs store j).map Attempt.spec = specs.take o.executed
  executed : (es.countP fun e => e.phase? == some "executing") = o.executed
  failed : (es.countP fun e => e.phase? == some "failed") = o.failed
  /-- The entries of failures are the errors in the log. -/
  grave : ∀ e ∈ es, e.level = .error ↔ e.phase? = some "failed"
  /-- The first of them tells the first failure. -/
  first : (es.find? fun e => e.phase? == some "failed").map
      (fun e => (e.text? "request", e.text? "error_kind", e.text? "error")) =
    o.firstFailure.map fun f =>
      (some f.request, some f.failure.kind.label, some f.failure.message)
  /-- The entries of successes tell how many variables were gained: added up, that is by how much
  the store has grown. -/
  gained : ∃ counts : List Nat,
    (es.filter fun e => e.phase? == some "succeeded").map (·.count? "extracted") =
        counts.map some ∧ o.store.size = counts.foldl (· + ·) store.size
  /-- There is an entry about requests left out if there are any, and it tells how many. -/
  skipped : (es.filter fun e => e.message == "remaining requests skipped for this tick").map
      (·.count? "skipped") = if 0 < o.skipped then [some o.skipped] else []

/-- The message of an entry of an attempt is none of those at the end of a chain or of a run. -/
theorem Recounts.message_ne {e : Event} (recounts : kind.Recounts client server j as es)
    (mem : e ∈ es) : e.message ∉
      ["remaining requests skipped for this tick", "tick completed", "tick failed"] := by
  have apart : ∀ text ∈ ["executing request", "request completed", "sending request",
      "response received", "failed to complete " ++ kind.label ++ " request"],
      text ∉ ["remaining requests skipped for this tick", "tick completed", "tick failed"] := by
    cases kind <;> decide
  apply apart
  rcases recounts.mem_cases mem with ⟨a, -, rfl | rfl⟩ | ⟨inner, -, -⟩
  · exact List.mem_cons_self
  · cases result : a.result with
    | ok vs =>
      rw [Attempt.verdict_of_ok result]
      exact .tail _ (.head _)
    | error f =>
      rw [Attempt.verdict_of_error result]
      exact .tail _ (.tail _ (.tail _ (.tail _ (.head _))))
  · rcases List.mem_cons.1 inner with sent | inner
    · rw [sent]
      exact .tail _ (.tail _ (.head _))
    · rw [List.mem_singleton.1 inner]
      exact .tail _ (.tail _ (.tail _ (.head _)))

theorem events_run (specs : List RequestSpec) (store : Store) (j : Journal) :
    (kind.run client server specs store j).2.events =
      (j.afterAttempts kind (kind.attempts client server specs store j)).events ++
        kind.ending (kind.run client server specs store j).1.skipped := by
  rw [run_outcome]
  unfold run ending
  rw [steps_eq_foldl, Outcome.foldl_count]
  simp only [Nat.zero_add]
  split
  · exact Journal.events_report _ _
  · exact (List.append_nil _).symm

/-- **The log of a chain** tells its outcome. -/
theorem run_tells (kind : ChainKind) (client : Client) (server : Server)
    (specs : List RequestSpec) (store : Store) (j : Journal) :
    ∃ es, (kind.run client server specs store j).2.events = j.events ++ es ∧
      kind.Tells client server specs store j (kind.run client server specs store j).1 es := by
  obtain ⟨told, events, recounts⟩ := kind.recounts_attempts client server specs store j
  refine ⟨told ++ kind.ending (kind.run client server specs store j).1.skipped, ?_, ?_⟩
  · rw [events_run, events, List.append_assoc]
  rw [run_outcome]
  simp only
  generalize specs.length - (kind.attempts client server specs store j).length = left
  have skeleton : ((told ++ kind.ending left).filter fun e => e.phase?.isSome) =
      (kind.attempts client server specs store j).flatMap (Attempt.ends kind) := by
    have none : ((kind.ending left).filter fun e => e.phase?.isSome) = [] :=
      List.filter_eq_nil_iff.2 fun e mem => by rw [eq_of_mem_ending mem]; exact Bool.false_ne_true
    rw [List.filter_append, recounts.filter_phase, none, List.append_nil]
  constructor
  case recounts => exact ⟨told, recounts, rfl⟩
  case phases =>
    have read : ∀ a, (Attempt.ends kind a).map (fun e => (e.text? "request", e.phase?)) =
        [(some a.spec.name, some "executing"), (some a.spec.name, some a.lastPhase)] := by
      intro a
      obtain ⟨name, phase⟩ := a.read_verdict kind
      rw [Attempt.ends, List.map_cons, List.map_singleton, name, phase]
      rfl
    rw [skeleton, List.map_flatMap]
    simp only [read]
  case inOrder => exact specs_attempts specs store j
  case executed =>
    rw [List.countP_eq_length_filter, filter_onePhase, skeleton, filter_ends_executing,
      List.length_map]
  case failed =>
    rw [List.countP_eq_length_filter, filter_onePhase, skeleton, filter_ends_last kind (by decide),
      List.length_map, countP_lastPhase]
  case grave =>
    intro e mem
    rcases List.mem_append.1 mem with mem | mem
    · exact recounts.grave mem
    · rw [eq_of_mem_ending mem]
      exact iff_of_false nofun nofun
  case first =>
    rw [← List.head?_filter, filter_onePhase, skeleton, filter_ends_last kind (by decide),
      find?_failed]
  case gained =>
    obtain ⟨counts, read, size⟩ :=
      counts_succeeded kind (kind.attempts client server specs store j)
    refine ⟨counts, ?_, ?_⟩
    · rw [filter_onePhase, skeleton, filter_ends_last kind (by decide), read]
    · unfold Store.size
      rw [Store.toList_extend, List.length_append, size]
  case skipped =>
    have none : (told.filter fun e =>
        e.message == "remaining requests skipped for this tick") = [] := by
      refine List.filter_eq_nil_iff.2 fun e mem same => ?_
      apply recounts.message_ne mem
      rw [beq_iff_eq.1 same]
      exact List.mem_cons_self
    rw [List.filter_append, none, List.nil_append, ending]
    split <;> rfl

end ChainKind

/-- Whether an entry is about the end of a run of a monitor. -/
def Event.isSummary (e : Event) : Bool :=
  e.message == "tick completed" || e.message == "tick failed"

/-- The entry at the end of a run of a monitor tells how it went. -/
structure TickReport.ToldBy (r : TickReport) (monitor : String) (e : Event) : Prop where
  monitor : e.text? "monitor" = some monitor
  healthy : r.isHealthy = true → e.level = .info
  /-- It warns of the first request that failed, cleanup requests aside. -/
  unhealthy : r.isHealthy = false → e.level = .warn ∧ ∃ f,
    r.monitoring.firstFailure = some f ∧ e.text? "failed_request" = some f.request ∧
      e.text? "error" = some f.failure.message

theorem TickReport.toldBy_summary (r : TickReport) (monitor : String) :
    r.ToldBy monitor (r.summary monitor) ∧ (r.summary monitor).isSummary = true := by
  unfold summary
  cases first : r.monitoring.firstFailure with
  | none =>
    have healthy : r.isHealthy = true := by
      unfold isHealthy Outcome.isSuccess
      rw [first]
      rfl
    refine ⟨⟨rfl, fun _ => rfl, fun unhealthy => ?_⟩, rfl⟩
    rw [healthy] at unhealthy
    cases unhealthy
  | some f =>
    have unhealthy : r.isHealthy = false := by
      unfold isHealthy Outcome.isSuccess
      rw [first]
      rfl
    refine ⟨⟨rfl, fun healthy => ?_, fun _ => ⟨rfl, f, first, rfl, rfl⟩⟩, rfl⟩
    rw [unhealthy] at healthy
    cases healthy

/-- No entry of a chain is about the end of a run. -/
theorem ChainKind.Tells.isSummary_eq_false {kind : ChainKind} {client : Client} {server : Server}
    {specs : List RequestSpec} {store : Store} {j : Journal} {o : Outcome} {es : List Event}
    (tells : kind.Tells client server specs store j o es) {e : Event} (mem : e ∈ es) :
    e.isSummary = false := by
  obtain ⟨told, recounts, rfl⟩ := tells.recounts
  rcases List.mem_append.1 mem with mem | mem
  · have other := recounts.message_ne mem
    simp only [List.mem_cons, List.not_mem_nil, or_false, not_or] at other
    unfold Event.isSummary
    rw [beq_false_of_ne other.2.1, beq_false_of_ne other.2.2]
    rfl
  · rw [eq_of_mem_ending mem]
    rfl

namespace Monitor

/-- Those who read the entries `es` of a run of a monitor read off them how it went. -/
structure Tells (m : Monitor) (client : Client) (server : Server) (b : Builtins) (j : Journal)
    (es : List Event) : Prop where
  /-- The entries are those of the two chains, and one at the end. -/
  parts : ∃ first second last, es = first ++ second ++ [last] ∧
    ChainKind.monitoring.Tells client server m.requests (.seed b m.provided) j
      (m.tick client server b j).1.monitoring first ∧
    ChainKind.cleanup.Tells client server m.cleanup (m.tick client server b j).1.monitoring.store
      (m.cleanupStart client server b j) (m.tick client server b j).1.cleanup second ∧
    (m.tick client server b j).1.ToldBy m.name last ∧
    /- There is no other entry of this sort. -/
    es.filter Event.isSummary = [last]

theorem tick_tells (m : Monitor) (client : Client) (server : Server) (b : Builtins) (j : Journal) :
    ∃ es, (m.tick client server b j).2.events = j.events ++ es ∧ m.Tells client server b j es := by
  obtain ⟨first, begun, monitoring⟩ :=
    ChainKind.monitoring.run_tells client server m.requests (.seed b m.provided) j
  obtain ⟨second, ended, cleanup⟩ := ChainKind.cleanup.run_tells client server m.cleanup
    (m.tick client server b j).1.monitoring.store (m.cleanupStart client server b j)
  obtain ⟨told, summary⟩ := (m.tick client server b j).1.toldBy_summary m.name
  refine ⟨first ++ second ++ [(m.tick client server b j).1.summary m.name], ?_,
    ⟨first, second, _, rfl, monitoring, cleanup, told, ?_⟩⟩
  · have events : (m.tick client server b j).2.events =
        (ChainKind.cleanup.run client server m.cleanup (m.tick client server b j).1.monitoring.store
          (m.cleanupStart client server b j)).2.events ++
            [(m.tick client server b j).1.summary m.name] := Journal.events_report _ _
    rw [events, ended, cleanupStart, begun]
    simp only [List.append_assoc]
  · have early : ∀ e ∈ first ++ second, e.isSummary = false := by
      intro e mem
      rcases List.mem_append.1 mem with mem | mem
      · exact monitoring.isSummary_eq_false mem
      · exact cleanup.isSummary_eq_false mem
    rw [List.filter_append, List.filter_eq_nil_iff.2 fun e mem => by rw [early e mem]; decide,
      List.filter_cons, if_pos summary]
    rfl

end Monitor

/-- **The log tells the outcome**, of chains and of runs of monitors. -/
theorem log_tells (client : Client) (server : Server) :
    (∀ (kind : ChainKind) (specs : List RequestSpec) (store : Store) (j : Journal),
      ∃ es, (kind.run client server specs store j).2.events = j.events ++ es ∧
        kind.Tells client server specs store j (kind.run client server specs store j).1 es) ∧
    ∀ (m : Monitor) (b : Builtins) (j : Journal),
      ∃ es, (m.tick client server b j).2.events = j.events ++ es ∧ m.Tells client server b j es :=
  ⟨fun kind specs store j => kind.run_tells client server specs store j,
    fun m b j => m.tick_tells client server b j⟩

end Vigil

import Vigil.Proofs.Chain.Recount

/-!
# Scopes of variables

What each request of a run can see: the variables that the run starts with, and then those that
earlier requests took out of their responses, never those of a request that failed. A cleanup
request sees all that the monitoring chain ended with, and nothing that it adds is seen by that
chain. So a name stands for what was taken last, else for the monitor's own variable, else for
the built-in one (`tick_scoping`).
-/

set_option autoImplicit false

namespace Vigil.Monitor

/-- What each request of a run is given, and what it leaves to those that follow. -/
structure Scoping (m : Monitor) (client : Client) (server : Server) (b : Builtins) (j : Journal) :
    Prop where
  /-- The monitor's own variables are in the order of their names. -/
  ordered : m.provided.entries.Pairwise fun a b => a.1 < b.1
  /-- A request is given the built-in variables, the monitor's own in the order of their names,
  and what the requests before it took out of their responses. All of those succeeded. -/
  request : ∀ (i : Nat) (a : Attempt), (m.requestAttempts client server b j)[i]? = some a →
    m.requests[i]? = some a.spec ∧
    a.given.toList =
      [.provided "random-8" b.random, .provided "run-id" b.runId] ++
        (m.provided.entries.map fun e => .provided e.1 e.2) ++
        ((m.requestAttempts client server b j).take i).flatMap Attempt.yield ∧
    ∀ e ∈ (m.requestAttempts client server b j).take i, ∃ vs, e.result = .ok vs
  /-- A cleanup request is given what the monitoring chain ended with and what the cleanup
  requests before it took out of their responses. -/
  cleanup : ∀ (i : Nat) (a : Attempt), (m.cleanupAttempts client server b j)[i]? = some a →
    m.cleanup[i]? = some a.spec ∧
    a.given.toList =
      (m.tick client server b j).1.monitoring.store.toList ++
        ((m.cleanupAttempts client server b j).take i).flatMap Attempt.yield
  /-- The attempts are all that the run carries out. -/
  executed :
    (m.tick client server b j).1.monitoring.executed =
      (m.requestAttempts client server b j).length ∧
    (m.tick client server b j).1.cleanup.executed =
      (m.cleanupAttempts client server b j).length
  /-- What came of each is what carrying it out gives, after those before it. -/
  carriedOut :
    ChainKind.monitoring.CarriedOut client server (.seed b m.provided) j
      (m.requestAttempts client server b j) ∧
    ChainKind.cleanup.CarriedOut client server (m.tick client server b j).1.monitoring.store
      (m.cleanupStart client server b j) (m.cleanupAttempts client server b j)
  /-- A request that succeeds leaves what it took out of its response: one variable for each
  rule, in order, named by the rule. -/
  succeeded : ∀ a ∈ m.requestAttempts client server b j ++ m.cleanupAttempts client server b j,
    ∀ vs, a.result = .ok vs →
      a.yield = vs ∧
      vs.map (fun v => (v.name, v.origin)) = a.spec.rules.map fun r => (r.name, .extracted)
  /-- It succeeds only if it gets a response and each of its rules takes something out of it. -/
  extraction : ∀ a ∈ m.requestAttempts client server b j ++ m.cleanupAttempts client server b j,
    ∀ before, a.spec.execute client server a.given before = (a.result, a.after) →
      ∀ vs, a.result = .ok vs ↔ ∃ r, a.spec.Gets client server a.given before r ∧
        List.Forall₂ (fun rule v => rule.extract r = .ok v) a.spec.rules vs
  /-- A request that fails leaves nothing. -/
  failed : ∀ a ∈ m.requestAttempts client server b j ++ m.cleanupAttempts client server b j,
    ∀ f, a.result = .error f → a.yield = []
  /-- Each chain ends with what it started with and what its requests left. -/
  final :
    (m.tick client server b j).1.monitoring.store.toList =
      [.provided "random-8" b.random, .provided "run-id" b.runId] ++
        (m.provided.entries.map fun e => .provided e.1 e.2) ++
        (m.requestAttempts client server b j).flatMap Attempt.yield ∧
    (m.tick client server b j).1.cleanup.store.toList =
      (m.tick client server b j).1.monitoring.store.toList ++
        (m.cleanupAttempts client server b j).flatMap Attempt.yield
  /-- Other cleanup requests would leave the outcome of the monitoring chain as it is. -/
  apart : ∀ others : List RequestSpec,
    ({ m with cleanup := others }.tick client server b j).1.monitoring =
      (m.tick client server b j).1.monitoring
  /-- The store of the monitoring chain is where the store of the cleanup chain begins. -/
  extended :
    (m.tick client server b j).1.monitoring.store.toList <+:
      (m.tick client server b j).1.cleanup.store.toList
  /-- What a name stands for in a request. -/
  requestLookup : ∀ (name : String) (i : Nat) (a : Attempt),
    (m.requestAttempts client server b j)[i]? = some a →
    a.given.get? name =
      (Variable.last? name
        (((m.requestAttempts client server b j).take i).flatMap Attempt.yield)).or
      ((m.provided.get? name).or (b.get? name))
  /-- What a name stands for in a cleanup request. -/
  cleanupLookup : ∀ (name : String) (i : Nat) (a : Attempt),
    (m.cleanupAttempts client server b j)[i]? = some a →
    a.given.get? name =
      (Variable.last? name
        ((m.requestAttempts client server b j ++
          (m.cleanupAttempts client server b j).take i).flatMap Attempt.yield)).or
      ((m.provided.get? name).or (b.get? name))

variable {m : Monitor} {client : Client} {server : Server} {b : Builtins} {j : Journal}

theorem succeeded_of_mem_take {i : Nat} {a e : Attempt}
    (here : (m.requestAttempts client server b j)[i]? = some a)
    (mem : e ∈ (m.requestAttempts client server b j).take i) : ∃ vs, e.result = .ok vs := by
  obtain ⟨k, at_k⟩ := List.mem_iff_getElem?.1 mem
  rw [List.getElem?_take] at at_k
  split at at_k
  · next lt => exact Attempt.hasFailed_eq_false_iff.1 (hasFailed_of_before here at_k lt)
  · cases at_k

/-- What a run starts with, and some more variables, find the latter first. -/
theorem get?_seed_extend (vs : List Variable) (name : String) :
    ((Store.seed b m.provided).extend vs).get? name =
      (Variable.last? name vs).or ((m.provided.get? name).or (b.get? name)) := by
  rw [Store.get?_eq_last?, Store.toList_extend, Variable.last?_append, ← Store.get?_seed]
  rfl

theorem labels_of_mem {a : Attempt} {vs : List Variable}
    (mem : a ∈ m.requestAttempts client server b j ++ m.cleanupAttempts client server b j)
    (ok : a.result = .ok vs) : vs.map Variable.label = a.spec.rules.map Rule.label := by
  rcases List.mem_append.1 mem with request | cleanup
  · exact ChainKind.labels_of_mem request ok
  · exact ChainKind.labels_of_mem cleanup ok

variable (m client server b j)

/-- **Scopes of variables** in a run of a monitor. -/
theorem tick_scoping : m.Scoping client server b j where
  ordered := m.provided.ascending
  request := by
    intro i a here
    refine ⟨(ChainKind.eq_attempt_of_getElem? here).1, ?_, ?_⟩
    · rw [given_request here]
      rfl
    · intro e mem
      exact succeeded_of_mem_take here mem
  cleanup := by
    intro i a here
    refine ⟨(ChainKind.eq_attempt_of_getElem? here).1, ?_⟩
    rw [given_cleanup here]
    rfl
  executed := by
    have made := m.tick_madeOf client server b j
    obtain ⟨_, cleanup, -⟩ := made.cleanup
    exact ⟨made.requests.executed, cleanup.executed⟩
  carriedOut := by
    have made := m.tick_madeOf client server b j
    obtain ⟨_, cleanup, -⟩ := made.cleanup
    exact ⟨made.requests.carriedOut, cleanup.carriedOut⟩
  succeeded := by
    intro a mem vs ok
    exact ⟨Attempt.yield_of_ok ok, labels_of_mem mem ok⟩
  extraction := by
    intro a _ before eq vs
    rw [← RequestSpec.execute_eq_ok_iff, eq]
  failed := by
    intro a _ f error
    exact Attempt.yield_of_error error
  final := by
    constructor
    · rw [store_monitoring]
      rfl
    · rw [store_cleanup]
      rfl
  apart := by
    intro others
    rfl
  extended := by
    rw [store_cleanup]
    exact List.prefix_append _ _
  requestLookup := by
    intro name i a here
    rw [given_request here, get?_seed_extend]
  cleanupLookup := by
    intro name i a here
    rw [given_cleanup here, store_monitoring, Store.extend_extend, get?_seed_extend,
      List.flatMap_append]

end Vigil.Monitor

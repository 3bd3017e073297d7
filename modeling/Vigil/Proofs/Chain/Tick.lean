import Vigil.Chain.Tick
import Vigil.Proofs.Chain.Attempts

/-!
# The requests of one run of a monitor

A run attempts requests and then cleanup requests. What each is given is said by `given_request`
and `given_cleanup`: the variables that the run starts with, and what the attempts before it
yielded. For both at once, `attemptAt?` counts the positions through requests and cleanup
requests alike (`mem_given_iff`).
-/

set_option autoImplicit false

namespace Vigil

theorem mem_flatMap_take_iff {α β : Type} {f : α → List β} {as : List α} {x : β} {i : Nat} :
    x ∈ (as.take i).flatMap f ↔ ∃ k < i, ∃ e, as[k]? = some e ∧ x ∈ f e := by
  rw [List.mem_flatMap]
  constructor
  · rintro ⟨e, mem, yields⟩
    obtain ⟨k, at_k⟩ := List.mem_iff_getElem?.1 mem
    rw [List.getElem?_take] at at_k
    split at at_k
    · next lt => exact ⟨k, lt, e, at_k, yields⟩
    · cases at_k
  · rintro ⟨k, lt, e, at_k, yields⟩
    refine ⟨e, List.mem_of_getElem? (i := k) ?_, yields⟩
    rw [List.getElem?_take_of_lt lt]
    exact at_k

namespace Monitor

section Attempts

variable (m : Monitor) (client : Client) (server : Server) (b : Builtins) (j : Journal)

/-- The requests that a run attempts, cleanup requests aside. -/
def requestAttempts : List Attempt :=
  ChainKind.monitoring.attempts client server m.requests (.seed b m.provided) j

/-- The journal when the cleanup of a run begins. -/
def cleanupStart : Journal :=
  (ChainKind.monitoring.run client server m.requests (.seed b m.provided) j).2

/-- The cleanup requests that a run attempts. -/
def cleanupAttempts : List Attempt :=
  ChainKind.cleanup.attempts client server m.cleanup (m.tick client server b j).1.monitoring.store
    (m.cleanupStart client server b j)

/-- The attempt of a run at a position of `Monitor.steps`, if there is one. -/
def attemptAt? (i : Nat) : Option Attempt :=
  if i < m.requests.length then (m.requestAttempts client server b j)[i]?
  else (m.cleanupAttempts client server b j)[i - m.requests.length]?

end Attempts

variable {m : Monitor} {client : Client} {server : Server} {b : Builtins} {j : Journal}

theorem store_monitoring :
    (m.tick client server b j).1.monitoring.store =
      (Store.seed b m.provided).extend
        ((m.requestAttempts client server b j).flatMap Attempt.yield) := by
  have outcome := ChainKind.monitoring.run_outcome client server m.requests
    (.seed b m.provided) j
  exact congrArg Outcome.store outcome

theorem store_cleanup :
    (m.tick client server b j).1.cleanup.store =
      (m.tick client server b j).1.monitoring.store.extend
        ((m.cleanupAttempts client server b j).flatMap Attempt.yield) := by
  have outcome := ChainKind.cleanup.run_outcome client server m.cleanup
    (m.tick client server b j).1.monitoring.store (m.cleanupStart client server b j)
  exact congrArg Outcome.store outcome

theorem given_request {i : Nat} {a : Attempt}
    (here : (m.requestAttempts client server b j)[i]? = some a) :
    a.given = (Store.seed b m.provided).extend
      (((m.requestAttempts client server b j).take i).flatMap Attempt.yield) := by
  rw [(ChainKind.eq_attempt_of_getElem? here).2]
  rfl

theorem given_cleanup {i : Nat} {a : Attempt}
    (here : (m.cleanupAttempts client server b j)[i]? = some a) :
    a.given = (m.tick client server b j).1.monitoring.store.extend
      (((m.cleanupAttempts client server b j).take i).flatMap Attempt.yield) := by
  rw [(ChainKind.eq_attempt_of_getElem? here).2]
  rfl

/-- Requests before one that is attempted succeeded. -/
theorem hasFailed_of_before {i k : Nat} {a e : Attempt}
    (here : (m.requestAttempts client server b j)[i]? = some a)
    (before : (m.requestAttempts client server b j)[k]? = some e) (lt : k < i) :
    e.hasFailed = false := by
  have bound := (List.getElem?_eq_some_iff.1 here).1
  have more : k + 1 < (m.requestAttempts client server b j).length := by omega
  exact ChainKind.hasFailed_of_lt before more rfl

theorem length_requestAttempts_le :
    (m.requestAttempts client server b j).length ≤ m.requests.length :=
  ChainKind.length_attempts_le _ _ _

/-! ## By position -/

theorem attemptAt?_eq_request {i : Nat} (request : i < m.requests.length) :
    m.attemptAt? client server b j i = (m.requestAttempts client server b j)[i]? :=
  if_pos request

theorem attemptAt?_eq_cleanup {i : Nat} (cleanup : m.requests.length ≤ i) :
    m.attemptAt? client server b j i =
      (m.cleanupAttempts client server b j)[i - m.requests.length]? :=
  if_neg (Nat.not_lt.2 cleanup)

theorem spec_of_attemptAt? {i : Nat} {a : Attempt}
    (here : m.attemptAt? client server b j i = some a) : m.steps[i]? = some a.spec := by
  unfold steps
  rcases Nat.lt_or_ge i m.requests.length with request | cleanup
  · rw [attemptAt?_eq_request request] at here
    rw [List.getElem?_append_left request]
    exact (ChainKind.eq_attempt_of_getElem? here).1
  · rw [attemptAt?_eq_cleanup cleanup] at here
    rw [List.getElem?_append_right cleanup]
    exact (ChainKind.eq_attempt_of_getElem? here).1

/-- Each attempt is what carrying out its request gives. -/
theorem execute_of_attemptAt? {i : Nat} {a : Attempt}
    (here : m.attemptAt? client server b j i = some a) :
    ∃ before, a.spec.execute client server a.given before = (a.result, a.after) := by
  unfold attemptAt? at here
  split at here
  · exact ⟨_, (ChainKind.carriedOut_attempts _ _ _ _ a here).2⟩
  · exact ⟨_, (ChainKind.carriedOut_attempts _ _ _ _ a here).2⟩

theorem labels_of_attemptAt? {i : Nat} {a : Attempt} {vs : List Variable}
    (here : m.attemptAt? client server b j i = some a) (ok : a.result = .ok vs) :
    vs.map Variable.label = a.spec.rules.map Rule.label := by
  obtain ⟨before, eq⟩ := execute_of_attemptAt? here
  apply RequestSpec.labels_of_execute
  rw [eq]
  exact ok

/-- A request is given the variables that the run starts with and those that earlier positions
yielded. -/
theorem mem_given_iff {i : Nat} {a : Attempt} {v : Variable}
    (here : m.attemptAt? client server b j i = some a) :
    v ∈ a.given.toList ↔ v ∈ (Store.seed b m.provided).toList ∨
      ∃ k < i, ∃ e, m.attemptAt? client server b j k = some e ∧ v ∈ e.yield := by
  rcases Nat.lt_or_ge i m.requests.length with request | cleanup
  · rw [attemptAt?_eq_request request] at here
    rw [given_request here, Store.toList_extend, List.mem_append, mem_flatMap_take_iff]
    apply or_congr Iff.rfl
    constructor
    · rintro ⟨k, lt, e, at_k, yields⟩
      exact ⟨k, lt, e, (attemptAt?_eq_request (Nat.lt_trans lt request)).trans at_k, yields⟩
    · rintro ⟨k, lt, e, at_k, yields⟩
      rw [attemptAt?_eq_request (Nat.lt_trans lt request)] at at_k
      exact ⟨k, lt, e, at_k, yields⟩
  · rw [attemptAt?_eq_cleanup cleanup] at here
    rw [given_cleanup here, store_monitoring, Store.toList_extend, Store.toList_extend,
      List.mem_append, List.mem_append, or_assoc, mem_flatMap_take_iff]
    apply or_congr Iff.rfl
    constructor
    · rintro (earlier | ⟨k, lt, e, at_k, yields⟩)
      · obtain ⟨e, mem, yields⟩ := List.mem_flatMap.1 earlier
        obtain ⟨k, at_k⟩ := List.mem_iff_getElem?.1 mem
        have bound := (List.getElem?_eq_some_iff.1 at_k).1
        have request : k < m.requests.length :=
          Nat.lt_of_lt_of_le bound length_requestAttempts_le
        exact ⟨k, by omega, e, (attemptAt?_eq_request request).trans at_k, yields⟩
      · refine ⟨m.requests.length + k, by omega, e, ?_, yields⟩
        rw [attemptAt?_eq_cleanup (Nat.le_add_right _ _), Nat.add_sub_cancel_left]
        exact at_k
    · rintro ⟨k, lt, e, at_k, yields⟩
      rcases Nat.lt_or_ge k m.requests.length with request' | cleanup'
      · rw [attemptAt?_eq_request request'] at at_k
        exact .inl (List.mem_flatMap.2 ⟨e, List.mem_of_getElem? at_k, yields⟩)
      · rw [attemptAt?_eq_cleanup cleanup'] at at_k
        exact .inr ⟨k - m.requests.length, by omega, e, at_k, yields⟩

end Monitor

end Vigil

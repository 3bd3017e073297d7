import Vigil.Proofs.Chain.Tick

/-!
# Runs read off their attempts

The attempts of a chain are listed beside the chain itself. `ChainKind.ComesTo` says that the list
has all that there is to the chain: which requests are attempted and what comes of each, and that
the outcome of the chain and the journal at its end are what the attempts leave. Every chain comes
to that (`ChainKind.run_comesTo`), and a run of a monitor is made of two (`Monitor.tick_madeOf`).
-/

set_option autoImplicit false

namespace Vigil

namespace ChainKind

/-- A chain for these requests that begins with the variables of `store` and the journal `j` makes
the attempts `as` and no others; its outcome is `o`, and `after` is the journal when it ends. -/
structure ComesTo (kind : ChainKind) (client : Client) (server : Server) (specs : List RequestSpec)
    (store : Store) (j : Journal) (as : List Attempt) (o : Outcome) (after : Journal) : Prop where
  /-- The requests are attempted in order, -/
  inOrder : as.map Attempt.spec = specs.take as.length
  /-- each with what those before it left, -/
  carriedOut : kind.CarriedOut client server store j as
  /-- and only if none of those ended the chain. -/
  goes_on : kind.stopsOnFailure = true → ∀ (i : Nat) (a : Attempt), as[i]? = some a →
    i + 1 < as.length → a.hasFailed = false
  /-- All of them are attempted unless the last attempt ended the chain. -/
  stops : as.length < specs.length → kind.stopsOnFailure = true ∧
    ∃ a, as.getLast? = some a ∧ a.hasFailed = true
  /-- The outcome counts the attempts, and its variables are those that they left. -/
  outcome : o =
    { store := store.extend (as.flatMap Attempt.yield)
      firstFailure := as.findSome? Attempt.failure?
      executed := as.length
      failed := as.countP Attempt.hasFailed
      skipped := specs.length - as.length }
  /-- The chain ends with the last attempt, when it says how many requests are left out, if any. -/
  ends : after =
    if 0 < o.skipped then (j.afterAttempts kind as).report (.skipping kind o.skipped)
    else j.afterAttempts kind as

variable {kind : ChainKind} {client : Client} {server : Server} {specs : List RequestSpec}
  {store : Store} {j after : Journal} {as : List Attempt} {o : Outcome}

/-- **A chain** comes to what its attempts come to. -/
theorem run_comesTo (kind : ChainKind) (client : Client) (server : Server)
    (specs : List RequestSpec) (store : Store) (j : Journal) :
    kind.ComesTo client server specs store j (kind.attempts client server specs store j)
      (kind.run client server specs store j).1 (kind.run client server specs store j).2 where
  inOrder := specs_attempts specs store j
  carriedOut := carriedOut_attempts specs store j
  goes_on := fun stops _ _ here more => hasFailed_of_lt here more stops
  stops := last_of_length_lt
  outcome := kind.run_outcome client server specs store j
  ends := by
    unfold run
    rw [steps_eq_foldl]

namespace ComesTo

/-- No time goes by after the last attempt. -/
theorem now (comes : kind.ComesTo client server specs store j as o after) :
    after.now = (j.afterAttempts kind as).now := by
  rw [comes.ends]
  split <;> rfl

theorem executed (comes : kind.ComesTo client server specs store j as o after) :
    o.executed = as.length := by
  rw [comes.outcome]

/-- A cleanup chain attempts all its requests. -/
theorem all (comes : ChainKind.cleanup.ComesTo client server specs store j as o after) :
    as.map Attempt.spec = specs ∧ o.executed = specs.length ∧ o.skipped = 0 := by
  have full : specs.length ≤ as.length := by
    apply Nat.le_of_not_lt
    intro short
    have stops := (comes.stops short).1
    cases stops
  have each : as.map Attempt.spec = specs := by
    rw [comes.inOrder, List.take_of_length_le full]
  refine ⟨each, ?_, ?_⟩
  · rw [comes.executed, ← List.length_map (f := Attempt.spec), each]
  · rw [comes.outcome]
    exact Nat.sub_eq_zero_of_le full

end ComesTo

end ChainKind

namespace Monitor

/-- A run of a monitor that begins with the journal `j` is made of the attempts at its requests, and
then of those at its cleanup requests: that is what it reports, and what the journal `after` at its
end tells. -/
structure MadeOf (m : Monitor) (client : Client) (server : Server) (b : Builtins) (j : Journal)
    (r : TickReport) (after : Journal) : Prop where
  requests : ChainKind.monitoring.ComesTo client server m.requests (.seed b m.provided) j
    (m.requestAttempts client server b j) r.monitoring (m.cleanupStart client server b j)
  cleanup : ∃ done, ChainKind.cleanup.ComesTo client server m.cleanup r.monitoring.store
      (m.cleanupStart client server b j) (m.cleanupAttempts client server b j) r.cleanup done ∧
    after = done.report (r.summary m.name)
  /-- No cleanup request is left out, whatever became of the requests. -/
  cleanup_all : (m.cleanupAttempts client server b j).map Attempt.spec = m.cleanup ∧
    r.cleanup.executed = m.cleanup.length ∧ r.cleanup.skipped = 0

variable {m : Monitor} {client : Client} {server : Server} {b : Builtins} {j : Journal}

/-- **A run of a monitor** is made of its attempts. -/
theorem tick_madeOf (m : Monitor) (client : Client) (server : Server) (b : Builtins) (j : Journal) :
    m.MadeOf client server b j (m.tick client server b j).1 (m.tick client server b j).2 := by
  have requests := ChainKind.monitoring.run_comesTo client server m.requests (.seed b m.provided) j
  have cleanup := ChainKind.cleanup.run_comesTo client server m.cleanup
    (m.tick client server b j).1.monitoring.store (m.cleanupStart client server b j)
  exact ⟨requests, ⟨_, cleanup, rfl⟩, cleanup.all⟩

/-- A run ends when the last of its cleanup requests is done. -/
theorem MadeOf.now {r : TickReport} {after : Journal} (made : m.MadeOf client server b j r after) :
    after.now = ((m.cleanupStart client server b j).afterAttempts .cleanup
      (m.cleanupAttempts client server b j)).now := by
  obtain ⟨done, comes, rfl⟩ := made.cleanup
  exact comes.now

end Monitor

end Vigil

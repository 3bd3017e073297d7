import Vigil.Proofs.Chain.Recount

/-!
# What the outcome of a chain counts

A monitoring chain is stopped by its first failure, and a cleanup chain by none. Both count what
they attempt, what fails and what is left out, and both keep the first failure
(`run_accounting`).
-/

set_option autoImplicit false

namespace Vigil

/-- How a chain that attempts `as` goes on, and what its outcome `o` says of that; `after` is the
journal when it ends. -/
structure Accounting (kind : ChainKind) (client : Client) (server : Server)
    (specs : List RequestSpec) (store : Store) (j : Journal) (as : List Attempt) (o : Outcome)
    (after : Journal) : Prop where
  /-- What came of each attempt is what carrying it out gives, after those before it. -/
  carriedOut : kind.CarriedOut client server store j as
  /-- The requests are attempted in order, each once. -/
  inOrder : as.map Attempt.spec = specs.take o.executed
  executed : o.executed = as.length
  /-- What is skipped is the rest: the difference is one of naturals, and nothing is cut off. -/
  le_total : o.executed ≤ specs.length
  total : o.executed + o.skipped = specs.length
  failed : o.failed = as.countP Attempt.hasFailed
  failed_le : o.failed ≤ o.executed
  /-- A first failure is there if there is any. -/
  first_iff : o.firstFailure.isSome ↔ 0 < o.failed
  /-- It is that of the first request that failed. -/
  first : ∀ f, o.firstFailure = some f → ∃ before a rest, as = before ++ a :: rest ∧
    (∀ e ∈ before, ∃ vs, e.result = .ok vs) ∧ a.spec.name = f.request ∧
    a.result = .error f.failure
  /-- All but the last attempt of a monitoring chain succeed. -/
  monitoring_ok : kind = .monitoring → ∀ (i : Nat) (a : Attempt), as[i]? = some a →
    i + 1 < as.length → ∃ vs, a.result = .ok vs
  monitoring_failed : kind = .monitoring → o.failed ≤ 1
  /-- Where a monitoring chain leaves something out, the last attempt failed. -/
  monitoring_skipped : kind = .monitoring → 0 < o.skipped →
    ∃ a f, as.getLast? = some a ∧ a.result = .error f
  /-- Nothing is attempted after a failure of a monitoring chain, and nothing arrives. -/
  monitoring_stop : kind = .monitoring → ∀ before a rest f, as = before ++ a :: rest →
    a.result = .error f → rest = [] ∧ after.arrived = a.after.arrived
  /-- A cleanup chain attempts all. -/
  cleanup_all : kind = .cleanup → as.map Attempt.spec = specs ∧ o.skipped = 0
  /-- The store gains a variable for each rule of each request that succeeded. -/
  growth : o.store.extractedCount = store.extractedCount +
    ((as.filter fun a => !a.hasFailed).flatMap fun a => a.spec.rules).length

/-- If all but the last of a list are unlike `p`, at most one is like `p`. -/
theorem countP_le_one {as : List Attempt} {p : Attempt → Bool}
    (others : ∀ (i : Nat) (a : Attempt), as[i]? = some a → i + 1 < as.length → p a = false) :
    as.countP p ≤ 1 := by
  induction as with
  | nil => exact Nat.zero_le 1
  | cons a as ih =>
    cases as with
    | nil => exact List.countP_le_length
    | cons e as =>
      have first : p a = false := others 0 a rfl (by simp)
      rw [List.countP_cons_of_neg (by simp [first])]
      apply ih
      intro i x here more
      exact others (i + 1) x here (by simpa using more)

theorem countP_extracted {vs : List Variable} {rules : List Rule}
    (labels : vs.map Variable.label = rules.map Rule.label) :
    (vs.countP fun v => v.origin == .extracted) = rules.length := by
  have origin : (fun v : Variable => v.origin == .extracted) =
      (fun l : String × Origin => l.2 == .extracted) ∘ Variable.label := rfl
  rw [origin, ← List.countP_map, labels, List.countP_map, List.countP_eq_length.2]
  intro rule _
  rfl

theorem countP_extracted_flatMap {as : List Attempt}
    (named : ∀ a ∈ as, ∀ vs, a.result = .ok vs →
      vs.map Variable.label = a.spec.rules.map Rule.label) :
    ((as.flatMap Attempt.yield).countP fun v => v.origin == .extracted) =
      ((as.filter fun a => !a.hasFailed).flatMap fun a => a.spec.rules).length := by
  induction as with
  | nil => rfl
  | cons a as ih =>
    have rest := ih fun e mem => named e (List.mem_cons_of_mem a mem)
    rw [List.flatMap_cons, List.countP_append, rest]
    cases failed : a.hasFailed with
    | true =>
      obtain ⟨f, error⟩ := Attempt.hasFailed_iff.1 failed
      simp [Attempt.yield_of_error error, failed]
    | false =>
      obtain ⟨vs, ok⟩ := Attempt.hasFailed_eq_false_iff.1 failed
      have here := countP_extracted (named a List.mem_cons_self vs ok)
      simp [Attempt.yield_of_ok ok, failed, here]

namespace ChainKind

variable {kind : ChainKind} {client : Client} {server : Server} {specs : List RequestSpec}
  {store : Store} {j : Journal}

theorem first_of_firstFailure {as : List Attempt} {f : StepFailure}
    (first : as.findSome? Attempt.failure? = some f) : ∃ before a rest, as = before ++ a :: rest ∧
      (∀ e ∈ before, ∃ vs, e.result = .ok vs) ∧ a.spec.name = f.request ∧
      a.result = .error f.failure := by
  obtain ⟨before, a, rest, eq, failure, none⟩ := List.findSome?_eq_some_iff.1 first
  obtain ⟨name, error⟩ := Attempt.failure?_eq_some_iff.1 failure
  refine ⟨before, a, rest, eq, ?_, name, error⟩
  intro e mem
  apply Attempt.hasFailed_eq_false_iff.1
  rw [Attempt.hasFailed, none e mem]
  rfl

theorem isSome_findSome?_iff {as : List Attempt} :
    (as.findSome? Attempt.failure?).isSome ↔ 0 < as.countP Attempt.hasFailed := by
  rw [List.findSome?_isSome_iff, List.countP_pos_iff]
  rfl

/-- The last attempt before a chain ends is the last that anything arrives in. -/
theorem arrived_of_last {a : Attempt} {before : List Attempt}
    (eq : kind.attempts client server specs store j = before ++ [a]) :
    (kind.run client server specs store j).2.arrived = a.after.arrived := by
  rw [run_arrived, eq]
  unfold Journal.afterAttempts
  rw [List.foldl_append]
  rfl

theorem rest_of_failed {before rest : List Attempt} {a : Attempt} {f : Failure}
    (stops : kind.stopsOnFailure = true)
    (eq : kind.attempts client server specs store j = before ++ a :: rest)
    (error : a.result = .error f) : rest = [] := by
  have here : (kind.attempts client server specs store j)[before.length]? = some a := by
    rw [eq, List.getElem?_append_right (Nat.le_refl _), Nat.sub_self]
    rfl
  apply List.eq_nil_of_length_eq_zero
  apply Nat.eq_zero_of_not_pos
  intro more
  have bound : before.length + 1 < (kind.attempts client server specs store j).length := by
    rw [eq, List.length_append, List.length_cons]
    omega
  have ok := hasFailed_of_lt here bound stops
  rw [Attempt.hasFailed_iff.2 ⟨f, error⟩] at ok
  cases ok

theorem ok_of_lt {i : Nat} {a : Attempt} (monitoring : kind = .monitoring)
    (here : (kind.attempts client server specs store j)[i]? = some a)
    (more : i + 1 < (kind.attempts client server specs store j).length) :
    a.hasFailed = false := by
  subst monitoring
  exact hasFailed_of_lt here more rfl

variable (kind client server specs store j)

/-- **The accounting of a chain.** -/
theorem run_accounting :
    Accounting kind client server specs store j (kind.attempts client server specs store j)
      (kind.run client server specs store j).1 (kind.run client server specs store j).2 := by
  have le : (kind.attempts client server specs store j).length ≤ specs.length :=
    length_attempts_le specs store j
  rw [run_outcome]
  constructor
  case carriedOut => exact carriedOut_attempts specs store j
  case inOrder => exact specs_attempts specs store j
  case executed => rfl
  case le_total => exact le
  case total => exact Nat.add_sub_of_le le
  case failed => rfl
  case failed_le => exact List.countP_le_length
  case first_iff => exact isSome_findSome?_iff
  case first =>
    intro f first
    exact first_of_firstFailure first
  case monitoring_ok =>
    intro monitoring i a here more
    exact Attempt.hasFailed_eq_false_iff.1 (ok_of_lt monitoring here more)
  case monitoring_failed =>
    intro monitoring
    apply countP_le_one
    intro i a here more
    exact ok_of_lt monitoring here more
  case monitoring_skipped =>
    intro _ skipped
    obtain ⟨-, a, last, failed⟩ := last_of_length_lt (Nat.lt_of_sub_pos skipped)
    obtain ⟨f, error⟩ := Attempt.hasFailed_iff.1 failed
    exact ⟨a, f, last, error⟩
  case monitoring_stop =>
    intro monitoring before a rest f eq error
    have stops : kind.stopsOnFailure = true := by rw [monitoring]; rfl
    obtain rfl := rest_of_failed stops eq error
    exact ⟨rfl, arrived_of_last eq⟩
  case cleanup_all =>
    rintro rfl
    have all := (ChainKind.cleanup.run_comesTo client server specs store j).all
    rw [run_outcome] at all
    exact ⟨all.1, all.2.2⟩
  case growth =>
    rw [Store.extractedCount_extend]
    apply congrArg
    exact countP_extracted_flatMap fun a mem vs ok => labels_of_mem mem ok

end ChainKind

end Vigil

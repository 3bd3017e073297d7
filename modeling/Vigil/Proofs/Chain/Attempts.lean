import Vigil.Chain.Run
import Vigil.Proofs.Extraction
import Vigil.Proofs.Lookup

/-!
# The requests of a chain one by one

`ChainKind.attempts` lists the requests that a chain carries out, each with what it was given and
what came of it. The loop of the chain is a fold over this list (`steps_eq_foldl`), and so the
outcome is read off it (`run_outcome`). The `i`-th attempt is the `i`-th request, given the
variables and the journal that the attempts before it left (`eq_attempt_of_getElem?`). An attempt
that is not the last one did not stop the chain (`hasFailed_of_lt`), and one that is the last one
of a chain that was not finished did (`last_of_length_lt`).
-/

set_option autoImplicit false

namespace Vigil

/-- One request of a chain that was carried out. -/
structure Attempt where
  spec : RequestSpec
  /-- The variables that it was given. -/
  given : Store
  /-- The variables that it yields, or why it failed. -/
  result : Except Failure (List Variable)
  /-- What had happened when it was done. -/
  after : Journal

namespace Attempt

/-- The variables that it leaves to those that follow: none if it failed. -/
def yield (a : Attempt) : List Variable :=
  match a.result with
  | .ok vs => vs
  | .error _ => []

/-- Its failure, if it failed. -/
def failure? (a : Attempt) : Option StepFailure :=
  match a.result with
  | .ok _ => none
  | .error f => some ⟨a.spec.name, f⟩

/-- Whether it failed. -/
def hasFailed (a : Attempt) : Bool := a.failure?.isSome

/-- What is reported of it in the end. -/
def verdict (kind : ChainKind) (a : Attempt) : Event :=
  match a.result with
  | .ok vs => .succeeded kind a.spec.name vs.length
  | .error f => .failed kind a.spec.name f

/-- The journal once it is closed. -/
def closing (kind : ChainKind) (a : Attempt) : Journal := a.after.report (a.verdict kind)

theorem yield_of_ok {a : Attempt} {vs : List Variable} (ok : a.result = .ok vs) :
    a.yield = vs := by
  rw [yield, ok]

theorem yield_of_error {a : Attempt} {f : Failure} (error : a.result = .error f) :
    a.yield = [] := by
  rw [yield, error]

theorem failure?_eq_some_iff {a : Attempt} {f : StepFailure} :
    a.failure? = some f ↔ a.spec.name = f.request ∧ a.result = .error f.failure := by
  obtain ⟨request, failure⟩ := f
  unfold failure?
  cases a.result with
  | ok vs => simp
  | error g => simp

theorem hasFailed_iff {a : Attempt} : a.hasFailed = true ↔ ∃ f, a.result = .error f := by
  unfold hasFailed failure?
  cases a.result <;> simp

theorem hasFailed_eq_false_iff {a : Attempt} :
    a.hasFailed = false ↔ ∃ vs, a.result = .ok vs := by
  unfold hasFailed failure?
  cases a.result <;> simp

end Attempt

/-- The journal after some attempts, the first of which began with `j`. -/
def Journal.afterAttempts (kind : ChainKind) (j : Journal) (as : List Attempt) : Journal :=
  as.foldl (fun _ a => a.closing kind) j

/-- The outcome after one more attempt. -/
def Outcome.count (o : Outcome) (a : Attempt) : Outcome :=
  match a.result with
  | .ok vs => o.succeed vs
  | .error f => o.fail a.spec.name f

theorem Outcome.count_eq (o : Outcome) (a : Attempt) :
    o.count a =
      { store := o.store.extend a.yield
        firstFailure := o.firstFailure.or a.failure?
        executed := o.executed + 1
        failed := o.failed + a.hasFailed.toNat
        skipped := o.skipped } := by
  unfold count Attempt.yield Attempt.hasFailed Attempt.failure?
  cases a.result with
  | ok vs => simp [succeed]
  | error f =>
    have first : (o.fail a.spec.name f).firstFailure =
        o.firstFailure.or (some ⟨a.spec.name, f⟩) := by
      unfold fail
      cases o.firstFailure <;> rfl
    simp only [Store.extend_nil, ← first]
    rfl

/-- Every field of the outcome of some attempts, read off the attempts. -/
theorem Outcome.foldl_count (as : List Attempt) (o : Outcome) :
    as.foldl count o =
      { store := o.store.extend (as.flatMap Attempt.yield)
        firstFailure := o.firstFailure.or (as.findSome? Attempt.failure?)
        executed := o.executed + as.length
        failed := o.failed + as.countP Attempt.hasFailed
        skipped := o.skipped } := by
  induction as generalizing o with
  | nil => simp
  | cons a as ih =>
    have failures : (a :: as).findSome? Attempt.failure? =
        a.failure?.or (as.findSome? Attempt.failure?) := by
      rw [List.findSome?_cons]
      cases a.failure? <;> rfl
    have failed : (a :: as).countP Attempt.hasFailed =
        a.hasFailed.toNat + as.countP Attempt.hasFailed := by
      rw [List.countP_cons]
      cases a.hasFailed <;> simp [Nat.add_comm]
    rw [List.foldl_cons, ih, count_eq, Store.extend_extend, failures, failed, Option.or_assoc,
      List.flatMap_cons, List.length_cons, Nat.add_assoc, Nat.add_assoc, Nat.add_comm 1]

namespace ChainKind

section Attempts

variable (kind : ChainKind) (client : Client) (server : Server)

/-- Carries out one request. -/
def attempt (s : RequestSpec) (store : Store) (j : Journal) : Attempt where
  spec := s
  given := store
  result := (s.execute client server store (j.report (.executing kind s.name))).1
  after := (s.execute client server store (j.report (.executing kind s.name))).2

/-- The requests that a chain carries out, in order. -/
def attempts : List RequestSpec → Store → Journal → List Attempt
  | [], _, _ => []
  | s :: rest, store, j =>
    let a := kind.attempt client server s store j
    a :: if a.hasFailed && kind.stopsOnFailure then []
      else attempts rest (store.extend a.yield) (a.closing kind)

/-- Some attempts come one after the other: each is what carrying out its request gives when the
variables and the journal are those that the attempts before it left. -/
def CarriedOut (store : Store) (j : Journal) (as : List Attempt) : Prop :=
  ∀ (i : Nat) (a : Attempt), as[i]? = some a →
    a.given = store.extend ((as.take i).flatMap Attempt.yield) ∧
    a.spec.execute client server a.given
      ((j.afterAttempts kind (as.take i)).report (.executing kind a.spec.name)) =
        (a.result, a.after)

end Attempts

variable {kind : ChainKind} {client : Client} {server : Server}

/-- One round of the loop of a chain. -/
theorem steps_cons (s : RequestSpec) (rest : List RequestSpec) (o : Outcome) (j : Journal) :
    kind.steps client server (s :: rest) o j =
      (let a := kind.attempt client server s o.store j
      if a.hasFailed && kind.stopsOnFailure then (o.count a, a.closing kind)
      else kind.steps client server rest (o.count a) (a.closing kind)) := by
  rw [steps]
  unfold attempt Attempt.closing Attempt.verdict Attempt.hasFailed Attempt.failure? Outcome.count
  cases s.execute client server o.store (j.report (.executing kind s.name)) with
  | mk result after =>
    cases result with
    | ok vs => rfl
    | error f => simp

theorem attempts_cons (s : RequestSpec) (rest : List RequestSpec) (store : Store) (j : Journal) :
    kind.attempts client server (s :: rest) store j =
      (let a := kind.attempt client server s store j
      a :: if a.hasFailed && kind.stopsOnFailure then []
        else kind.attempts client server rest (store.extend a.yield) (a.closing kind)) := rfl

/-- **The loop of a chain** is a fold over its attempts. -/
theorem steps_eq_foldl (specs : List RequestSpec) (o : Outcome) (j : Journal) :
    kind.steps client server specs o j =
      ((kind.attempts client server specs o.store j).foldl Outcome.count o,
        j.afterAttempts kind (kind.attempts client server specs o.store j)) := by
  induction specs generalizing o j with
  | nil => rfl
  | cons s rest ih =>
    rw [steps_cons, attempts_cons]
    simp only
    have store : (o.count (kind.attempt client server s o.store j)).store =
        o.store.extend (kind.attempt client server s o.store j).yield := by
      rw [Outcome.count_eq]
    generalize kind.attempt client server s o.store j = a at store ⊢
    cases a.hasFailed && kind.stopsOnFailure with
    | true => rfl
    | false =>
      simp only [Bool.false_eq_true, if_false, ih, store]
      rfl

variable (kind client server) in
/-- The outcome of a chain, read off its attempts. -/
theorem run_outcome (specs : List RequestSpec) (store : Store) (j : Journal) :
    (kind.run client server specs store j).1 =
      (let as := kind.attempts client server specs store j
      { store := store.extend (as.flatMap Attempt.yield)
        firstFailure := as.findSome? Attempt.failure?
        executed := as.length
        failed := as.countP Attempt.hasFailed
        skipped := specs.length - as.length }) := by
  unfold run
  rw [steps_eq_foldl, Outcome.foldl_count]
  simp

/-- The messages that have arrived when a chain ends had arrived when its last attempt ended. -/
theorem run_arrived (specs : List RequestSpec) (store : Store) (j : Journal) :
    (kind.run client server specs store j).2.arrived =
      (j.afterAttempts kind (kind.attempts client server specs store j)).arrived := by
  unfold run
  rw [steps_eq_foldl]
  simp only
  split <;> rfl

/-- The `i`-th attempt is at the `i`-th request, with the variables and the journal that the
attempts before it left. -/
theorem eq_attempt_of_getElem? {specs : List RequestSpec} {store : Store} {j : Journal} {i : Nat}
    {a : Attempt} (here : (kind.attempts client server specs store j)[i]? = some a) :
    specs[i]? = some a.spec ∧
      a = kind.attempt client server a.spec
        (store.extend (((kind.attempts client server specs store j).take i).flatMap Attempt.yield))
        (j.afterAttempts kind ((kind.attempts client server specs store j).take i)) := by
  induction specs generalizing store j i with
  | nil => simp [attempts] at here
  | cons s rest ih =>
    rw [attempts_cons] at here ⊢
    simp only at here ⊢
    cases i with
    | zero =>
      obtain rfl := Option.some.inj here
      refine ⟨rfl, ?_⟩
      rw [List.take_zero, List.flatMap_nil, Store.extend_nil]
      rfl
    | succ i =>
      rw [List.getElem?_cons_succ] at here
      rw [List.getElem?_cons_succ, List.take_succ_cons, List.flatMap_cons, ← Store.extend_extend]
      generalize kind.attempt client server s store j = first at here ⊢
      cases stop : first.hasFailed && kind.stopsOnFailure with
      | true => simp [stop] at here
      | false =>
        simp only [stop, Bool.false_eq_true, if_false] at here ⊢
        exact ih here

/-- An attempt that others follow did not stop the chain. -/
theorem hasFailed_of_lt {specs : List RequestSpec} {store : Store} {j : Journal} {i : Nat}
    {a : Attempt} (here : (kind.attempts client server specs store j)[i]? = some a)
    (more : i + 1 < (kind.attempts client server specs store j).length)
    (stops : kind.stopsOnFailure = true) : a.hasFailed = false := by
  induction specs generalizing store j i with
  | nil => simp [attempts] at here
  | cons s rest ih =>
    rw [attempts_cons] at here more
    simp only at here more
    generalize kind.attempt client server s store j = first at here more
    cases stop : first.hasFailed && kind.stopsOnFailure with
    | true => simp [stop] at more
    | false =>
      simp only [stop, Bool.false_eq_true, if_false, List.length_cons] at here more
      cases i with
      | zero =>
        obtain rfl := Option.some.inj here
        simpa [stops] using stop
      | succ i =>
        rw [List.getElem?_cons_succ] at here
        exact ih here (by omega)

theorem length_attempts_le (specs : List RequestSpec) (store : Store) (j : Journal) :
    (kind.attempts client server specs store j).length ≤ specs.length := by
  induction specs generalizing store j with
  | nil => exact Nat.le_refl 0
  | cons s rest ih =>
    rw [attempts_cons]
    simp only [List.length_cons]
    split
    · exact Nat.succ_le_succ (Nat.zero_le _)
    · exact Nat.succ_le_succ (ih _ _)

/-- A chain that does not attempt all its requests is stopped by the last attempt. -/
theorem last_of_length_lt {specs : List RequestSpec} {store : Store} {j : Journal}
    (short : (kind.attempts client server specs store j).length < specs.length) :
    kind.stopsOnFailure = true ∧
      ∃ a, (kind.attempts client server specs store j).getLast? = some a ∧ a.hasFailed = true := by
  induction specs generalizing store j with
  | nil => exact absurd short (Nat.not_lt_zero _)
  | cons s rest ih =>
    rw [attempts_cons] at short ⊢
    simp only at short ⊢
    generalize kind.attempt client server s store j = first at short ⊢
    cases stop : first.hasFailed && kind.stopsOnFailure with
    | true =>
      rw [Bool.and_eq_true] at stop
      exact ⟨stop.2, first, rfl, stop.1⟩
    | false =>
      simp only [stop, Bool.false_eq_true, if_false, List.length_cons] at short ⊢
      obtain ⟨stops, a, last, failed⟩ := ih (Nat.lt_of_succ_lt_succ short)
      refine ⟨stops, a, ?_, failed⟩
      rw [List.getLast?_cons, last]
      rfl

/-- The requests are attempted in order. -/
theorem specs_attempts (specs : List RequestSpec) (store : Store) (j : Journal) :
    (kind.attempts client server specs store j).map Attempt.spec =
      specs.take (kind.attempts client server specs store j).length := by
  apply List.ext_getElem?
  intro i
  rw [List.getElem?_map]
  cases here : (kind.attempts client server specs store j)[i]? with
  | none =>
    have past := List.getElem?_eq_none_iff.1 here
    rw [List.getElem?_take_eq_none past]
    rfl
  | some a =>
    have bound := (List.getElem?_eq_some_iff.1 here).1
    rw [List.getElem?_take_of_lt bound, (eq_attempt_of_getElem? here).1]
    rfl

theorem carriedOut_attempts (specs : List RequestSpec) (store : Store) (j : Journal) :
    kind.CarriedOut client server store j (kind.attempts client server specs store j) := by
  intro i a here
  have eq := (eq_attempt_of_getElem? here).2
  generalize (kind.attempts client server specs store j).take i = before at eq ⊢
  rw [eq]
  exact ⟨rfl, rfl⟩

end ChainKind

namespace RequestSpec

variable {s : RequestSpec} {client : Client} {server : Server} {store : Store} {j : Journal}

/-- Carrying out a request with the variables of `store` gets it the response `r`. -/
def Gets (s : RequestSpec) (client : Client) (server : Server) (store : Store) (j : Journal)
    (r : Response) : Prop :=
  ∃ allowed m, s.prepare client store = .ok (allowed, m) ∧
    (s.respond client server allowed m
      (j.report (.sending s.name s.method.name m.url.text allowed))).1 = .ok r

/-- A request succeeds if it gets a response and each of its rules takes something out of it. -/
theorem execute_eq_ok_iff {vs : List Variable} :
    (s.execute client server store j).1 = .ok vs ↔ ∃ r, s.Gets client server store j r ∧
      List.Forall₂ (fun rule v => rule.extract r = .ok v) s.rules vs := by
  unfold execute Gets
  cases s.prepare client store with
  | error cause => simp
  | ok prepared =>
    obtain ⟨allowed, m⟩ := prepared
    simp only [Except.ok.injEq, Prod.mk.injEq]
    cases got : s.respond client server allowed m
        (j.report (.sending s.name s.method.name m.url.text allowed)) with
    | mk result after =>
      cases result with
      | error f =>
        constructor
        · intro h
          cases h
        · rintro ⟨r, ⟨allowed, m, ⟨rfl, rfl⟩, h⟩, -⟩
          rw [got] at h
          cases h
      | ok r =>
        simp only [← Response.extract_eq_ok_iff]
        constructor
        · intro h
          exact ⟨r, ⟨allowed, m, ⟨rfl, rfl⟩, by rw [got]⟩, h⟩
        · rintro ⟨r', ⟨allowed, m, ⟨rfl, rfl⟩, h⟩, extract⟩
          rw [got] at h
          cases h
          exact extract

/-- The variables of a request that succeeds are named by its rules, in order. -/
theorem labels_of_execute {vs : List Variable}
    (ok : (s.execute client server store j).1 = .ok vs) :
    vs.map Variable.label = s.rules.map Rule.label := by
  obtain ⟨r, -, each⟩ := execute_eq_ok_iff.1 ok
  exact Rule.labels_of_each each

end RequestSpec

theorem ChainKind.labels_of_mem {kind : ChainKind} {client : Client} {server : Server}
    {specs : List RequestSpec} {store : Store} {j : Journal} {a : Attempt} {vs : List Variable}
    (mem : a ∈ kind.attempts client server specs store j) (ok : a.result = .ok vs) :
    vs.map Variable.label = a.spec.rules.map Rule.label := by
  obtain ⟨i, here⟩ := List.mem_iff_getElem?.1 mem
  apply RequestSpec.labels_of_execute
  rw [(carriedOut_attempts specs store j i a here).2]
  exact ok

end Vigil

import Vigil.Proofs.Schedule.Lives

/-!
# The runs of one worker

The runs of a worker come one after the other, whatever its period is and whether or not it is told
to stop: each has ended when the next one begins. Of those that have begun all but the last have
ended, and the phase of the worker tells when that one does (`Worker.Apart`). What a worker does
keeps it so (`Worker.Lives.apart`).
-/

set_option autoImplicit false

namespace Vigil

/-- No run begins before those before it have ended. -/
def Successive (acts : List (Nat × Act)) : Prop := (runs acts).Pairwise fun a b => a.2 ≤ b.1

theorem runs_of_ne (now : Nat) {a : Act} (other : ∀ t, a ≠ .begin t) : runs [(now, a)] = [] :=
  runs_cons_of_ne now other []

/-- Acts one after the other: runs of the first ones have ended when others begin. -/
theorem Successive.append {first later : List (Nat × Act)} {moment : Nat}
    (before : Successive first) (after : Successive later)
    (ended : ∀ run ∈ runs first, run.2 ≤ moment) (begun : ∀ run ∈ runs later, moment ≤ run.1) :
    Successive (first ++ later) := by
  unfold Successive
  rw [runs_append]
  refine List.pairwise_append.2 ⟨before, after, fun a mem b mem' => ?_⟩
  exact Nat.le_trans (ended a mem) (begun b mem')

namespace Worker

variable {course : Course} {start now later : Nat} {acts : List (Nat × Act)} {w w₀ : Worker}

/-- The runs of a worker that began at `start` and has done `acts` by the moment `now`. -/
structure Apart (start now : Nat) (acts : List (Nat × Act)) (w : Worker) : Prop where
  successive : Successive acts
  begun : ∀ run ∈ runs acts, start ≤ run.1
  /-- A run has ended by now, or it is the one in progress. -/
  ended : ∀ run ∈ runs acts, run.2 ≤ now ∨ w.phase = .busy run.2

/-- What a worker does when its run is to end is to finish it. -/
theorem le_of_busy {ends : Nat} (phase : w.phase = .busy ends) (due : w.nextMoment? = some now) :
    ends ≤ now := by
  simp only [nextMoment?, phase, Option.some.injEq] at due
  omega

theorem Apart.act (apart : Apart start now acts w) (le : start ≤ now)
    (due : w.nextMoment? = some now) :
    Apart start now (acts ++ [(now, (w.act course now).2)]) (w.act course now).1 := by
  -- Whatever it does, all runs that it began before have ended.
  have ended : ∀ run ∈ runs acts, run.2 ≤ now := by
    intro run mem
    rcases apart.ended run mem with past | busy
    · exact past
    · exact le_of_busy busy due
  by_cases begins : ∃ t, (w.act course now).2 = .begin t
  · obtain ⟨t, begins⟩ := begins
    obtain ⟨rfl, -, busy⟩ := (does course w now).of_begin begins
    rw [begins]
    have one : runs [(now, Act.begin (course now))] = [(now, now + (course now).span)] := rfl
    constructor
    case successive =>
      have begun : ∀ run ∈ runs [(now, Act.begin (course now))], now ≤ run.1 := by
        rw [one]
        exact List.forall_mem_singleton.2 (Nat.le_refl now)
      exact apart.successive.append (List.pairwise_singleton _ _) ended begun
    case begun =>
      rw [runs_append, one]
      exact List.forall_mem_append.2 ⟨apart.begun, List.forall_mem_singleton.2 le⟩
    case ended =>
      rw [runs_append, one]
      refine List.forall_mem_append.2 ⟨fun run mem => .inl (ended run mem), ?_⟩
      exact List.forall_mem_singleton.2 (.inr busy)
  · have other : ∀ t, (w.act course now).2 ≠ .begin t := fun t eq => begins ⟨t, eq⟩
    have same : runs (acts ++ [(now, (w.act course now).2)]) = runs acts := by
      rw [runs_append, runs_of_ne now other, List.append_nil]
    constructor
    case successive => rw [Successive, same]; exact apart.successive
    case begun => rw [same]; exact apart.begun
    case ended => rw [same]; exact fun run mem => .inl (ended run mem)

/-- **Runs of one worker** come one after the other. -/
theorem Lives.apart (lives : Lives course start w₀ now acts w) : Apart start now acts w := by
  induction lives with
  | begin => exact ⟨.nil, nofun, nofun⟩
  | act before due ih => exact ih.act before.le due
  | @wait now later acts w before le idle ih =>
    refine ⟨ih.successive, ih.begun, fun run mem => ?_⟩
    rcases ih.ended run mem with past | busy
    · exact .inl (Nat.le_trans past le)
    · refine .inr ?_
      unfold Worker.wait
      split <;> exact busy
  | signal before ih => exact ⟨ih.successive, ih.begun, ih.ended⟩

end Worker

end Vigil

import Vigil.Proofs.Schedule.Lives

/-!
# Being told to stop

A worker that is told to stop has one moment at which it does all that it still does: the end of
the run in progress, or else the moment at which it is told. `Closing` says so of what is left of
such a worker, and every piece of its life keeps it so (`Lives.closing`). This is what
`Doing.stops` puts together.
-/

set_option autoImplicit false

namespace Vigil

namespace Worker

variable {course : Course} {now later upTo next : Nat} {acts more : List (Nat × Act)}
  {w w' : Worker}

/-- What is left of a worker that was told to stop: it has done `more` since, and it does all of it
at the moment `ends`. -/
structure Closing (ends later : Nat) (more : List (Nat × Act)) (w : Worker) : Prop where
  told : w.stopping = true
  silent : runs more = []
  at_end : ∀ a ∈ more, a.1 = ends ∧ ends ≤ later
  next : ∀ next, w.nextMoment? = some next → next = ends ∧ later ≤ ends
  ended : w.nextMoment? = none → ends ≤ later

theorem Doing.closing (doing : Doing course now acts w) :
    Closing (w.endsAt now) now [] w.signal where
  told := rfl
  silent := rfl
  at_end a mem := by cases mem
  next next some := by
    have here := doing.signal.since some
    have past := nextMoment?_of_since here some
    cases doing with
    | busy b running phase began within since =>
      simp only [nextMoment?, signal_phase, phase, signal_since, Option.some.injEq] at some
      rw [endsAt_of_busy phase]
      omega
    | free none phase since =>
      unfold nextMoment? at some
      rw [endsAt_of_free phase]
      cases phase' : w.phase with
      | busy ends => exact absurd phase' (phase ends)
      | fresh | waiting =>
        simp only [signal_phase, phase', signal_stopping, signal_since, if_true,
          Option.some.injEq] at some here ⊢
        omega
      | ended | broken => simp [phase'] at some
  ended none := by
    refine Nat.le_of_eq (endsAt_of_free (fun ends phase => ?_) now)
    simp [nextMoment?, phase] at none

theorem nextMoment?_act_of_stopping (told : w.stopping = true)
    (some : (w.act course now).1.nextMoment? = some next) (due : w.nextMoment? = .some now) :
    next = now := by
  have does := does course w now
  generalize w.act course now = r at does some
  cases does with
  | enter | finish =>
    simp only [nextMoment?, told, if_true, Option.some.injEq] at some
    exact some.symm
  | breakDown | leave => simp [nextMoment?] at some
  | drop _ untold | begin _ untold =>
    rw [told] at untold
    cases untold
  | rest phase => exact absurd phase (not_rest due)

theorem Closing.act {ends : Nat} (closing : Closing ends later more w)
    (due : w.nextMoment? = some later) :
    Closing ends later (more ++ [(later, (w.act course later).2)]) (w.act course later).1 := by
  obtain ⟨here, -⟩ := closing.next later due
  obtain ⟨told, other⟩ := act_of_stopping course closing.told later
  constructor
  case told => exact told
  case silent => rw [runs_append, closing.silent, runs_cons_of_ne later other]; rfl
  case at_end =>
    intro a mem
    rcases List.mem_append.1 mem with mem | mem
    · exact closing.at_end a mem
    · obtain rfl := List.mem_singleton.1 mem
      exact ⟨here, Nat.le_of_eq here.symm⟩
  case next =>
    intro next some
    have same := nextMoment?_act_of_stopping closing.told some due
    omega
  case ended => exact fun _ => Nat.le_of_eq here.symm

theorem Closing.wait {ends upTo : Nat} (closing : Closing ends later more w) (le : later ≤ upTo)
    (idle : ∀ next, w.nextMoment? = some next → upTo ≤ next) :
    Closing ends upTo more (w.wait upTo) := by
  constructor
  case told => exact (w.wait_stopping upTo).trans closing.told
  case silent => exact closing.silent
  case at_end =>
    intro a mem
    obtain ⟨here, past⟩ := closing.at_end a mem
    exact ⟨here, Nat.le_trans past le⟩
  case next =>
    intro next some
    rw [nextMoment?_wait_eq idle] at some
    obtain ⟨here, -⟩ := closing.next next some
    have := idle next some
    omega
  case ended =>
    intro none
    rw [nextMoment?_wait_eq idle] at none
    exact Nat.le_trans (closing.ended none) le

/-- **Closing.** Whatever the order of things, a worker that was told to stop does all that it
still does at one moment. -/
theorem Lives.closing (doing : Doing course now acts w)
    (lives : Lives course now w.signal later more w') :
    Closing (w.endsAt now) later more w' := by
  induction lives with
  | begin => exact doing.closing
  | act before due ih => exact ih.act due
  | wait before le idle ih => exact ih.wait le idle
  | @signal _ _ w' before ih =>
    have same : w'.signal = w' := by
      have told := ih.told
      obtain ⟨period, pos, since, due, lastEnd, phase, stopping⟩ := w'
      cases told
      rfl
    rw [same]
    exact ih

/-- A worker that was told to stop ends when it was going to. -/
theorem Lives.endsAt_eq (doing : Doing course now acts w)
    (lives : Lives course now w.signal later more w') :
    w'.endsAt later = max later (w.endsAt now) := by
  have closing := lives.closing doing
  cases doing.signal.lives lives with
  | busy b running phase began within since =>
    have next : w'.nextMoment? = some (b + (course b).span) := by
      simp only [nextMoment?, phase, Option.some.injEq]
      omega
    have ends := closing.next _ next
    rw [endsAt_of_busy phase]
    omega
  | free none phase since =>
    have past : w.endsAt now ≤ later := by
      cases next : w'.nextMoment? with
      | none => exact closing.ended next
      | some moment =>
        have here := since moment next
        have ends := closing.next moment next
        unfold nextMoment? at next
        cases phase' : w'.phase with
        | busy ends => exact absurd phase' (phase ends)
        | fresh | waiting =>
          simp only [phase', closing.told, if_true, Option.some.injEq] at next
          omega
        | ended | broken => simp [phase'] at next
    rw [Nat.max_eq_left past, endsAt_of_free phase]

/-- What becomes of a worker that has done `acts` when it is told to stop at the moment `now`, and
is done at the moment `ends`. -/
structure Stops (course : Course) (now : Nat) (acts : List (Nat × Act)) (w : Worker)
    (ends : Nat) : Prop where
  /-- A run in progress goes to its end, and that is when the worker is done. -/
  running : ∀ b t, inFlight? acts = some (b, t) →
    t = course b ∧ b ≤ now ∧ now ≤ ends ∧ ends = b + t.span
  /-- If there is none, the worker is done at once. -/
  idle : inFlight? acts = none → ends = now
  /-- No run begins from now on, whatever else comes due or happens at the same moment. -/
  none_begins : ∀ later more w', Lives course now w.signal later more w' → runs more = []
  /-- What the worker still does, it does when it is done. -/
  at_end : ∀ later more w', Lives course now w.signal later more w' → ∀ a ∈ more, a.1 = ends
  /-- Before that moment it has done nothing and is not done, -/
  pending : ∀ later more w', Lives course now w.signal later more w' → later < ends →
    more = [] ∧ w'.nextMoment? = some ends
  /-- after that moment it is done, -/
  ended : ∀ later more w', Lives course now w.signal later more w' → ends < later →
    w'.nextMoment? = none
  /-- and so it is at that moment if it is let work. -/
  done : ∀ upTo, ends ≤ upTo → (w.signal.advance course upTo).1.nextMoment? = none
  /-- After a run in progress it finishes and leaves. -/
  leaves : (inFlight? acts).isSome → ∀ upTo, ends ≤ upTo →
    (w.signal.advance course upTo).2 = [(ends, .finish), (ends, .leave)]

theorem advance_busy {ends : Nat} (phase : w.phase = .busy ends) (told : w.stopping = true)
    (since : w.since ≤ ends) (le : ends ≤ upTo) :
    (w.advance course upTo).2 = [(ends, .finish), (ends, .leave)] := by
  have first : w.nextMoment? = some ends := by
    simp only [nextMoment?, phase, Option.some.injEq]
    omega
  have finished : w.act course ends =
      ({ w with since := ends, lastEnd := some ends, phase := .waiting }, .finish) := by
    unfold act
    rw [phase]
  have second : (w.act course ends).1.nextMoment? = some ends := by
    simp [finished, nextMoment?, told]
  have left : (w.act course ends).1.act course ends =
      ({ w with since := ends, lastEnd := some ends, phase := .ended }, .leave) := by
    rw [finished, act]
    simp only [told, if_true]
  have none : ((w.act course ends).1.act course ends).1.nextMoment? = none := by
    rw [left]
    rfl
  rw [advance_of_le first le, advance_of_le second le, left, finished]
  simp only [List.cons.injEq, true_and]
  rw [left] at none
  rw [advance_of_none none]

/-- **A worker that is told to stop** begins no run, finishes the one in progress, and is done
then. -/
theorem Doing.stops (doing : Doing course now acts w) :
    Stops course now acts w (w.endsAt now) := by
  constructor
  case running =>
    intro b t running
    cases doing with
    | busy b' running' phase began within since =>
      rw [running] at running'
      cases running'
      rw [endsAt_of_busy phase, Nat.max_eq_right within]
      exact ⟨rfl, began, within, rfl⟩
    | free none phase since =>
      rw [running] at none
      cases none
  case idle =>
    intro none
    cases doing with
    | busy b running phase began within since =>
      rw [running] at none
      cases none
    | free none phase since => exact endsAt_of_free phase now
  case none_begins => exact fun later more w' lives => (lives.closing doing).silent
  case at_end => exact fun later more w' lives a mem => ((lives.closing doing).at_end a mem).1
  case pending =>
    intro later more w' lives lt
    have closing := lives.closing doing
    constructor
    · apply List.eq_nil_iff_forall_not_mem.2
      intro a mem
      have := (closing.at_end a mem).2
      omega
    · cases next : w'.nextMoment? with
      | none =>
        have := closing.ended next
        omega
      | some moment => rw [(closing.next moment next).1]
  case ended =>
    intro later more w' lives lt
    cases next : w'.nextMoment? with
    | none => rfl
    | some moment =>
      have := ((lives.closing doing).next moment next).2
      omega
  case done =>
    intro upTo le
    have lives := (lives_advance course upTo w.signal now acts doing.signal
      (Nat.le_trans (w.le_endsAt now) le)).1
    cases next : (w.signal.advance course upTo).1.nextMoment? with
    | none => rfl
    | some moment =>
      have ends := (lives.closing doing).next moment next
      have past := lt_of_nextMoment?_advance next
      omega
  case leaves =>
    intro running upTo le
    cases doing with
    | busy b running' phase began within since =>
      rw [endsAt_of_busy phase, Nat.max_eq_right within] at le ⊢
      exact advance_busy phase rfl (by rw [signal_since]; omega) le
    | free none phase since =>
      rw [none] at running
      cases running

end Worker

end Vigil

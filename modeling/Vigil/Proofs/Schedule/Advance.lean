import Vigil.Schedule.Worker

/-!
# What a worker does as time goes by

What a worker can do at one moment is one of a few things (`does`); what holds of each act is read
off from there. Among what it does, `runs` are the runs of its monitor. A worker that was told to
stop begins none (`runs_advance_of_stopping`), and so the runs of its life are those up to the
moment at which it is told (`runs_life`).
-/

set_option autoImplicit false

namespace Vigil

/-- The runs among acts, each with the moments at which it begins and ends. -/
def runs (acts : List (Nat × Act)) : List (Nat × Nat) :=
  acts.filterMap fun
    | (now, .begin t) => some (now, now + t.span)
    | _ => none

theorem runs_append (l r : List (Nat × Act)) : runs (l ++ r) = runs l ++ runs r :=
  List.filterMap_append

theorem runs_cons_of_ne (now : Nat) {a : Act} (other : ∀ t, a ≠ .begin t)
    (acts : List (Nat × Act)) : runs ((now, a) :: acts) = runs acts := by
  cases a with
  | begin t => exact absurd rfl (other t)
  | enter | breakDown | drop | finish | leave => rfl

namespace Worker

variable {course : Course} {w : Worker} {now upTo : Nat} {r : Worker × Act}

/-! ## What a worker does -/

/-- What a worker can do at a moment, in any state of its timer. -/
inductive Does (course : Course) (w : Worker) (now : Nat) : Worker × Act → Prop where
  | enter (phase : w.phase = .fresh) (fits : now + w.period ≤ Timer.latest) :
      Does course w now ({ w with since := now, due := now + w.period, phase := .waiting }, .enter)
  | breakDown (phase : w.phase = .fresh) (past : Timer.latest < now + w.period) :
      Does course w now ({ w with since := now, phase := .broken }, .breakDown)
  | drop {e : Nat} (phase : w.phase = .waiting) (untold : w.stopping = false)
      (lastEnd : w.lastEnd = some e) (stale : w.due < e) :
      Does course w now ({ w with since := now, due := Timer.following w.period w.due now }, .drop)
  | begin (phase : w.phase = .waiting) (untold : w.stopping = false)
      (ahead : ∀ e, w.lastEnd = some e → e ≤ w.due) :
      Does course w now ({ w with
        since := now
        due := Timer.following w.period w.due now
        phase := .busy (now + (course now).span) }, .begin (course now))
  | finish (ends : Nat) (phase : w.phase = .busy ends) :
      Does course w now ({ w with since := now, lastEnd := some now, phase := .waiting }, .finish)
  | leave (phase : w.phase = .waiting) (told : w.stopping = true) :
      Does course w now ({ w with since := now, phase := .ended }, .leave)
  /-- It has nothing left to do. -/
  | rest (phase : w.phase = .ended ∨ w.phase = .broken) : Does course w now (w, .finish)

theorem isStale_iff {due : Nat} : w.isStale due = true ↔ ∃ e, w.lastEnd = some e ∧ due < e := by
  unfold isStale
  cases w.lastEnd with
  | none => simp
  | some e => simp

variable (course w now) in
/-- **Inversion.** A worker does one of six things, or nothing. -/
theorem does : Does course w now (w.act course now) := by
  unfold act
  cases phase : w.phase with
  | fresh =>
    simp only [enter]
    split
    · next fits => exact .enter phase fits
    · next past => exact .breakDown phase (Nat.lt_of_not_le past)
  | waiting =>
    simp only
    by_cases told : w.stopping = true
    · rw [if_pos told]
      exact .leave phase told
    · have untold : w.stopping = false := Bool.eq_false_iff.2 told
      rw [if_neg told, fire]
      by_cases stale : w.isStale w.due = true
      · obtain ⟨e, lastEnd, before⟩ := isStale_iff.1 stale
        rw [if_pos stale]
        exact .drop phase untold lastEnd before
      · rw [if_neg stale]
        refine .begin phase untold fun e lastEnd => Nat.le_of_not_lt fun before => ?_
        exact stale (isStale_iff.2 ⟨e, lastEnd, before⟩)
  | busy ends => exact .finish ends phase
  | ended => exact .rest (.inl phase)
  | broken => exact .rest (.inr phase)

theorem Does.period (does : Does course w now r) : r.1.period = w.period := by
  cases does <;> rfl

theorem Does.stopping (does : Does course w now r) : r.1.stopping = w.stopping := by
  cases does <;> rfl

/-- A worker that begins a run was not told to stop, and is busy until the run ends. -/
theorem Does.of_begin {t : Tick} (does : Does course w now r) (begins : r.2 = .begin t) :
    t = course now ∧ w.stopping = false ∧ r.1.phase = .busy (now + t.span) := by
  cases does with
  | begin phase untold ahead =>
    cases begins
    exact ⟨rfl, untold, rfl⟩
  | enter | breakDown | drop | finish | leave | rest => cases begins

/-- A worker that has something left to do is not at rest. -/
theorem not_rest (some : w.nextMoment? = some now) : ¬ (w.phase = .ended ∨ w.phase = .broken) := by
  rintro (phase | phase)
  · simp [nextMoment?, phase] at some
  · simp [nextMoment?, phase] at some

/-! ## Working up to a moment -/

theorem advance_of_le (next : w.nextMoment? = some now) (le : now ≤ upTo) :
    w.advance course upTo =
      (((w.act course now).1.advance course upTo).1,
        (now, (w.act course now).2) :: ((w.act course now).1.advance course upTo).2) := by
  rw [advance]
  split
  · next none => rw [none] at next; cases next
  · next now' some =>
    rw [some] at next
    cases next
    rw [dif_pos le]

theorem advance_of_lt (next : w.nextMoment? = some now) (lt : upTo < now) :
    w.advance course upTo = ({ w with since := max w.since upTo }, []) := by
  rw [advance]
  split
  · next none => rw [none] at next; cases next
  · next now' some =>
    rw [some] at next
    cases next
    rw [dif_neg (Nat.not_le.2 lt)]

theorem advance_of_none (none : w.nextMoment? = none) (upTo : Nat) :
    w.advance course upTo = (w, []) := by
  rw [advance]
  split
  · rfl
  · next now some => rw [none] at some; cases some

/-- Waiting changes nothing about what a worker does next. -/
theorem nextMoment?_wait (next : w.nextMoment? = some now) (lt : upTo < now) :
    { w with since := max w.since upTo }.nextMoment? = some now := by
  unfold nextMoment? at next ⊢
  cases phase : w.phase with
  | fresh | busy =>
    simp only [phase, Option.some.injEq] at next ⊢
    omega
  | waiting =>
    simp only [phase, Option.some.injEq] at next ⊢
    split at next
    · next told =>
      rw [if_pos told]
      omega
    · next live =>
      rw [if_neg live]
      omega
  | ended | broken => simp [phase] at next

theorem act_wait (next : w.nextMoment? = some now) :
    { w with since := max w.since upTo }.act course now = w.act course now := by
  obtain ⟨period, pos, since, due, lastEnd, phase, stopping⟩ := w
  cases phase with
  | ended | broken => simp [nextMoment?] at next
  | fresh | waiting | busy => rfl

/-! ## Being told to stop -/

theorem act_stopping (course : Course) (w : Worker) (now : Nat) :
    (w.act course now).1.stopping = w.stopping :=
  (does course w now).stopping

theorem advance_stopping (course : Course) (upTo : Nat) (w : Worker) :
    (w.advance course upTo).1.stopping = w.stopping := by
  fun_induction advance course upTo w with
  | case1 => rfl
  | case2 w now next le lt rest ih => exact ih.trans (act_stopping course w now)
  | case3 => rfl

theorem act_of_stopping (course : Course) (told : w.stopping = true) (now : Nat) :
    (w.act course now).1.stopping = true ∧ ∀ t, (w.act course now).2 ≠ .begin t := by
  refine ⟨(act_stopping course w now).trans told, fun t begins => ?_⟩
  obtain ⟨-, untold, -⟩ := (does course w now).of_begin begins
  rw [told] at untold
  cases untold

theorem runs_advance_of_stopping (course : Course) (told : w.stopping = true) (upTo : Nat) :
    runs (w.advance course upTo).2 = [] := by
  fun_induction advance course upTo w with
  | case1 | case3 => rfl
  | case2 w now next le lt rest ih =>
    obtain ⟨still, other⟩ := act_of_stopping course told now
    exact (runs_cons_of_ne now other _).trans (ih still)

/-- All that a worker does up to and including `upTo` if it is told to stop at the moment `stop`,
after all it does at that moment. -/
def life (course : Course) (w : Worker) (stop upTo : Nat) : List (Nat × Act) :=
  if stop ≤ upTo then
    (w.advance course stop).2 ++ ((w.advance course stop).1.signal.advance course upTo).2
  else (w.advance course upTo).2

theorem runs_life (course : Course) (w : Worker) (stop upTo : Nat) :
    runs (w.life course stop upTo) = runs (w.advance course (min stop upTo)).2 := by
  unfold life
  split
  · rename_i le
    have told : (w.advance course stop).1.signal.stopping = true := rfl
    rw [runs_append, runs_advance_of_stopping course told, List.append_nil, Nat.min_eq_left le]
  · rename_i lt
    rw [Nat.min_eq_right (by omega)]

end Worker

end Vigil

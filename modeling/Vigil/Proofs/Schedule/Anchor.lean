import Vigil.Proofs.Schedule.Lives
import Vigil.Proofs.Schedule.SlotLaw

/-!
# Anchors

The slots of a worker are counted from the moment at which it began, whatever its period is and
whether or not these are whole milliseconds: what its timer is set to is a slot, if it could be set
at all (`Anchored`), and each run begins when the worker wakes up for a slot (`Lives.anchored`).

As long as nobody tells it to stop, a worker does what it would have done in any case
(`Lives.undisturbed`). It comes to its next run after some drops, each of which brings it closer to
the end of the last run (`Anchored.exists_nextRun`). Only a worker whose timer could not be set has
no next run; it has ended before it did anything (`Anchored.lifeless`).
-/

set_option autoImplicit false

namespace Vigil

namespace Worker

variable {course : Course} {start now later upTo moment slot : Nat} {acts : List (Nat × Act)}
  {w w₀ : Worker} {r : Worker × Act}

/-- A worker that began at `start` has set its timer to a slot, if it has set it. -/
inductive Anchored (start : Nat) (w : Worker) : Prop where
  | fresh (phase : w.phase = .fresh) (since : w.since = start) (lastEnd : w.lastEnd = none)
  /-- It is not later than the end of the last run, or than when it wakes up for the slot. -/
  | waiting (phase : w.phase = .waiting) (fits : start + w.period ≤ Timer.latest)
      (slot : IsSlot start w.period w.due)
      (since : w.since ≤ max (w.lastEnd.getD start) (wakeUp w.due))
  | busy (ends : Nat) (phase : w.phase = .busy ends) (fits : start + w.period ≤ Timer.latest)
      (slot : IsSlot start w.period w.due) (since : w.since ≤ ends)
  | ended (phase : w.phase = .ended) (told : w.stopping = true)
  | broken (phase : w.phase = .broken) (past : Timer.latest < start + w.period)

/-- What an anchored worker can do, at which moment, and what becomes of it. -/
inductive Turns (course : Course) (start : Nat) (w : Worker) : Nat → Worker × Act → Prop where
  | enter (phase : w.phase = .fresh) (lastEnd : w.lastEnd = none)
      (fits : start + w.period ≤ Timer.latest) :
      Turns course start w start
        ({ w with since := start, due := start + w.period, phase := .waiting }, .enter)
  | breakDown (phase : w.phase = .fresh) (past : Timer.latest < start + w.period) :
      Turns course start w start ({ w with since := start, phase := .broken }, .breakDown)
  | drop {now : Nat} (phase : w.phase = .waiting) (fits : start + w.period ≤ Timer.latest)
      (slot : IsSlot start w.period w.due) (stale : w.due < w.lastEnd.getD start)
      (past : w.due ≤ now) (within : now ≤ max (w.lastEnd.getD start) (wakeUp w.due)) :
      Turns course start w now
        ({ w with since := now, due := Timer.following w.period w.due now }, .drop)
  | begin {now : Nat} (phase : w.phase = .waiting) (fits : start + w.period ≤ Timer.latest)
      (slot : IsSlot start w.period w.due) (awake : now = wakeUp w.due) :
      Turns course start w now
        ({ w with
          since := now
          due := Timer.following w.period w.due now
          phase := .busy (now + (course now).span) }, .begin (course now))
  | finish (ends : Nat) {now : Nat} (phase : w.phase = .busy ends)
      (fits : start + w.period ≤ Timer.latest) (slot : IsSlot start w.period w.due) :
      Turns course start w now
        ({ w with since := now, lastEnd := some now, phase := .waiting }, .finish)
  | leave {now : Nat} (told : w.stopping = true) :
      Turns course start w now ({ w with since := now, phase := .ended }, .leave)

variable (course) in
/-- **Inversion.** What an anchored worker does next is one of six things. -/
theorem Anchored.turns (anchored : Anchored start w) (next : w.nextMoment? = some now) :
    Turns course start w now (w.act course now) := by
  unfold act
  cases anchored with
  | fresh phase since lastEnd =>
    simp only [nextMoment?, phase, since, Option.some.injEq] at next
    subst next
    simp only [phase, enter]
    split
    · next fits => exact .enter phase lastEnd fits
    · next past => exact .breakDown phase (Nat.lt_of_not_le past)
  | waiting phase fits slot since =>
    simp only [nextMoment?, phase, Option.some.injEq] at next
    simp only [phase]
    by_cases told : w.stopping = true
    · rw [if_pos told]
      exact .leave told
    · rw [if_neg told] at next ⊢
      have awake := le_wakeUp w.due
      rw [fire, isStale_of_lt (slot.lt w.period_pos)]
      by_cases stale : w.due < w.lastEnd.getD start
      · rw [if_pos (by simpa using stale)]
        have within : now ≤ max (w.lastEnd.getD start) (wakeUp w.due) := by omega
        exact .drop phase fits slot stale (by omega) within
      · rw [if_neg (by simpa using stale)]
        -- The last run was over when the slot came, so nothing but the slot is waited for.
        have now_eq : now = wakeUp w.due := by omega
        exact .begin phase fits slot now_eq
  | busy ends phase fits slot since =>
    simp only [phase]
    exact .finish ends phase fits slot
  | ended phase | broken phase => simp [nextMoment?, phase] at next

theorem Turns.anchored (turns : Turns course start w now r) : Anchored start r.1 := by
  cases turns with
  | enter phase lastEnd fits =>
    refine .waiting rfl fits (isSlot_first start w.period) ?_
    simp only [lastEnd, Option.getD_none]
    exact Nat.le_max_left _ _
  | breakDown phase past => exact .broken rfl past
  | drop phase fits slot stale past within =>
    refine .waiting phase fits (isSlot_following w.period_pos slot past) ?_
    have later := wakeUp_le_wakeUp (Nat.le_of_lt (Timer.lt_following w.period_pos w.due now))
    simp only
    omega
  | begin phase fits slot awake =>
    have past := awake ▸ le_wakeUp w.due
    exact .busy _ rfl fits (isSlot_following w.period_pos slot past) (Nat.le_add_right _ _)
  | finish ends phase fits slot => exact .waiting rfl fits slot (Nat.le_max_left _ _)
  | leave told => exact .ended rfl told

theorem Turns.period (turns : Turns course start w now r) : r.1.period = w.period := by
  cases turns <;> rfl

theorem Turns.stopping (turns : Turns course start w now r) : r.1.stopping = w.stopping := by
  cases turns <;> rfl

theorem Turns.since (turns : Turns course start w now r) : r.1.since = now := by
  cases turns <;> rfl

theorem Anchored.wait (anchored : Anchored start w)
    (idle : ∀ next, w.nextMoment? = some next → later ≤ next) : Anchored start (w.wait later) := by
  cases next : w.nextMoment? with
  | none => rwa [wait_of_none next]
  | some moment =>
    have le := idle moment next
    rw [wait_of_some next]
    cases anchored with
    | fresh phase since lastEnd =>
      simp only [nextMoment?, phase, Option.some.injEq] at next
      exact .fresh phase (by simp only; omega) lastEnd
    | waiting phase fits slot since =>
      simp only [nextMoment?, phase, Option.some.injEq] at next
      refine .waiting phase fits slot ?_
      simp only
      split at next <;> omega
    | busy ends phase fits slot since =>
      simp only [nextMoment?, phase, Option.some.injEq] at next
      exact .busy ends phase fits slot (by simp only; omega)
    | ended phase | broken phase => simp [nextMoment?, phase] at next

theorem Anchored.signal (anchored : Anchored start w) : Anchored start w.signal := by
  cases anchored with
  | fresh phase since lastEnd => exact .fresh phase since lastEnd
  | waiting phase fits slot since => exact .waiting phase fits slot since
  | busy ends phase fits slot since => exact .busy ends phase fits slot since
  | ended phase told => exact .ended phase rfl
  | broken phase past => exact .broken phase past

theorem anchored_spawn {period : Nat} (pos : 0 < period) (start : Nat) :
    Anchored start (spawn period pos start) := .fresh rfl rfl rfl

/-- A run, with the moments at which it begins and ends, begins when a worker with this period wakes
up for a slot. -/
def OnSlot (start period : Nat) (run : Nat × Nat) : Prop :=
  ∃ slot, IsSlot start period slot ∧ run.1 = wakeUp slot

theorem Turns.onSlot (turns : Turns course start w now r) :
    ∀ run ∈ runs [(now, r.2)], OnSlot start w.period run := by
  intro run mem
  cases turns with
  | begin phase fits slot awake =>
    obtain rfl := List.mem_singleton.1 mem
    exact ⟨w.due, slot, awake⟩
  | enter | breakDown | drop | finish | leave => cases mem

/-- **Anchoring.** In whatever order things happen, and whether or not it is told to stop, a worker
stays anchored where it began, and so do its runs. -/
theorem Lives.anchored (lives : Lives course start w₀ now acts w) (from_ : Anchored start w₀) :
    Anchored start w ∧ w.period = w₀.period ∧
      ∀ run ∈ runs acts, OnSlot start w₀.period run := by
  induction lives with
  | begin => exact ⟨from_, rfl, nofun⟩
  | act before due ih =>
    obtain ⟨anchored, period, slots⟩ := ih
    have turns := anchored.turns course due
    refine ⟨turns.anchored, turns.period.trans period, fun run mem => ?_⟩
    rw [runs_append] at mem
    rcases List.mem_append.1 mem with mem | mem
    · exact slots run mem
    · rw [← period]
      exact turns.onSlot run mem
  | wait before le idle ih =>
    refine ⟨ih.1.wait idle, ?_, ih.2.2⟩
    unfold Worker.wait
    split <;> exact ih.2.1
  | signal before ih => exact ⟨ih.1.signal, ih.2⟩

/-! ## Undisturbed workers -/

/-- Since `w₀` was left to itself, it has done `acts` by the moment `now` and become `w`. -/
def Undisturbed (course : Course) (w₀ : Worker) (now : Nat) (acts : List (Nat × Act))
    (w : Worker) : Prop :=
  ∀ upTo, now ≤ upTo →
    w₀.advance course upTo = ((w.advance course upTo).1, acts ++ (w.advance course upTo).2)

/-- A worker that waits does afterwards what it would have done without. -/
theorem advance_wait (idle : ∀ next, w.nextMoment? = some next → later ≤ next)
    (le : later ≤ upTo) : (w.wait later).advance course upTo = w.advance course upTo := by
  cases next : w.nextMoment? with
  | none => rw [wait_of_none next]
  | some moment =>
    have there : (w.wait later).nextMoment? = some moment := by
      rw [nextMoment?_wait_eq idle, next]
    rcases Nat.lt_or_ge upTo moment with lt | ge
    · rw [advance_of_lt next lt, advance_of_lt there lt, wait_of_some next]
      simp only [Prod.mk.injEq, and_true]
      congr 1
      omega
    · rw [advance_of_le next ge, advance_of_le there ge, wait_of_some next, act_wait next]

/-- **Left to itself.** What a worker has done that was not told to stop is what it does when it is
let work. -/
theorem Lives.undisturbed (lives : Lives course start w₀ now acts w)
    (untold : w.stopping = false) : Undisturbed course w₀ now acts w := by
  induction lives with
  | begin => exact fun upTo _ => rfl
  | @act now acts w before due ih =>
    rw [act_stopping] at untold
    intro upTo le
    rw [ih untold upTo le, advance_of_le due le, List.append_cons]
  | @wait now later acts w before le idle ih =>
    rw [wait_stopping] at untold
    intro upTo le'
    rw [ih untold upTo (Nat.le_trans le le'), advance_wait idle le']
  | signal before ih => cases untold

/-! ## The next run -/

/-- A worker that is let work from `now` on next runs its monitor when it wakes up for this
slot. -/
structure NextRun (course : Course) (start now : Nat) (w : Worker) (slot : Nat) : Prop where
  isSlot : IsSlot start w.period slot
  ahead : now ≤ wakeUp slot
  begins : ∃ before after, runs before = [] ∧ (w.advance course (wakeUp slot)).2 =
    before ++ (wakeUp slot, .begin (course (wakeUp slot))) :: after

variable (course) in
/-- What comes next after an act that is not a run comes next before it. -/
theorem exists_nextRun_of_act (anchored : Anchored start w)
    (next : w.nextMoment? = some moment) (other : ∀ t, (w.act course moment).2 ≠ .begin t)
    (later : ∃ slot, (w.act course moment).1.NextRun course start
      (w.act course moment).1.since slot) : ∃ slot, w.NextRun course start w.since slot := by
  have turns := anchored.turns course next
  obtain ⟨slot, run⟩ := later
  have ahead := run.ahead
  rw [turns.since] at ahead
  obtain ⟨before, after, silent, acts⟩ := run.begins
  refine ⟨slot, ?isSlot, ?ahead, ?begins⟩
  case isSlot =>
    rw [← turns.period]
    exact run.isSlot
  case ahead => exact Nat.le_trans (nextMoment?_of_since rfl next) ahead
  case begins =>
    refine ⟨(moment, (w.act course moment).2) :: before, after, ?_, ?_⟩
    · rw [runs_cons_of_ne moment other, silent]
    · rw [advance_of_le next ahead, acts]
      rfl

/-- A worker that waits for its timer has a next run. The induction is on how far the slot for
which the timer is set lies before the end of the last run; each drop makes that less. -/
theorem exists_nextRun_of_waiting (anchored : Anchored start w) (phase : w.phase = .waiting)
    (untold : w.stopping = false) : ∃ slot, w.NextRun course start w.since slot := by
  induction behind : w.lastEnd.getD start - w.due using Nat.strongRecOn generalizing w with
  | ind n ih =>
    obtain ⟨moment, next⟩ : ∃ moment, w.nextMoment? = some moment :=
      ⟨_, nextMoment?_of_waiting phase⟩
    have turns := anchored.turns course next
    have again := exists_nextRun_of_act course anchored next
    cases acted : w.act course moment with
    | mk w' a =>
      rw [acted] at turns again
      have anchored' := turns.anchored
      cases turns with
      | drop _ fits slot stale past within =>
        have closer := Timer.lt_following w.period_pos w.due moment
        have less : w.lastEnd.getD start - Timer.following w.period w.due moment < n := by omega
        exact again (fun t eq => Act.noConfusion eq) (ih _ less anchored' phase untold rfl)
      | begin _ fits slot awake =>
        subst awake
        have acts : w.advance course (wakeUp w.due) = _ := advance_of_le next (Nat.le_refl _)
        rw [acted] at acts
        exact ⟨w.due, slot, nextMoment?_of_since rfl next, [], _, rfl, congrArg Prod.snd acts⟩
      | enter fresh => cases phase.symm.trans fresh
      | breakDown fresh => cases phase.symm.trans fresh
      | finish ends busy => cases phase.symm.trans busy
      | leave told => cases untold.symm.trans told

/-- A worker that could set its timer and is not at rest comes to wait for it. -/
theorem Turns.waits (turns : Turns course start w now r) (other : w.phase ≠ .waiting)
    (untold : w.stopping = false) (fits : start + w.period ≤ Timer.latest) :
    r.1.phase = .waiting ∧ ∀ t, r.2 ≠ .begin t := by
  cases turns with
  | enter | finish => exact ⟨rfl, fun t eq => Act.noConfusion eq⟩
  | breakDown _ past => exact absurd fits (Nat.not_le.2 past)
  | drop phase | begin phase => exact absurd phase other
  | leave told => cases untold.symm.trans told

/-- **Progress.** A worker that could set its timer and was not told to stop has a next run. -/
theorem Anchored.exists_nextRun (anchored : Anchored start w) (untold : w.stopping = false)
    (fits : start + w.period ≤ Timer.latest) : ∃ slot, w.NextRun course start w.since slot := by
  by_cases phase : w.phase = .waiting
  · exact exists_nextRun_of_waiting anchored phase untold
  · obtain ⟨moment, next⟩ : ∃ moment, w.nextMoment? = some moment := by
      unfold nextMoment?
      cases anchored with
      | fresh phase | waiting phase | busy _ phase =>
        rw [phase]
        exact ⟨_, rfl⟩
      | ended phase told => cases untold.symm.trans told
      | broken phase past => exact absurd fits (Nat.not_le.2 past)
    have turns := anchored.turns course next
    obtain ⟨waiting, other⟩ := turns.waits phase untold fits
    exact exists_nextRun_of_act course anchored next other
      (exists_nextRun_of_waiting turns.anchored waiting (turns.stopping.trans untold))

/-- A worker that has nothing left to do has no next run. -/
theorem NextRun.exists_next (run : w.NextRun course start now slot) :
    ∃ next, w.nextMoment? = some next := by
  cases next : w.nextMoment? with
  | some moment => exact ⟨moment, rfl⟩
  | none =>
    obtain ⟨before, after, -, acts⟩ := run.begins
    rw [advance_of_none next] at acts
    cases before <;> cases acts

/-- A worker that never runs its monitor, and that has ended as soon as it is let work. -/
structure Lifeless (course : Course) (now : Nat) (w : Worker) : Prop where
  silent : ∀ upTo, runs (w.advance course upTo).2 = []
  ended : ∀ upTo, now ≤ upTo → (w.advance course upTo).1.phase = .broken

theorem Lifeless.not_nextRun (lifeless : w.Lifeless course now) :
    ¬ w.NextRun course start later slot := by
  intro run
  obtain ⟨before, after, -, acts⟩ := run.begins
  have silent := lifeless.silent (wakeUp slot)
  rw [acts, runs_append] at silent
  cases (List.append_eq_nil_iff.1 silent).2

theorem lifeless_of_broken (phase : w.phase = .broken) : w.Lifeless course now := by
  have none : w.nextMoment? = none := by rw [nextMoment?, phase]
  constructor
  case silent =>
    intro upTo
    rw [advance_of_none none]
    rfl
  case ended =>
    intro upTo _
    rw [advance_of_none none]
    exact phase

/-- A worker whose first slot is too late is lifeless. -/
theorem Anchored.lifeless (anchored : Anchored start w) (untold : w.stopping = false)
    (past : Timer.latest < start + w.period)
    (since : ∀ next, w.nextMoment? = some next → w.since = now) : w.Lifeless course now := by
  cases anchored with
  | waiting _ fits | busy _ _ fits => exact absurd fits (Nat.not_le.2 past)
  | ended phase told => cases untold.symm.trans told
  | broken phase => exact lifeless_of_broken phase
  | fresh phase began lastEnd =>
    have next : w.nextMoment? = some w.since := by rw [nextMoment?, phase]
    obtain ⟨silent, broken⟩ : (∀ t, (w.act course w.since).2 ≠ .begin t) ∧
        (w.act course w.since).1.phase = .broken := by
      rw [act, phase]
      simp only [enter]
      rw [began, if_neg (Nat.not_le.2 past)]
      exact ⟨fun t eq => Act.noConfusion eq, rfl⟩
    have rest : (w.act course w.since).1.Lifeless course w.since := lifeless_of_broken broken
    constructor
    case silent =>
      intro upTo
      rcases Nat.lt_or_ge upTo w.since with lt | ge
      · rw [advance_of_lt next lt]
        rfl
      · rw [advance_of_le next ge, runs_cons_of_ne w.since silent]
        exact rest.silent upTo
    case ended =>
      intro upTo le
      rw [← since w.since next] at le
      rw [advance_of_le next le]
      exact rest.ended upTo le

end Worker

end Vigil

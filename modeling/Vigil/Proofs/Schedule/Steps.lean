import Vigil.Proofs.Schedule.Slots

/-!
# What a worker does at its slots

What a worker's timer is set to is always a slot. While the worker waits, it is either the slot
at which it goes on, or one that came due during the last run and is dropped (`OnSlots`). So each
act is one of five with a known moment (`OnSlots.step`). Each act keeps it so (`Step.onSlots`), and
so does waiting and being told to stop (`Reaches.onSlots`).
-/

set_option autoImplicit false

namespace Vigil

namespace Worker

variable {course : Course} {start : Nat} {w : Worker}

/-- The moment since which the monitor is not being run any more, or will not be. -/
def freeAt (w : Worker) (start : Nat) : Nat :=
  match w.phase with
  | .busy ends => ends
  | _ => w.lastEnd.getD start

/-- A worker that began at `start` keeps to its slots. -/
inductive OnSlots (start : Nat) (w : Worker) : Prop where
  | fresh (phase : w.phase = .fresh) (since : w.since = start) (due : w.due = 0)
      (lastEnd : w.lastEnd = none)
  /-- Its timer is set to a slot that came due during the last run. -/
  | behind (phase : w.phase = .waiting) (slot : IsSlot start w.period w.due)
      (stale : w.due < w.lastEnd.getD start) (since : w.since = w.lastEnd.getD start)
  /-- Its timer is set to the slot at which it goes on. -/
  | ahead (phase : w.phase = .waiting) (next : NextSlot start w.period (w.lastEnd.getD start) w.due)
      (since : w.since ≤ w.due)
  | busy (s ends : Nat) (phase : w.phase = .busy ends) (slot : IsSlot start w.period s)
      (due : w.due = s + w.period) (le : s ≤ ends) (since : w.since ≤ ends)
  | ended (phase : w.phase = .ended) (told : w.stopping = true)

/-- What a worker that keeps to its slots can do, at which moment, and what becomes of it. -/
inductive Step (course : Course) (start : Nat) (w : Worker) : Nat → Worker × Act → Prop where
  | enter (phase : w.phase = .fresh) (due : w.due = 0) (lastEnd : w.lastEnd = none) :
      Step course start w start
        ({ w with since := start, due := start + w.period, phase := .waiting }, .enter)
  | drop (phase : w.phase = .waiting) (slot : IsSlot start w.period w.due)
      (stale : w.due < w.lastEnd.getD start) :
      Step course start w (w.lastEnd.getD start)
        ({ w with since := w.lastEnd.getD start
                  due := Timer.following w.period w.due (w.lastEnd.getD start) }, .drop)
  | begin (phase : w.phase = .waiting) (told : w.stopping = false)
      (next : NextSlot start w.period (w.lastEnd.getD start) w.due) :
      Step course start w w.due
        ({ w with since := w.due, due := w.due + w.period
                  phase := .busy (w.due + (course w.due).span) }, .begin (course w.due))
  | finish (s ends : Nat) (phase : w.phase = .busy ends) (slot : IsSlot start w.period s)
      (due : w.due = s + w.period) (le : s ≤ ends) :
      Step course start w ends
        ({ w with since := ends, lastEnd := some ends, phase := .waiting }, .finish)
  | leave (phase : w.phase = .waiting) (told : w.stopping = true) :
      Step course start w w.since ({ w with phase := .ended }, .leave)

theorem isStale_of_lt {due : Nat} (after : start < due) :
    w.isStale due = decide (due < w.lastEnd.getD start) := by
  unfold isStale
  cases w.lastEnd with
  | some e => rfl
  | none => simp; omega

theorem following_on_time (period due : Nat) : Timer.following period due due = due + period := by
  unfold Timer.following
  rw [if_neg (by omega)]

/-- The worker begins at a whole millisecond, its period is whole milliseconds, and the moment of
its first slot can be told. -/
structure Regular (start : Nat) (w : Worker) : Prop where
  start_whole : start % 1000000 = 0
  period_whole : w.period % 1000000 = 0
  fits : start + w.period ≤ Timer.latest

theorem Regular.nextMoment?_eq (regular : w.Regular start) (phase : w.phase = .waiting)
    (slot : IsSlot start w.period w.due) :
    w.nextMoment? = some (if w.stopping then w.since else max w.since w.due) := by
  unfold nextMoment?
  rw [phase, wakeUp_of_whole (slot.whole regular.start_whole regular.period_whole)]

variable (course) in
/-- **Inversion.** What a worker that keeps to its slots does next is one of the five steps. -/
theorem OnSlots.step {now : Nat} (on : OnSlots start w) (regular : w.Regular start)
    (next : w.nextMoment? = some now) : Step course start w now (w.act course now) := by
  have pos := w.period_pos
  unfold act
  cases on with
  | fresh phase since due lastEnd =>
    simp only [nextMoment?, phase, since, Option.some.injEq] at next
    subst next
    simp only [phase, enter, if_pos regular.fits]
    exact .enter phase due lastEnd
  | behind phase slot stale since =>
    rw [regular.nextMoment?_eq phase slot, Option.some.injEq] at next
    simp only [phase]
    have now_eq : now = w.since := by
      split at next <;> omega
    subst now_eq
    by_cases told : w.stopping = true
    · rw [if_pos told]
      exact .leave phase told
    · rw [if_neg told, fire, isStale_of_lt (slot.lt pos), if_pos (by simpa using stale), since]
      exact .drop phase slot stale
  | ahead phase after since =>
    rw [regular.nextMoment?_eq phase after.1, Option.some.injEq] at next
    simp only [phase]
    by_cases told : w.stopping = true
    · rw [if_pos told] at next
      subst next
      rw [if_pos told]
      exact .leave phase told
    · have fresh : ¬ w.due < w.lastEnd.getD start := Nat.not_lt_of_le after.2.1
      rw [if_neg told, Nat.max_eq_right since] at next
      subst next
      rw [if_neg told, fire, isStale_of_lt (after.1.lt pos), if_neg (by simpa using fresh),
        following_on_time]
      exact .begin phase (by simpa using told) after
  | busy s ends phase slot due le since =>
    simp only [nextMoment?, phase, Nat.max_eq_right since, Option.some.injEq] at next ⊢
    subst next
    exact .finish s ends phase slot due le
  | ended phase told => simp [nextMoment?, phase] at next

theorem Step.onSlots {now : Nat} {r : Worker × Act} (step : Step course start w now r) :
    OnSlots start r.1 := by
  cases step with
  | enter phase due lastEnd =>
    refine .ahead rfl ?_ (Nat.le_add_right _ _)
    simp only [lastEnd, Option.getD_none]
    exact .first
  | drop phase slot stale =>
    obtain ⟨again, next⟩ := nextSlot_following w.period_pos slot stale
    rcases Nat.lt_or_ge (Timer.following w.period w.due (w.lastEnd.getD start))
      (w.lastEnd.getD start) with still | caught
    · exact .behind phase again still rfl
    · exact .ahead phase (next caught) caught
  | begin phase told next =>
    exact .busy w.due _ rfl next.1 rfl (Nat.le_add_right _ _) (Nat.le_add_right _ _)
  | finish s ends phase slot due le =>
    rcases Nat.lt_or_ge w.due now with stale | ahead
    · have next := slot.next
      rw [← due] at next
      exact .behind rfl next stale rfl
    · refine .ahead rfl ?_ ahead
      show NextSlot start w.period now w.due
      rw [due] at ahead ⊢
      exact .of_le slot le ahead
  | leave phase told => exact .ended rfl told

theorem OnSlots.wait {upTo now : Nat} (on : OnSlots start w) (regular : w.Regular start)
    (next : w.nextMoment? = some now) (lt : upTo < now) :
    OnSlots start { w with since := max w.since upTo } := by
  cases on with
  | fresh phase since due lastEnd =>
    simp only [nextMoment?, phase, Option.some.injEq] at next
    exact .fresh phase (by simp only; omega) due lastEnd
  | behind phase slot stale since =>
    rw [regular.nextMoment?_eq phase slot, Option.some.injEq] at next
    have : upTo < w.since := by split at next <;> omega
    exact .behind phase slot stale (by simp only; omega)
  | ahead phase after since =>
    rw [regular.nextMoment?_eq phase after.1, Option.some.injEq] at next
    have : upTo < w.due := by split at next <;> omega
    exact .ahead phase after (by simp only; omega)
  | busy s ends phase slot due le since =>
    simp only [nextMoment?, phase, Option.some.injEq] at next
    exact .busy s ends phase slot due le (by simp only; omega)
  | ended phase told => exact .ended phase told

theorem OnSlots.signal (on : OnSlots start w) : OnSlots start w.signal := by
  cases on with
  | fresh phase since due lastEnd => exact .fresh phase since due lastEnd
  | behind phase slot stale since => exact .behind phase slot stale since
  | ahead phase next since => exact .ahead phase next since
  | busy s ends phase slot due le since => exact .busy s ends phase slot due le since
  | ended phase told => exact .ended phase rfl

theorem onSlots_spawn {period : Nat} (pos : 0 < period) (start : Nat) :
    OnSlots start (spawn period pos start) := .fresh rfl rfl rfl rfl

/-- The states that a worker gets into: it acts, time goes by, or it is told to stop. -/
inductive Reaches (course : Course) (w₀ : Worker) : Worker → Prop where
  | refl : Reaches course w₀ w₀
  | act {w : Worker} {now : Nat} (before : Reaches course w₀ w) (next : w.nextMoment? = some now) :
      Reaches course w₀ (w.act course now).1
  | wait {w : Worker} {now upTo : Nat} (before : Reaches course w₀ w)
      (next : w.nextMoment? = some now) (lt : upTo < now) :
      Reaches course w₀ { w with since := max w.since upTo }
  | signal {w : Worker} (before : Reaches course w₀ w) : Reaches course w₀ w.signal

theorem Step.period {now : Nat} {r : Worker × Act} (step : Step course start w now r) :
    r.1.period = w.period := by
  cases step <;> rfl

theorem Step.stopping {now : Nat} {r : Worker × Act} (step : Step course start w now r) :
    r.1.stopping = w.stopping := by
  cases step <;> rfl

theorem Step.regular {now : Nat} {r : Worker × Act} (step : Step course start w now r)
    (regular : w.Regular start) : r.1.Regular start := by
  cases step <;> exact ⟨regular.start_whole, regular.period_whole, regular.fits⟩

/-- **Invariance.** A worker that keeps to its slots does so for ever. -/
theorem Reaches.onSlots {w₀ : Worker} (reaches : Reaches course w₀ w) (on : OnSlots start w₀)
    (regular : w₀.Regular start) : OnSlots start w ∧ w.Regular start := by
  induction reaches with
  | refl => exact ⟨on, regular⟩
  | act before next ih =>
    have step := ih.1.step course ih.2 next
    exact ⟨step.onSlots, step.regular ih.2⟩
  | wait before next lt ih =>
    exact ⟨ih.1.wait ih.2 next lt, ih.2.start_whole, ih.2.period_whole, ih.2.fits⟩
  | signal before ih =>
    exact ⟨ih.1.signal, ih.2.start_whole, ih.2.period_whole, ih.2.fits⟩

/-- A run begins at the very moment for which the timer was set, when the last run is over. -/
theorem Step.begins {now : Nat} {w' : Worker} {t : Tick}
    (step : Step course start w now (w', .begin t)) :
    w.due = now ∧ w.lastEnd.getD start ≤ now := by
  cases step with
  | begin phase told next => exact ⟨rfl, next.2.1⟩

end Worker

end Vigil

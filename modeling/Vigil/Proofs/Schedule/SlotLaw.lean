import Vigil.Proofs.Schedule.Advance
import Vigil.Proofs.Schedule.Steps

/-!
# The slot law

A run begins at the moment for which the timer was set, and the runs of a worker that is not told
to stop succeed one another from slot to slot (`Succession`). Each step adds at most one run to
what follows it (`Step.succession`). From this come the slots, their order and that none is lost
(`SlotLaw`).
-/

set_option autoImplicit false

namespace Vigil

/-- The runs up to and including `horizon` of a worker that is not told to stop, that is free
since `e` and that has done with all slots before `low`. -/
inductive Succession (start period horizon : Nat) : Nat → Nat → List (Nat × Nat) → Prop where
  | last {low e : Nat} (s : Nat) (next : NextSlot start period e s) (after : low ≤ s)
      (past : horizon < s) : Succession start period horizon low e []
  | run {low e s f : Nat} {rest : List (Nat × Nat)} (next : NextSlot start period e s)
      (after : low ≤ s) (within : s ≤ horizon)
      (later : Succession start period horizon (s + 1) f rest) :
      Succession start period horizon low e ((s, f) :: rest)

/-- **The slot law** for the runs up to and including `horizon` of a worker that began at
`start`. -/
structure SlotLaw (start period horizon : Nat) (l : List (Nat × Nat)) : Prop where
  /-- Every run begins a whole number of periods after `start`, each at a later multiple. -/
  slots : ∃ ks : List Nat, l.map (·.1) = ks.map (start + · * period) ∧ (∀ k ∈ ks, 1 ≤ k) ∧
    ks.Pairwise (· < ·)
  /-- No run begins before those before it have ended. -/
  apart : l.Pairwise fun a b => a.2 ≤ b.1
  /-- The first run begins one period after `start`. -/
  first : (l[0]?).map (·.1) = if start + period ≤ horizon then some (start + period) else none
  /-- After a run, the worker goes on at the next slot. -/
  next : ∀ (i : Nat) (run : Nat × Nat), l[i]? = some run →
    ∃ s, NextSlot start period run.2 s ∧
      (l[i + 1]?).map (·.1) = if s ≤ horizon then some s else none

namespace Succession

variable {start period horizon low e : Nat} {l : List (Nat × Nat)}

theorem weaken (h : Succession start period horizon low e l) {low' : Nat} (le : low' ≤ low) :
    Succession start period horizon low' e l := by
  cases h with
  | last s next after past => exact .last s next (Nat.le_trans le after) past
  | run next after within rest => exact .run next (Nat.le_trans le after) within rest

theorem bounds (h : Succession start period horizon low e l) {run : Nat × Nat} (mem : run ∈ l) :
    IsSlot start period run.1 ∧ low ≤ run.1 ∧ e ≤ run.1 := by
  induction h with
  | last => cases mem
  | run next after within rest ih =>
    rcases List.mem_cons.mp mem with rfl | mem
    · exact ⟨next.1, after, next.2.1⟩
    · obtain ⟨slot, low, -⟩ := ih mem
      have := next.2.1
      exact ⟨slot, by omega, by omega⟩

theorem pairwise (h : Succession start period horizon low e l) :
    l.Pairwise fun a b => a.1 < b.1 ∧ a.2 ≤ b.1 := by
  induction h with
  | last => exact .nil
  | run next after within rest ih =>
    exact .cons (fun b mem => (rest.bounds mem).2) ih

theorem head (h : Succession start period horizon low e l) :
    ∃ s, NextSlot start period e s ∧
      (l[0]?).map (·.1) = if s ≤ horizon then some s else none := by
  cases h with
  | last s next after past => exact ⟨s, next, by rw [if_neg (by omega)]; rfl⟩
  | run next after within rest => exact ⟨_, next, by rw [if_pos within]; rfl⟩

theorem after (h : Succession start period horizon low e l) {i : Nat} {run : Nat × Nat}
    (get : l[i]? = some run) :
    ∃ s, NextSlot start period run.2 s ∧
      (l[i + 1]?).map (·.1) = if s ≤ horizon then some s else none := by
  induction h generalizing i with
  | last => cases get
  | run next after within rest ih =>
    cases i with
    | zero =>
      cases get
      exact rest.head
    | succ i => exact ih get

/-- **Assembly.** Runs that succeed one another from the start obey the slot law. -/
theorem slotLaw (h : Succession start period horizon 0 start l) (pos : 0 < period) :
    SlotLaw start period horizon l where
  slots := by
    apply IsSlot.exists_multiples
    · intro s mem
      obtain ⟨run, within, rfl⟩ := List.mem_map.mp mem
      exact (h.bounds within).1
    · exact List.pairwise_map.mpr (h.pairwise.imp And.left)
  apart := h.pairwise.imp And.right
  first := by
    obtain ⟨s, next, head⟩ := h.head
    rw [next.eq_first pos] at head
    exact head
  next i run get := h.after get

end Succession

namespace Worker

variable {course : Course} {start : Nat} {w : Worker}

theorem Step.succession {now horizon : Nat} {r : Worker × Act} {acts : List (Nat × Act)}
    (step : Step course start w now r) (live : w.stopping = false) (le : now ≤ horizon)
    (later : Succession start w.period horizon r.1.due (r.1.freeAt start) (runs acts)) :
    Succession start w.period horizon w.due (w.freeAt start) (runs ((now, r.2) :: acts)) := by
  cases step with
  | enter phase due lastEnd =>
    simp only [freeAt, phase, lastEnd, due, Option.getD_none] at later ⊢
    exact later.weaken (Nat.zero_le _)
  | drop phase slot stale =>
    have after := Timer.lt_following w.period_pos w.due (w.lastEnd.getD start)
    simp only [freeAt, phase] at later ⊢
    exact later.weaken (Nat.le_of_lt after)
  | begin phase told after =>
    simp only [freeAt, phase] at later ⊢
    exact .run after (Nat.le_refl _) le (later.weaken (Nat.add_le_add_left w.period_pos _))
  | finish s ends phase slot due le =>
    simp only [freeAt, phase] at later ⊢
    exact later
  | leave phase told =>
    rw [live] at told
    cases told

/-- A worker never sleeps past the slot at which it goes on. -/
theorem OnSlots.exists_pending {now : Nat} (on : OnSlots start w) (regular : w.Regular start)
    (live : w.stopping = false) (next : w.nextMoment? = some now) :
    ∃ s, NextSlot start w.period (w.freeAt start) s ∧ w.due ≤ s ∧ now ≤ s := by
  cases on with
  | fresh phase since due lastEnd =>
    simp only [nextMoment?, phase, since, Option.some.injEq] at next
    simp only [freeAt, phase, lastEnd, due, Option.getD_none]
    exact ⟨_, .first, Nat.zero_le _, by omega⟩
  | behind phase slot stale since =>
    have after := NextSlot.of_mod w.period_pos slot (Nat.le_of_lt stale)
    have le := after.2.1
    simp only [regular.nextMoment?_eq phase slot, live, Option.some.injEq] at next
    simp only [freeAt, phase]
    exact ⟨_, after, by omega, by simp at next; omega⟩
  | ahead phase after since =>
    simp only [regular.nextMoment?_eq phase after.1, live, Option.some.injEq] at next
    simp only [freeAt, phase]
    exact ⟨_, after, Nat.le_refl _, by simp at next; omega⟩
  | busy s ends phase slot due le since =>
    simp only [nextMoment?, phase, Option.some.injEq] at next
    simp only [freeAt, phase]
    rcases Nat.lt_or_ge w.due ends with stale | ahead
    · have after := NextSlot.of_mod w.period_pos slot le
      have le_slot := after.2.1
      exact ⟨_, after, by omega, by omega⟩
    · rw [due] at ahead ⊢
      exact ⟨_, .of_le slot le ahead, Nat.le_refl _, by omega⟩
  | ended phase told =>
    rw [live] at told
    cases told

theorem OnSlots.succession (on : OnSlots start w) (regular : w.Regular start)
    (live : w.stopping = false) (horizon : Nat) :
    Succession start w.period horizon w.due (w.freeAt start)
      (runs (w.advance course horizon).2) := by
  fun_induction advance course horizon w with
  | case1 w none =>
    cases on with
    | ended phase told =>
      rw [live] at told
      cases told
    | fresh phase | behind phase | ahead phase | busy _ _ phase => simp [nextMoment?, phase] at none
  | case2 w now next le lt rest ih =>
    have step := on.step course regular next
    have later := ih step.onSlots (step.regular regular) (step.stopping.trans live)
    rw [step.period] at later
    exact step.succession live le later
  | case3 w now next past =>
    obtain ⟨s, after, low, le⟩ := on.exists_pending regular live next
    exact .last s after low (by omega)

end Worker

/-- Runs that do nothing and all take equally long. -/
def Course.steady (span : Nat) : Course :=
  fun _ => ⟨⟨{ store := .empty }, { store := .empty }⟩, [], span⟩

/-- **The slot law.** However long each run takes, and whenever the worker is told to stop, the
runs obey the slot law up to then; and in whatever state it gets into, it begins a run only at the
moment for which its timer was set, never for a slot that came due before the last run ended. -/
theorem worker_slots (course : Course) {period start : Nat} (pos : 0 < period)
    (wholeStart : start % 1000000 = 0) (wholePeriod : period % 1000000 = 0)
    (fits : start + period ≤ Timer.latest) (stop upTo : Nat) :
    SlotLaw start period (min stop upTo)
        (runs ((Worker.spawn period pos start).life course stop upTo)) ∧
      ∀ (w w' : Worker) (now : Nat) (t : Tick), Worker.Reaches course (.spawn period pos start) w →
        w.nextMoment? = some now → w.act course now = (w', .begin t) →
        w.due = now ∧ w.lastEnd.getD start ≤ now := by
  have on := Worker.onSlots_spawn pos start
  have regular : (Worker.spawn period pos start).Regular start := ⟨wholeStart, wholePeriod, fits⟩
  refine ⟨?_, ?_⟩
  · rw [Worker.runs_life]
    exact (on.succession regular rfl _).slotLaw pos
  · intro w w' now t reaches next act
    obtain ⟨on, regular⟩ := reaches.onSlots on regular
    have step := on.step course regular next
    rw [act] at step
    exact step.begins

/-- Runs of seven hundred milliseconds every three hundred, told to stop after one and a half
seconds. -/
theorem worker_slots_slow :
    SlotLaw 0 300000000 1500000000
        (runs ((Worker.spawn 300000000 (by decide) 0).life (.steady 700000000)
          1500000000 3000000000)) ∧
      ∀ (w w' : Worker) (now : Nat) (t : Tick),
        Worker.Reaches (.steady 700000000) (.spawn 300000000 (by decide) 0) w →
        w.nextMoment? = some now → w.act (.steady 700000000) now = (w', .begin t) →
        w.due = now ∧ w.lastEnd.getD 0 ≤ now :=
  worker_slots (.steady 700000000) (by decide) (by decide) (by decide) (by decide)
    1500000000 3000000000

/-- Slots that come due during a run are dropped. -/
example : runs ((Worker.spawn 300000000 (by decide) 0).life (.steady 700000000)
    1500000000 3000000000) = [(300000000, 1000000000), (1200000000, 1900000000)] := by
  cbv

/-- After a run of two periods, the slot at which it ended is passed over. -/
example : runs ((Worker.spawn 10000000 (by decide) 0).life (.steady 20000000)
    50000000 50000000) = [(10000000, 30000000), (40000000, 60000000)] := by
  cbv

end Vigil

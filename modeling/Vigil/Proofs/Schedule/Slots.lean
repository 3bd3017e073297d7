import Vigil.Schedule.Worker

/-!
# Slots

A worker that begins at `start` has a slot one period later, and one after every further period.
When its monitor was run up to a moment `e`, it goes on at the earliest slot that is not before
`e`, or, only if that is `e` itself, possibly at the one after it (`NextSlot`). A timer that was set
to a slot and is handled late is set to a slot again, and no slot is passed over unless it is over
(`nextSlot_following`).
-/

set_option autoImplicit false

namespace Vigil

/-- A moment that is a whole number of periods after `start`, at least one. -/
def IsSlot (start period moment : Nat) : Prop := ∃ k, 1 ≤ k ∧ moment = start + k * period

/-- `s` is a slot at which a worker may go on after a run that ended at `e`: the earliest that is
not before `e`, or the one after it if that is `e` itself. -/
def NextSlot (start period e s : Nat) : Prop :=
  IsSlot start period s ∧ e ≤ s ∧
    ((∀ x, IsSlot start period x → e ≤ x → s ≤ x) ∨ (IsSlot start period e ∧ s = e + period))

theorem isSlot_first (start period : Nat) : IsSlot start period (start + period) :=
  ⟨1, Nat.le_refl 1, by rw [Nat.one_mul]⟩

theorem IsSlot.add {start period s : Nat} (slot : IsSlot start period s) (n : Nat) :
    IsSlot start period (s + n * period) := by
  obtain ⟨k, one, rfl⟩ := slot
  exact ⟨k + n, by omega, by rw [Nat.add_mul, Nat.add_assoc]⟩

theorem IsSlot.next {start period s : Nat} (slot : IsSlot start period s) :
    IsSlot start period (s + period) := by
  have next := slot.add 1
  rwa [Nat.one_mul] at next

theorem IsSlot.lt {start period s : Nat} (slot : IsSlot start period s) (pos : 0 < period) :
    start < s := by
  obtain ⟨k, one, rfl⟩ := slot
  have := Nat.mul_le_mul_right period one
  omega

theorem IsSlot.whole {start period s : Nat} (slot : IsSlot start period s)
    (wholeStart : start % 1000000 = 0) (wholePeriod : period % 1000000 = 0) :
    s % 1000000 = 0 := by
  obtain ⟨k, -, rfl⟩ := slot
  rw [Nat.add_mod, Nat.mul_mod, wholeStart, wholePeriod, Nat.mul_zero]

/-- Slots are a period apart. -/
theorem IsSlot.add_period_le {start period s x : Nat} (slot : IsSlot start period s)
    (other : IsSlot start period x) (lt : x < s) : x + period ≤ s := by
  obtain ⟨k, -, rfl⟩ := slot
  obtain ⟨l, -, rfl⟩ := other
  have less : l + 1 ≤ k := by
    apply Nat.lt_of_not_le
    intro le
    have := Nat.mul_le_mul_right period le
    omega
  have := Nat.mul_le_mul_right period less
  rw [Nat.add_mul, Nat.one_mul] at this
  omega

/-- The first slot after a slot that is over. -/
theorem NextSlot.of_le {start period s e : Nat} (slot : IsSlot start period s) (past : s ≤ e)
    (le : e ≤ s + period) : NextSlot start period e (s + period) := by
  have next := slot.next
  by_cases here : s = e
  · subst here
    exact ⟨next, le, .inr ⟨slot, rfl⟩⟩
  · refine ⟨next, le, .inl fun x other after => ?_⟩
    apply Nat.le_of_not_lt
    intro before
    have := next.add_period_le other before
    omega

theorem NextSlot.first {start period : Nat} : NextSlot start period start (start + period) := by
  refine ⟨isSlot_first start period, Nat.le_add_right _ _, .inl fun x other _ => ?_⟩
  obtain ⟨k, one, rfl⟩ := other
  have := Nat.mul_le_mul_right period one
  omega

theorem NextSlot.eq_first {start period s : Nat} (next : NextSlot start period start s)
    (pos : 0 < period) : s = start + period := by
  obtain ⟨slot, -, earliest | ⟨again, -⟩⟩ := next
  · have first := isSlot_first start period
    have := earliest _ first (Nat.le_add_right _ _)
    obtain ⟨k, one, rfl⟩ := slot
    have := Nat.mul_le_mul_right period one
    omega
  · exact absurd (again.lt pos) (Nat.lt_irrefl _)

/-- Slots one after the other are multiples of the period one after the other. -/
theorem IsSlot.exists_multiples {start period : Nat} {l : List Nat}
    (slots : ∀ s ∈ l, IsSlot start period s) (increasing : l.Pairwise (· < ·)) :
    ∃ ks : List Nat, l = ks.map (start + · * period) ∧ (∀ k ∈ ks, 1 ≤ k) ∧
      ks.Pairwise (· < ·) := by
  induction l with
  | nil => exact ⟨[], rfl, by simp, .nil⟩
  | cons s l ih =>
    obtain ⟨less, rest⟩ := List.pairwise_cons.mp increasing
    obtain ⟨k, one, rfl⟩ := slots s List.mem_cons_self
    obtain ⟨ks, rfl, ones, ordered⟩ :=
      ih (fun s mem => slots s (List.mem_cons_of_mem _ mem)) rest
    refine ⟨k :: ks, rfl, by simpa using ⟨one, ones⟩, .cons (fun l mem => ?_) ordered⟩
    have := less (start + l * period) (List.mem_map_of_mem mem)
    exact Nat.lt_of_mul_lt_mul_right (Nat.lt_of_add_lt_add_left this)

/-- The slot after a moment, told from any slot that is over by then. -/
theorem NextSlot.of_mod {start period due e : Nat} (pos : 0 < period)
    (slot : IsSlot start period due) (past : due ≤ e) :
    NextSlot start period e (e + period - (e - due) % period) := by
  have split := Nat.div_add_mod (e - due) period
  have rest := Nat.mod_lt (e - due) pos
  have passed := slot.add ((e - due) / period)
  rw [Nat.mul_comm] at split
  have eq : e + period - (e - due) % period = due + (e - due) / period * period + period := by
    omega
  rw [eq]
  exact .of_le passed (by omega) (by omega)

/-- Whenever a fire for a slot is handled, the timer is set to a slot again. -/
theorem isSlot_following {start period due now : Nat} (pos : 0 < period)
    (slot : IsSlot start period due) (past : due ≤ now) :
    IsSlot start period (Timer.following period due now) := by
  unfold Timer.following
  split
  · exact (NextSlot.of_mod pos slot past).1
  · exact slot.next

/-- Where a timer that is handled late, at the end of a run, is set to next. -/
theorem nextSlot_following {start period due e : Nat} (pos : 0 < period)
    (slot : IsSlot start period due) (stale : due < e) :
    IsSlot start period (Timer.following period due e) ∧
      (e ≤ Timer.following period due e →
        NextSlot start period e (Timer.following period due e)) := by
  refine ⟨isSlot_following pos slot (Nat.le_of_lt stale), ?_⟩
  unfold Timer.following
  split
  · exact fun _ => .of_mod pos slot (Nat.le_of_lt stale)
  · exact fun le => .of_le slot (Nat.le_of_lt stale) le

theorem wakeUp_le_wakeUp {moment later : Nat} (le : moment ≤ later) :
    wakeUp moment ≤ wakeUp later := by
  unfold wakeUp
  omega

theorem wakeUp_of_whole {moment : Nat} (whole : moment % 1000000 = 0) :
    wakeUp moment = moment := by
  unfold wakeUp
  omega

end Vigil

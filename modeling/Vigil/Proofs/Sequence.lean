import Mathlib.Data.List.Forall2

/-!
# One after the other

Steps that may fail are carried out over a list, up to the first that fails. They succeed together
exactly when each succeeds (`mapM_eq_ok_iff`, `mapM_eq_ok_iff_map`, `exists_mapM_eq_ok_iff`), and
otherwise what comes out is the failure of the first that fails (`mapM_eq_error_iff`).
-/

set_option autoImplicit false

namespace Vigil

variable {α β ε : Type} {f : α → Except ε β}

/-- A step that gives something has succeeded. -/
theorem eq_ok_of_toOption {a : α} {step : Except ε α} (gives : step.toOption = some a) :
    step = .ok a := by
  cases step with
  | error e => cases gives
  | ok b => exact congrArg Except.ok (Option.some.inj gives)

/-- Two steps in a row succeed if the first does and the second does with what it gives. -/
theorem bind_eq_ok_iff {step : Except ε α} {next : α → Except ε β} {b : β} :
    step >>= next = .ok b ↔ ∃ a, step = .ok a ∧ next a = .ok b := by
  cases step with
  | error e => exact iff_of_false nofun nofun
  | ok a =>
    constructor
    · intro given
      exact ⟨a, rfl, given⟩
    · rintro ⟨_, ⟨⟩, given⟩
      exact given

theorem mapM_cons_eq_ok_iff {a : α} {as : List α} {bs : List β} :
    (a :: as).mapM f = .ok bs ↔
      ∃ b others, f a = .ok b ∧ as.mapM f = .ok others ∧ bs = b :: others := by
  rw [List.mapM_cons]
  simp only [bind_eq_ok_iff]
  constructor
  · rintro ⟨b, here, others, rest, ⟨⟩⟩
    exact ⟨b, others, here, rest, rfl⟩
  · rintro ⟨b, others, here, rest, rfl⟩
    exact ⟨b, here, others, rest, rfl⟩

theorem mapM_cons_eq_error_iff {a : α} {as : List α} {e : ε} :
    (a :: as).mapM f = .error e ↔
      f a = .error e ∨ (∃ b, f a = .ok b) ∧ as.mapM f = .error e := by
  rw [List.mapM_cons]
  cases here : f a with
  | error e' =>
    constructor
    · rintro ⟨⟩
      exact .inl rfl
    · rintro (⟨⟨⟩⟩ | ⟨⟨b, ⟨⟩⟩, -⟩)
      rfl
  | ok b =>
    cases rest : as.mapM f with
    | error e' => exact ((or_iff_right nofun).trans (and_iff_right ⟨b, rfl⟩)).symm
    | ok bs => exact iff_of_false nofun nofun

theorem mapM_eq_ok_iff {as : List α} {bs : List β} :
    as.mapM f = .ok bs ↔ List.Forall₂ (fun a b => f a = .ok b) as bs := by
  induction as generalizing bs with
  | nil =>
    rw [List.mapM_nil, List.forall₂_nil_left_iff]
    exact ⟨fun h => (Except.ok.inj h).symm, fun h => by rw [h]; rfl⟩
  | cons a as ih =>
    rw [mapM_cons_eq_ok_iff, List.forall₂_cons_left_iff]
    simp only [ih]

/-- Steps that succeed under a condition, each with what it makes of its item, make the image of the
list. -/
theorem mapM_eq_ok_iff_map {p : α → Prop} {g : α → β}
    (each : ∀ a b, f a = .ok b ↔ p a ∧ b = g a) {as : List α} {bs : List β} :
    as.mapM f = .ok bs ↔ (∀ a ∈ as, p a) ∧ bs = as.map g := by
  rw [mapM_eq_ok_iff]
  simp only [each]
  induction as generalizing bs with
  | nil => simp
  | cons a as ih =>
    rw [List.forall₂_cons_left_iff, List.map_cons, List.forall_mem_cons]
    constructor
    · rintro ⟨b, rest, ⟨good, rfl⟩, others, rfl⟩
      obtain ⟨goods, rfl⟩ := ih.1 others
      exact ⟨⟨good, goods⟩, rfl⟩
    · rintro ⟨⟨good, goods⟩, rfl⟩
      exact ⟨_, _, ⟨good, rfl⟩, ih.2 ⟨goods, rfl⟩, rfl⟩

theorem mapM_eq_error_iff {as : List α} {e : ε} :
    as.mapM f = .error e ↔ ∃ before a after, as = before ++ a :: after ∧ f a = .error e ∧
      ∀ x ∈ before, ∃ b, f x = .ok b := by
  induction as with
  | nil =>
    refine iff_of_false nofun ?_
    rintro ⟨before, a, after, eq, -⟩
    simp at eq
  | cons a as ih =>
    rw [mapM_cons_eq_error_iff, ih]
    constructor
    · rintro (failed | ⟨first, before, x, after, rfl, failed, ok⟩)
      · exact ⟨[], a, as, rfl, failed, nofun⟩
      · exact ⟨a :: before, x, after, rfl, failed, List.forall_mem_cons.2 ⟨first, ok⟩⟩
    · rintro ⟨before, x, after, eq, failed, ok⟩
      cases before with
      | nil =>
        cases eq
        exact .inl failed
      | cons y before =>
        cases eq
        obtain ⟨first, ok⟩ := List.forall_mem_cons.1 ok
        exact .inr ⟨first, before, x, after, rfl, failed, ok⟩

theorem exists_mapM_eq_ok_iff {as : List α} :
    (∃ bs, as.mapM f = .ok bs) ↔ ∀ a ∈ as, ∃ b, f a = .ok b := by
  constructor
  · rintro ⟨bs, ok⟩
    have each := mapM_eq_ok_iff.1 ok
    clear ok
    induction each with
    | nil => nofun
    | cons first _ ih =>
      intro a mem
      rcases List.mem_cons.1 mem with rfl | mem
      · exact ⟨_, first⟩
      · exact ih a mem
  · intro each
    cases done : as.mapM f with
    | ok bs => exact ⟨bs, rfl⟩
    | error e =>
      obtain ⟨before, a, after, rfl, failed, -⟩ := mapM_eq_error_iff.1 done
      obtain ⟨b, ok⟩ := each a (List.mem_append_right _ List.mem_cons_self)
      rw [failed] at ok
      cases ok

/-- Each step may give a list of one. -/
theorem mapM_map_singleton (as : List α) :
    (as.mapM fun a => (f a).map fun b => [b]) = (as.mapM f).map fun bs => bs.map fun b => [b] := by
  induction as with
  | nil => rfl
  | cons a as ih =>
    rw [List.mapM_cons, List.mapM_cons, ih]
    cases f a with
    | error e => rfl
    | ok b => cases as.mapM f <;> rfl

end Vigil

import Vigil.Proofs.Json.Paths
import Vigil.Proofs.Sequence

/-!
# The normal form of paths

Many paths are cut into the same steps: dots may be repeated, and an index may have blanks, zeros
and a plus sign in front of it. The steps themselves are always plain (`isPlain_of_cut`), and plain
steps are cut out of their own spelling (`cut_chars`). So the spelling of its steps is a normal form
of a path (`normal_form`).
-/

set_option autoImplicit false

namespace Vigil

namespace JsonPath

variable {path : List PathStep} {name text : List Char} {i : Nat}

/-- Nothing stands in what has been read of a step that would have ended it. -/
inductive Pending.IsPlain : Pending → Prop where
  | field {name : List Char} (noDot : '.' ∉ name) (noBracket : '[' ∉ name) : IsPlain (.field name)
  | index (text : List Char) : IsPlain (.index text)

theorem isPlain_nothing : Pending.IsPlain (.field []) := .field List.not_mem_nil List.not_mem_nil

/-- A name without marks is a plain step, if it is a step at all. -/
theorem isPlain_withField (plain : Pending.IsPlain (.field name)) (others : ∀ s ∈ path, s.IsPlain) :
    ∀ s ∈ withField name path, s.IsPlain := by
  cases plain with
  | field noDot noBracket =>
    unfold withField
    split
    · exact others
    · next some =>
      refine List.forall_mem_cons.2 ⟨⟨?_, ?_, ?_⟩, others⟩
      · simpa using some
      · simpa using noDot
      · simpa using noBracket

/-- **What is cut out of a path is plain**, whatever has been read of the step before. -/
theorem isPlain_of_cut {p : Pending} (plain : p.IsPlain) (read : cut p text = .ok path) :
    ∀ s ∈ path, s.IsPlain := by
  induction text generalizing p path with
  | nil =>
    cases p with
    | field name =>
      obtain rfl := Except.ok.inj read
      exact isPlain_withField plain (List.forall_mem_nil _)
    | index digits =>
      obtain ⟨i, index, ⟨⟩⟩ := bind_eq_ok_iff.1 read
      exact List.forall_mem_singleton.2 (readIndex_eq_ok_iff.1 index).lt
  | cons c text ih =>
    cases p with
    | field name =>
      rw [cut] at read
      split at read
      · obtain ⟨others, cut, ⟨⟩⟩ := bind_eq_ok_iff.1 read
        exact isPlain_withField plain (ih isPlain_nothing cut)
      · next noDot =>
        split at read
        · obtain ⟨others, cut, ⟨⟩⟩ := bind_eq_ok_iff.1 read
          exact isPlain_withField plain (ih (.index []) cut)
        · next noBracket =>
          cases plain with
          | field before before' =>
            refine ih (.field ?_ ?_) read
            · exact List.not_mem_cons_of_ne_of_not_mem (Ne.symm noDot) before
            · exact List.not_mem_cons_of_ne_of_not_mem (Ne.symm noBracket) before'
    | index digits =>
      rw [cut] at read
      split at read
      · obtain ⟨i, index, rest⟩ := bind_eq_ok_iff.1 read
        obtain ⟨others, cut, ⟨⟩⟩ := bind_eq_ok_iff.1 rest
        exact List.forall_mem_cons.2 ⟨(readIndex_eq_ok_iff.1 index).lt, ih isPlain_nothing cut⟩
      · exact ih (.index (c :: digits)) read

theorem isPlain_of_cutSteps (read : cutSteps text = .ok path) : ∀ s ∈ path, s.IsPlain :=
  isPlain_of_cut isPlain_nothing read

/-- **Paths have a normal form.** The steps of a path are plain, plain steps are cut out of their
spelling, and so a path and the spelling of its steps are cut into the same steps. -/
theorem normal_form :
    (∀ text path, cutSteps text = .ok path → ∀ s ∈ path, s.IsPlain) ∧
    (∀ path, (∀ s ∈ path, s.IsPlain) → cutSteps (chars path) = .ok path) ∧
    (∀ text path, cutSteps text = .ok path → cutSteps (chars path) = .ok path) := by
  have restored : ∀ path, (∀ s ∈ path, s.IsPlain) → cutSteps (chars path) = .ok path :=
    fun path plain => cut_chars plain []
  refine ⟨fun text path read => isPlain_of_cutSteps read, restored, fun text path read => ?_⟩
  exact restored path (isPlain_of_cutSteps read)

/-- A path with repeated dots, stray brackets and indices that are spelled in other ways, and its
normal form. -/
theorem normal_form_untidy :
    cutSteps "..a].[ +007][18446744073709551615]$ b..".toList =
        .ok [.field "a]", .index 7, .index 18446744073709551615, .field "$ b"] ∧
      cutSteps ".a][7][18446744073709551615].$ b".toList =
        .ok [.field "a]", .index 7, .index 18446744073709551615, .field "$ b"] := by
  have read : cutSteps "..a].[ +007][18446744073709551615]$ b..".toList =
      .ok [.field "a]", .index 7, .index 18446744073709551615, .field "$ b"] := by decide +kernel
  have spelled : ".a][7][18446744073709551615].$ b".toList =
      chars [.field "a]", .index 7, .index 18446744073709551615, .field "$ b"] := by
    decide +kernel
  refine ⟨read, ?_⟩
  rw [spelled]
  exact normal_form.2.2 _ _ read

end JsonPath

end Vigil

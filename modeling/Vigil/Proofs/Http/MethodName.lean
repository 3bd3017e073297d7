import Mathlib.Data.List.Basic
import Vigil.Method

/-!
# Spellings of method names

The names of methods are spelled with ASCII letters in any case. Upper case takes four more
characters to letters that the names contain: the long s, the dotless i and the two ligatures of s
and t (`strays`). With these written out, the strings that are recognised are the spellings
(`ofName?_eq_some_iff`). The other six characters whose upper-case forms are ASCII letters do not
come up, for no name contains these letters in a row (`not_infix_name`).
-/

set_option autoImplicit false

namespace Vigil.Method

variable {s : String} {m : Method} {c : Char} {cs : List Char}

/-- Characters that spell the name of a method, up to the case of ASCII letters. -/
def IsSpelling (m : Method) (cs : List Char) : Prop := cs.map Char.toUpper = m.name.toList

instance (m : Method) (cs : List Char) : Decidable (IsSpelling m cs) :=
  inferInstanceAs (Decidable (_ = _))

/-- The characters outside ASCII that count as letters of a name. -/
def strays : List Char := ['ſ', 'ı', 'ﬅ', 'ﬆ']

/-- The letters that a character counts as. -/
def plain (c : Char) : List Char :=
  if c = 'ſ' then ['s']
  else if c = 'ı' then ['i']
  else if c = 'ﬅ' ∨ c = 'ﬆ' then ['s', 't']
  else [c]

/-- The characters whose upper-case forms are ASCII letters that no name contains in a row. -/
def swells : List Char := ['ß', 'ﬀ', 'ﬁ', 'ﬂ', 'ﬃ', 'ﬄ']

theorem upper_eq (other : c ∉ swells) : upper c = (plain c).map Char.toUpper := by
  simp only [swells, List.mem_cons, List.not_mem_nil, or_false, not_or] at other
  obtain ⟨sharp, ff, fi, fl, ffi, ffl⟩ := other
  simp only [upper, plain, sharp, ff, fi, fl, ffi, ffl, if_false]
  by_cases longS : c = 'ſ'
  · subst longS
    rfl
  by_cases dotless : c = 'ı'
  · subst dotless
    rfl
  by_cases ligature : c = 'ﬅ' ∨ c = 'ﬆ'
  · rcases ligature with rfl | rfl
    · rfl
    · rfl
  · obtain ⟨long, short⟩ := not_or.1 ligature
    simp only [longS, dotless, long, short, or_self, if_false, List.map_cons, List.map_nil]

theorem plain_eq (other : c ∉ strays) : plain c = [c] := by
  simp only [strays, List.mem_cons, List.not_mem_nil, or_false, not_or] at other
  obtain ⟨longS, dotless, ligature⟩ := other
  simp only [plain, longS, dotless, ligature, or_self, if_false]

/-- A list of characters is checked one by one, and not among all characters. -/
theorem forall_of_all {p : Char → Prop} [DecidablePred p]
    (checked : (cs.all fun c => decide (p c)) = true) : ∀ c ∈ cs, p c :=
  fun c mem => of_decide_eq_true (List.all_eq_true.1 checked c mem)

/-- What a letter swells to is in no name. -/
theorem not_infix_name (m : Method) : ∀ c ∈ swells, ¬ upper c <:+: m.name.toList := by
  refine forall_of_all ?_
  cases m <;> decide +kernel

/-- The names that a stray counts as a letter of. -/
theorem name_of_stray (m : Method) :
    ∀ c ∈ strays, (plain c).map Char.toUpper <:+: m.name.toList → m = .post ∨ m = .options := by
  refine forall_of_all ?_
  cases m <;> decide +kernel

theorem ascii_name (m : Method) : ∀ c ∈ m.name.toList, c.toNat < 128 := by
  refine forall_of_all ?_
  cases m <;> decide

theorem foreign_strays : ∀ c ∈ strays, 128 ≤ c.toNat := forall_of_all (by decide)

theorem foreign_swells : ∀ c ∈ swells, 128 ≤ c.toNat ∧ c ∉ strays := forall_of_all (by decide)

/-- No name contains a character outside ASCII, in whatever case. -/
theorem toUpper_not_mem_name (m : Method) (foreign : 128 ≤ c.toNat) :
    c.toUpper ∉ m.name.toList := by
  have large : ¬ c.val ≤ 122 := by
    intro letter
    have small : c.toNat ≤ 122 := UInt32.le_iff_toNat_le.1 letter
    omega
  have same : c.toUpper = c := dif_neg fun letter => large letter.2
  rw [same]
  intro mem
  have small := ascii_name m c mem
  omega

theorem infix_flatMap (f : Char → List Char) (mem : c ∈ cs) : f c <:+: cs.flatMap f := by
  obtain ⟨before, after, rfl⟩ := List.append_of_mem mem
  exact ⟨before.flatMap f, after.flatMap f, by simp⟩

/-- What a character counts as is in the name that it helps to spell. -/
theorem IsSpelling.infix_name (spelled : IsSpelling m (cs.flatMap plain)) (mem : c ∈ cs) :
    (plain c).map Char.toUpper <:+: m.name.toList := by
  rw [IsSpelling, List.map_flatMap] at spelled
  exact spelled ▸ infix_flatMap (fun c => (plain c).map Char.toUpper) mem

/-- A character outside ASCII that helps to spell a name is a stray. -/
theorem IsSpelling.mem_strays (spelled : IsSpelling m (cs.flatMap plain)) (mem : c ∈ cs)
    (foreign : 128 ≤ c.toNat) : c ∈ strays := by
  by_contra other
  have part := spelled.infix_name mem
  rw [plain_eq other, List.map_singleton] at part
  exact toUpper_not_mem_name m foreign (part.subset List.mem_cons_self)

/-- Upper case and the letters that the strays count as lead to the same names. -/
theorem flatMap_upper_eq_iff :
    cs.flatMap upper = m.name.toList ↔ IsSpelling m (cs.flatMap plain) := by
  have same : (∀ c ∈ cs, c ∉ swells) →
      cs.flatMap upper = (cs.flatMap plain).map Char.toUpper := by
    intro other
    rw [List.map_flatMap]
    exact List.flatMap_congr fun c mem => upper_eq (other c mem)
  constructor
  · intro spelled
    rw [IsSpelling, ← same fun c mem swell =>
      not_infix_name m c swell (spelled ▸ infix_flatMap upper mem)]
    exact spelled
  · intro spelled
    rw [same fun c mem swell =>
      (foreign_swells c swell).2 (spelled.mem_strays mem (foreign_swells c swell).1)]
    exact spelled

/-- **The strings that are recognised as a method** are the spellings of its name once the strays
are written out. -/
theorem ofName?_eq_some_iff : ofName? s = some m ↔ IsSpelling m (s.toList.flatMap plain) := by
  have only : all.find? (fun m' => m'.name.toList == m.name.toList) = some m := by
    cases m <;> decide
  rw [← flatMap_upper_eq_iff, ofName?]
  constructor
  · intro found
    have named : m.name.toList = s.toList.flatMap upper := by simpa using List.find?_some found
    exact named.symm
  · intro spelled
    rw [spelled]
    exact only

/-- Without a stray only a spelling is recognised. -/
theorem ofName?_of_no_stray (none : ∀ c ∈ s.toList, c ∉ strays) :
    ofName? s = some m ↔ IsSpelling m s.toList := by
  have same : s.toList.flatMap plain = s.toList :=
    (List.flatMap_congr fun c mem => plain_eq (none c mem)).trans (List.flatMap_singleton' _)
  rw [ofName?_eq_some_iff, same]

theorem not_isSpelling_of_stray (mem : c ∈ cs) (stray : c ∈ strays) : ¬ IsSpelling m cs :=
  fun spelled =>
    toUpper_not_mem_name m (foreign_strays c stray) (spelled ▸ List.mem_map_of_mem mem)

/-- A spelling is recognised. -/
theorem ofName?_of_isSpelling (spelled : IsSpelling m s.toList) : ofName? s = some m :=
  (ofName?_of_no_stray fun _ mem stray => not_isSpelling_of_stray mem stray spelled).2 spelled

/-- A character outside ASCII that is no stray is in no string that is recognised. -/
theorem ofName?_foreign (mem : c ∈ s.toList) (foreign : 128 ≤ c.toNat) (other : c ∉ strays) :
    ofName? s = none := by
  cases found : ofName? s with
  | none => rfl
  | some m => exact absurd ((ofName?_eq_some_iff.1 found).mem_strays mem foreign) other

/-- What is recognised and no spelling is POST or OPTIONS with a stray. -/
theorem ofName?_astray (found : ofName? s = some m) (other : ¬ IsSpelling m s.toList) :
    (m = .post ∨ m = .options) ∧ ∃ c ∈ s.toList, c ∈ strays := by
  have stray : ∃ c ∈ s.toList, c ∈ strays := by
    by_contra none
    push Not at none
    exact other ((ofName?_of_no_stray none).1 found)
  obtain ⟨c, mem, isStray⟩ := stray
  exact ⟨name_of_stray m c isStray ((ofName?_eq_some_iff.1 found).infix_name mem),
    c, mem, isStray⟩

end Vigil.Method

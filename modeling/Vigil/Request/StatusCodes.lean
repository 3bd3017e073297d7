/-!
# Sets of status codes

A set of 16-bit codes in ascending order, each once, so equal sets are equal values.
-/

set_option autoImplicit false

namespace Vigil

/-- A finite set of status codes, ascending. -/
structure StatusCodes where
  codes : List UInt16
  ascending : codes.Pairwise (· < ·)

namespace StatusCodes

instance : DecidableEq StatusCodes := fun a b =>
  if h : a.codes = b.codes then
    isTrue (by cases a; cases b; cases h; rfl)
  else
    isFalse fun e => h (by rw [e])

/-- The set without codes. -/
def empty : StatusCodes := ⟨[], .nil⟩

instance : Inhabited StatusCodes := ⟨empty⟩

/-- Puts a code where it belongs. -/
def insertCode (c : UInt16) : List UInt16 → List UInt16
  | [] => [c]
  | d :: r => if c < d then c :: d :: r else if c = d then d :: r else d :: insertCode c r

theorem mem_insertCode {c x : UInt16} {l : List UInt16} :
    x ∈ insertCode c l ↔ x = c ∨ x ∈ l := by
  induction l with
  | nil => simp [insertCode]
  | cons d r ih =>
    unfold insertCode
    split
    · simp
    · split
      · next h => simp [h]
      · simp only [List.mem_cons, ih]
        constructor <;> (rintro (h | h | h) <;> simp [h])

theorem ascending_insertCode (c : UInt16) {l : List UInt16} (h : l.Pairwise (· < ·)) :
    (insertCode c l).Pairwise (· < ·) := by
  induction l with
  | nil => simp [insertCode]
  | cons d r ih =>
    obtain ⟨hd, hr⟩ := List.pairwise_cons.1 h
    unfold insertCode
    split
    · next hlt =>
      refine List.pairwise_cons.2 ⟨fun e he => ?_, h⟩
      rcases List.mem_cons.1 he with rfl | he
      · exact hlt
      · exact UInt16.lt_trans hlt (hd e he)
    · next hlt =>
      split
      · exact h
      · next hne =>
        refine List.pairwise_cons.2 ⟨fun e he => ?_, ih hr⟩
        rcases mem_insertCode.1 he with rfl | he
        · have h1 : ¬ e.toNat < d.toNat := hlt
          have h2 : e.toNat ≠ d.toNat := fun h => hne (UInt16.toNat_inj.1 h)
          exact show d.toNat < e.toNat by omega
        · exact hd e he

/-- The set with one more code. -/
def insert (s : StatusCodes) (c : UInt16) : StatusCodes :=
  ⟨insertCode c s.codes, ascending_insertCode c s.ascending⟩

/-- The set of the codes of a list. -/
def ofList (l : List UInt16) : StatusCodes := l.foldl insert empty

/-- Whether a code is in the set. -/
def contains (s : StatusCodes) (c : UInt16) : Bool := s.codes.contains c

/-- Whether the set has no codes. -/
def isEmpty (s : StatusCodes) : Bool := s.codes.isEmpty

/-- The set of one code. -/
def single (c : UInt16) : StatusCodes := ⟨[c], by simp⟩

theorem contains_insert (s : StatusCodes) (c x : UInt16) :
    (s.insert c).contains x = true ↔ x = c ∨ s.contains x = true := by
  simp [contains, insert, mem_insertCode]

end StatusCodes

end Vigil

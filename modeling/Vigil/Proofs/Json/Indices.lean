import Vigil.Extraction.Path
import Vigil.Proofs.Text.Blank

/-!
# Indices in paths

A text denotes an index if it is, but for blanks around them, decimal digits of a number that fits
64 bits, with or without a plus sign. These texts are read as that index (`readIndex_eq_ok_iff`),
and any other is refused (`readIndex_eq_error_iff`).
-/

set_option autoImplicit false

namespace Vigil

namespace JsonPath

variable {text digits : List Char} {i : Nat} {fault : ExtractionFault}

/-- Decimal digits that are worth `i`, which fits 64 bits. -/
structure IsNumeral (digits : List Char) (i : Nat) : Prop where
  some : digits ≠ []
  decimal : ∀ c ∈ digits, c.isDigit = true
  worth : JsonPath.decimal digits = i
  fits : i < UInt64.size

/-- A text that is, but for blanks around it, this sign in front of digits that are worth `i`. -/
def Spells (sign text : List Char) (i : Nat) : Prop :=
  ∃ left digits right, text = left ++ (sign ++ digits) ++ right ∧ IsNumeral digits i ∧
    (∀ c ∈ left, Text.isBlank c = true) ∧ ∀ c ∈ right, Text.isBlank c = true

/-- A text that spells `i` without a sign or with a plus sign. -/
def Denotes (text : List Char) (i : Nat) : Prop := Spells [] text i ∨ Spells ['+'] text i

theorem IsNumeral.not_mem_plus (numeral : IsNumeral digits i) : '+' ∉ digits := by
  intro mem
  have digit := numeral.decimal '+' mem
  cases digit

theorem isNumeral_iff :
    IsNumeral digits i ↔
      (!digits.isEmpty && digits.all Char.isDigit && decide (decimal digits < UInt64.size)) = true ∧
        decimal digits = i := by
  simp only [Bool.and_eq_true, Bool.not_eq_true', List.isEmpty_eq_false_iff, List.all_eq_true,
    decide_eq_true_eq]
  constructor
  · rintro ⟨some, decimal, rfl, fits⟩
    exact ⟨⟨⟨some, decimal⟩, fits⟩, rfl⟩
  · rintro ⟨⟨⟨some, decimal⟩, fits⟩, rfl⟩
    exact ⟨some, decimal, rfl, fits⟩

theorem unsigned?_eq_some_iff :
    unsigned? text = some i ↔
      IsNumeral text i ∨ ∃ digits, text = '+' :: digits ∧ IsNumeral digits i := by
  unfold unsigned?
  split
  · next digits =>
    simp only [Option.ite_none_right_eq_some, Option.some.injEq, ← isNumeral_iff]
    constructor
    · exact fun numeral => .inr ⟨digits, rfl, numeral⟩
    · rintro (numeral | ⟨_, ⟨⟩, numeral⟩)
      · exact absurd List.mem_cons_self numeral.not_mem_plus
      · exact numeral
  · next unsigned =>
    simp only [Option.ite_none_right_eq_some, Option.some.injEq, ← isNumeral_iff]
    constructor
    · exact .inl
    · rintro (numeral | ⟨digits, rfl, -⟩)
      · exact numeral
      · exact absurd rfl (unsigned digits)

theorem isNumeral_toDigits (small : i < UInt64.size) : IsNumeral (Nat.toDigits 10 i) i where
  some := by
    obtain ⟨c, cs, digits, -⟩ := Digits.toDigits_eq_cons i
    rw [digits]
    exact List.cons_ne_nil c cs
  decimal c mem := Digits.isDigit_of_mem mem
  worth := Digits.worth_toDigits i
  fits := small

theorem IsNumeral.blankless (numeral : IsNumeral digits i) :
    ∀ c ∈ digits, Text.isBlank c = false :=
  fun c mem => Text.not_blank_of_isDigit (numeral.decimal c mem)

/-- What is left of a text that spells an index when blanks are trimmed off. -/
theorem trimChars_of_spelled {sign left right : List Char} (numeral : IsNumeral digits i)
    (signed : ∀ c ∈ sign, Text.isBlank c = false) (blankLeft : ∀ c ∈ left, Text.isBlank c = true)
    (blankRight : ∀ c ∈ right, Text.isBlank c = true) :
    Text.trimChars (left ++ (sign ++ digits) ++ right) = sign ++ digits := by
  have blankless : ∀ c ∈ sign ++ digits, Text.isBlank c = false :=
    List.forall_mem_append.2 ⟨signed, numeral.blankless⟩
  have some : sign ++ digits ≠ [] := List.append_ne_nil_of_right_ne_nil sign numeral.some
  exact Text.trimChars_append blankLeft blankRight some
    (fun c mem => blankless c (List.mem_of_mem_head? mem))
    fun c mem => blankless c (List.mem_of_mem_getLast? mem)

/-- **The texts that are read as an index** are those that denote one. -/
theorem readIndex_eq_ok_iff : readIndex text = .ok i ↔ Denotes text i := by
  have read : readIndex text = .ok i ↔ unsigned? (Text.trimChars text) = some i := by
    unfold readIndex
    split
    · next j spelled =>
      rw [spelled, Except.ok.injEq, Option.some.injEq]
    · next none =>
      rw [none]
      exact iff_of_false nofun nofun
  rw [read]
  constructor
  · intro spelled
    obtain ⟨left, right, whole, blankLeft, blankRight⟩ := Text.exists_eq_append_trimChars text
    rcases unsigned?_eq_some_iff.1 spelled with numeral | ⟨digits, signed, numeral⟩
    · exact .inl ⟨left, _, right, whole, numeral, blankLeft, blankRight⟩
    · rw [signed] at whole
      exact .inr ⟨left, digits, right, whole, numeral, blankLeft, blankRight⟩
  · rintro (⟨left, digits, right, rfl, numeral, blankLeft, blankRight⟩ |
      ⟨left, digits, right, rfl, numeral, blankLeft, blankRight⟩)
    · rw [trimChars_of_spelled numeral (List.forall_mem_nil _) blankLeft blankRight]
      exact unsigned?_eq_some_iff.2 (.inl numeral)
    · rw [trimChars_of_spelled numeral (List.forall_mem_singleton.2 rfl) blankLeft blankRight]
      exact unsigned?_eq_some_iff.2 (.inr ⟨digits, rfl, numeral⟩)

theorem readIndex_toDigits (small : i < UInt64.size) : readIndex (Nat.toDigits 10 i) = .ok i :=
  readIndex_eq_ok_iff.2 (.inl ⟨[], _, [], (List.append_nil _).symm, isNumeral_toDigits small,
    List.forall_mem_nil _, List.forall_mem_nil _⟩)

theorem Denotes.lt (denotes : Denotes text i) : i < UInt64.size := by
  rcases denotes with ⟨left, digits, right, -, numeral, -⟩ | ⟨left, digits, right, -, numeral, -⟩
  · exact numeral.fits
  · exact numeral.fits

theorem readIndex_eq_error_iff :
    readIndex text = .error fault ↔
      (¬ ∃ i, Denotes text i) ∧ fault = .invalidIndex (String.ofList text) := by
  cases read : readIndex text with
  | ok i =>
    refine iff_of_false nofun ?_
    rintro ⟨none, -⟩
    exact none ⟨i, readIndex_eq_ok_iff.1 read⟩
  | error reported =>
    have none : ¬ ∃ i, Denotes text i := by
      rintro ⟨i, denotes⟩
      rw [readIndex_eq_ok_iff.2 denotes] at read
      cases read
    have named : reported = .invalidIndex (String.ofList text) := by
      unfold readIndex at read
      split at read
      · cases read
      · exact (Except.error.inj read).symm
    rw [Except.error.injEq, named]
    exact ⟨fun same => ⟨none, same.symm⟩, fun ⟨_, same⟩ => same.symm⟩

/-- Only digits, blanks and a sign stand in a text that spells an index. -/
theorem Spells.cases_of_mem {sign : List Char} {c : Char} (spells : Spells sign text i)
    (mem : c ∈ text) : c ∈ sign ∨ Text.isBlank c = true ∨ c.isDigit = true := by
  obtain ⟨left, digits, right, rfl, numeral, blankLeft, blankRight⟩ := spells
  simp only [List.mem_append] at mem
  rcases mem with (mem | mem | mem) | mem
  · exact .inr (.inl (blankLeft c mem))
  · exact .inl mem
  · exact .inr (.inr (numeral.decimal c mem))
  · exact .inr (.inl (blankRight c mem))

theorem Denotes.not_mem_bracket (denotes : Denotes text i) : '[' ∉ text := by
  intro mem
  rcases denotes with spells | spells
  all_goals
    rcases spells.cases_of_mem mem with sign | blank | digit
    · simp at sign
    · cases blank
    · cases digit

/-- The sign tells the two spellings apart. -/
theorem Denotes.spells_iff (denotes : Denotes text i) : Spells [] text i ↔ '+' ∉ text := by
  constructor
  · intro spells mem
    rcases spells.cases_of_mem mem with sign | blank | digit
    · cases sign
    · cases blank
    · cases digit
  · intro unsigned
    rcases denotes with spells | ⟨left, digits, right, rfl, -⟩
    · exact spells
    · exact absurd (by simp) unsigned

end JsonPath

end Vigil

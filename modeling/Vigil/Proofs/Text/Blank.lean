import Vigil.Proofs.Decimal.Digits
import Vigil.Text.Blank

/-!
# Texts without blanks at their ends

Nothing is trimmed off a text that neither begins nor ends with a blank (`trimChars_of_ends`), and
blanks around it are (`trimChars_append`, `exists_eq_append_trimChars`). Digits are no blanks.
-/

set_option autoImplicit false

namespace Vigil.Text

variable {c : Char} {cs left right : List Char}

theorem not_blank_of_isDigit (decimal : c.isDigit = true) : isBlank c = false := by
  have range := Digits.range_of_isDigit decimal
  simp only [isBlank, Bool.or_eq_false_iff, Bool.and_eq_false_iff, decide_eq_false_iff_not,
    beq_eq_false_iff_ne]
  omega

theorem dropWhile_blank_of_head (front : ∀ c ∈ cs.head?, isBlank c = false) :
    cs.dropWhile isBlank = cs := by
  cases cs with
  | nil => rfl
  | cons c cs =>
    apply List.dropWhile_cons_of_neg
    rw [front c rfl]
    exact Bool.false_ne_true

theorem trimChars_of_ends (front : ∀ c ∈ cs.head?, isBlank c = false)
    (back : ∀ c ∈ cs.getLast?, isBlank c = false) : trimChars cs = cs := by
  have turned : ∀ c ∈ cs.reverse.head?, isBlank c = false := by
    rw [List.head?_reverse]
    exact back
  unfold trimChars
  rw [dropWhile_blank_of_head front, dropWhile_blank_of_head turned, List.reverse_reverse]

/-- Blanks around a text are trimmed off. -/
theorem trimChars_append (blankLeft : ∀ c ∈ left, isBlank c = true)
    (blankRight : ∀ c ∈ right, isBlank c = true) (some : cs ≠ [])
    (front : ∀ c ∈ cs.head?, isBlank c = false) (back : ∀ c ∈ cs.getLast?, isBlank c = false) :
    trimChars (left ++ cs ++ right) = cs := by
  have first : ∀ c ∈ (cs ++ right).head?, isBlank c = false := by
    obtain ⟨d, ds, rfl⟩ := List.exists_cons_of_ne_nil some
    exact front
  have last : ∀ c ∈ cs.reverse.head?, isBlank c = false := by
    rw [List.head?_reverse]
    exact back
  have turned : ∀ c ∈ right.reverse, isBlank c = true := fun c mem =>
    blankRight c (List.mem_reverse.1 mem)
  unfold trimChars
  rw [List.append_assoc, List.dropWhile_append_of_pos blankLeft, dropWhile_blank_of_head first,
    List.reverse_append, List.dropWhile_append_of_pos turned, dropWhile_blank_of_head last,
    List.reverse_reverse]

/-- What is trimmed off a text are blanks. -/
theorem exists_eq_append_trimChars (cs : List Char) :
    ∃ left right, cs = left ++ trimChars cs ++ right ∧ (∀ c ∈ left, isBlank c = true) ∧
      ∀ c ∈ right, isBlank c = true := by
  refine ⟨cs.takeWhile isBlank, ((cs.dropWhile isBlank).reverse.takeWhile isBlank).reverse, ?_,
    List.all_eq_true.1 List.all_takeWhile, fun c mem => ?_⟩
  · unfold trimChars
    rw [List.append_assoc, ← List.reverse_append, List.takeWhile_append_dropWhile,
      List.reverse_reverse, List.takeWhile_append_dropWhile]
  · exact List.all_eq_true.1 List.all_takeWhile c (List.mem_reverse.1 mem)

end Vigil.Text

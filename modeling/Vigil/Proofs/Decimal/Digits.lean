/-!
# Decimal digits

What a row of decimal digits is worth, the digits being characters or bytes. What is read digit by
digit never gets smaller (`le_worth`), and the digits that a number is written with are worth that
number (`worth_toDigits`).
-/

set_option autoImplicit false

namespace Vigil.Digits

variable {α : Type}

/-- What digits are worth behind others that are worth `before`. -/
def worth (digit : α → Nat) (before : Nat) (digits : List α) : Nat :=
  digits.foldl (fun n d => n * 10 + digit d) before

theorem worth_nil (digit : α → Nat) (before : Nat) : worth digit before [] = before := rfl

theorem worth_cons (digit : α → Nat) (before : Nat) (d : α) (digits : List α) :
    worth digit before (d :: digits) = worth digit (before * 10 + digit d) digits := rfl

theorem le_worth (digit : α → Nat) (before : Nat) (digits : List α) :
    before ≤ worth digit before digits := by
  induction digits generalizing before with
  | nil => exact Nat.le_refl _
  | cons d digits ih =>
    have later := ih (before * 10 + digit d)
    rw [worth_cons]
    omega

theorem worth_map {β : Type} (digit : α → Nat) (f : β → α) (before : Nat) (digits : List β) :
    worth digit before (digits.map f) = worth (digit ∘ f) before digits :=
  List.foldl_map

theorem worth_congr {f g : α → Nat} {before : Nat} {digits : List α}
    (same : ∀ d ∈ digits, f d = g d) : worth f before digits = worth g before digits := by
  induction digits generalizing before with
  | nil => rfl
  | cons d digits ih =>
    rw [worth_cons, worth_cons, same d List.mem_cons_self,
      ih fun x mem => same x (List.mem_cons_of_mem d mem)]

/-- The value of a character that is a digit. -/
def ofChar (c : Char) : Nat := c.toNat - 48

theorem worth_toDigits (n : Nat) : worth ofChar 0 (Nat.toDigits 10 n) = n := by
  have steps : (fun (m : Nat) (c : Char) => m * 10 + ofChar c) =
      fun m c => 10 * m + (c.toNat - '0'.toNat) := by
    funext m c
    rw [Nat.mul_comm]
    rfl
  unfold worth
  rw [steps, ← Nat.ofDigitChars_eq_foldl]
  exact Nat.ofDigitChars_ten_toDigits

theorem range_of_isDigit {c : Char} (decimal : c.isDigit = true) :
    48 ≤ c.toNat ∧ c.toNat ≤ 57 := by
  simpa [Char.isDigit, UInt32.le_iff_toNat_le] using decimal

theorem isDigit_of_mem {n : Nat} {c : Char} (mem : c ∈ Nat.toDigits 10 n) : c.isDigit = true :=
  Nat.isDigit_of_mem_toDigits (by decide) (by decide) mem

/-- A number is written with some digits, the first of which is no nought unless it is the only
one. -/
theorem toDigits_eq_cons (n : Nat) :
    ∃ c cs, Nat.toDigits 10 n = c :: cs ∧ (c = '0' → n = 0) := by
  induction n using Nat.strongRecOn with
  | ind n ih =>
    by_cases small : n < 10
    · refine ⟨n.digitChar, [], Nat.toDigits_of_lt_base small, fun nought => ?_⟩
      have each : ∀ n : Fin 10, n.val.digitChar = '0' → n.val = 0 := by decide
      exact each ⟨n, small⟩ nought
    · obtain ⟨c, cs, digits, first⟩ := ih (n / 10) (by omega)
      refine ⟨c, cs ++ [(n % 10).digitChar], ?_, fun nought => ?_⟩
      · rw [Nat.toDigits_of_base_le (by decide) (Nat.le_of_not_lt small), digits]
        rfl
      · have none := first nought
        omega

end Vigil.Digits

import Vigil.Proofs.Decimal.Digits
import Vigil.Proofs.Json.Strings

/-!
# Whole numbers

A whole number below `2 ^ 64` is read back from its digits (`takes_number_nat`), if what follows
them is not taken for more of it. Behind a minus sign its digits are read in the same way
(`takes_numeral`); what is made of them then is `whole`.
-/

set_option autoImplicit false

namespace Vigil.Json

namespace Reader

variable {behind : List UInt8 → Prop} {b : UInt8} {rest : List UInt8} {n : Nat}

/-- What may be left behind a number. -/
def EndsNumber (rest : List UInt8) : Prop :=
  ∀ b ∈ rest.head?, isDigit b = false ∧ b ≠ 46 ∧ b ≠ 101 ∧ b ≠ 69

theorem endsNumber_of_closes (closes : Closes rest) : EndsNumber rest := by
  intro b mem
  rcases closes b mem with rfl | rfl | rfl
  all_goals decide

/-! ## Bytes of digits -/

/-- The bytes of the digits of a number. -/
def digitBytes (n : Nat) : List UInt8 := (Nat.toDigits 10 n).map fun c => UInt8.ofNat c.toNat

theorem toNat_of_isDigit {c : Char} (decimal : c.isDigit = true) :
    (UInt8.ofNat c.toNat).toNat = c.toNat ∧ 48 ≤ c.toNat ∧ c.toNat ≤ 57 := by
  have range := Digits.range_of_isDigit decimal
  exact ⟨UInt8.toNat_ofNat_of_lt' (Nat.lt_of_le_of_lt range.2 (by decide)), range⟩

theorem utf8_of_ascii {cs : List Char} (ascii : ∀ c ∈ cs, c.toNat < 128) :
    utf8 cs = cs.map fun c => UInt8.ofNat c.toNat := by
  induction cs with
  | nil => rfl
  | cons c cs ih =>
    rw [utf8_cons, Text.utf8EncodeChar_of_lt (ascii c List.mem_cons_self),
      ih fun d mem => ascii d (List.mem_cons_of_mem c mem)]
    rfl

theorem utf8_toDigits (n : Nat) : utf8 (Nat.toDigits 10 n) = digitBytes n := by
  apply utf8_of_ascii
  intro c mem
  have range := (toNat_of_isDigit (Digits.isDigit_of_mem mem)).2
  omega

theorem bytes_nat (n : Nat) : Json.bytes (.nat n) = digitBytes n := by
  have text : (Number.int n).text.toList = Nat.toDigits 10 n := Nat.toList_repr
  unfold Json.bytes Json.nat chars
  rw [text, utf8_toDigits]

theorem isDigit_of_mem_digitBytes (mem : b ∈ digitBytes n) : isDigit b = true := by
  obtain ⟨c, char, rfl⟩ := List.mem_map.1 mem
  obtain ⟨value, least, most⟩ := toNat_of_isDigit (Digits.isDigit_of_mem char)
  have low : (48 : UInt8) ≤ UInt8.ofNat c.toNat := by
    rw [UInt8.le_iff_toNat_le, value]
    exact least
  have high : UInt8.ofNat c.toNat ≤ (57 : UInt8) := by
    rw [UInt8.le_iff_toNat_le, value]
    exact most
  unfold isDigit
  rw [decide_eq_true low, decide_eq_true high]
  rfl

theorem worth_digitBytes (n : Nat) : Digits.worth digit 0 (digitBytes n) = n := by
  have same : ∀ c ∈ Nat.toDigits 10 n, (digit ∘ fun c => UInt8.ofNat c.toNat) c =
      Digits.ofChar c := by
    intro c mem
    show (UInt8.ofNat c.toNat).toNat - 48 = c.toNat - 48
    rw [(toNat_of_isDigit (Digits.isDigit_of_mem mem)).1]
  unfold digitBytes
  rw [Digits.worth_map, Digits.worth_congr same, Digits.worth_toDigits]

/-- The bytes of a number begin with a digit, which is no nought unless it is the only one. -/
theorem digitBytes_eq_cons (n : Nat) :
    ∃ b bs, digitBytes n = b :: bs ∧ (b = 48 → n = 0) := by
  obtain ⟨c, cs, digits, first⟩ := Digits.toDigits_eq_cons n
  have mem : c ∈ Nat.toDigits 10 n := by
    rw [digits]
    exact List.mem_cons_self
  refine ⟨UInt8.ofNat c.toNat, cs.map fun c => UInt8.ofNat c.toNat, ?_, fun nought => first ?_⟩
  · unfold digitBytes
    rw [digits]
    rfl
  · have value := (toNat_of_isDigit (Digits.isDigit_of_mem mem)).1
    rw [nought] at value
    exact Char.toNat_inj.1 value.symm

theorem isBlank_of_isDigit (decimal : isDigit b = true) : Cursor.isBlank b = false := by
  have low : (48 : UInt8) ≤ b := by
    unfold isDigit at decimal
    exact of_decide_eq_true (Bool.and_eq_true_iff.1 decimal).1
  rw [UInt8.le_iff_toNat_le] at low
  unfold Cursor.isBlank
  simp only [Bool.or_eq_false_iff, decide_eq_false_iff_not]
  refine ⟨⟨⟨?_, ?_⟩, ?_⟩, ?_⟩
  all_goals
    rintro rfl
    exact absurd low (by decide)

/-! ## Reading them -/

theorem takes_digits {ds : List UInt8} (all : ∀ b ∈ ds, isDigit b = true) :
    Takes digits (fun rest => ∀ b ∈ rest.head?, isDigit b = false) ds ds := by
  intro c rest here ends
  have none : rest.takeWhile isDigit = [] ∧ rest.dropWhile isDigit = rest := by
    cases rest with
    | nil => exact ⟨rfl, rfl⟩
    | cons b rest =>
      have other := ends b rfl
      exact ⟨List.takeWhile_cons_of_neg (by rw [other]; exact Bool.false_ne_true),
        List.dropWhile_cons_of_neg (by rw [other]; exact Bool.false_ne_true)⟩
  refine ⟨⟨c.line, c.column + ds.length, rest⟩, ?_, rfl⟩
  unfold digits
  rw [here, List.takeWhile_append_of_pos all, List.dropWhile_append_of_pos all, none.1, none.2,
    List.append_nil]

theorem keepDigits_eq (ds : List UInt8) (before used : Nat)
    (small : Digits.worth digit before ds < UInt64.size) :
    keepDigits ds before used = (Digits.worth digit before ds, used + ds.length) := by
  induction ds generalizing before used with
  | nil => rfl
  | cons b ds ih =>
    have fits : before * 10 + digit b < UInt64.size :=
      Nat.lt_of_le_of_lt (Digits.le_worth digit _ ds) small
    unfold keepDigits
    rw [if_pos fits, ih _ _ small, Digits.worth_cons, List.length_cons, Nat.add_right_comm]
    rfl

/-- What is made of the digits of a number that has neither a point nor an exponent. -/
def whole (negative : Bool) (n : Nat) : Reader Number :=
  if negative then
    if n = 0 ∨ 0x8000000000000000 < n then float true ⟨n, 0⟩ else pure (.int (-(n : Int)))
  else pure (.int n)

theorem takes_numberEnd {negative : Bool} {x : Number}
    (made : Takes (whole negative n) EndsNumber [] x) :
    Takes (numberEnd negative ⟨n, 0⟩) EndsNumber [] x := by
  intro c rest here ends
  obtain ⟨c', made, left⟩ := made c rest here ends
  refine ⟨c', ?_, left⟩
  rw [← made]
  unfold numberEnd
  rw [peek_bind, here, List.nil_append]
  simp only [ne_eq, not_true_eq_false, if_false]
  refine congrFun (?_ : _ = whole negative n) c
  split
  · exact absurd rfl (ends 46 ‹_›).2.1
  · exact absurd rfl (ends 101 ‹_›).2.2.1
  · exact absurd rfl (ends 69 ‹_›).2.2.2
  · rfl

/-- A number is read behind its sign from its digits. -/
theorem takes_numeral {negative : Bool} {x : Number} (small : n < UInt64.size)
    (made : Takes (whole negative n) EndsNumber [] x) :
    Takes (number negative) EndsNumber (digitBytes n) x := by
  obtain ⟨b, bs, eq, first⟩ := digitBytes_eq_cons n
  have all := fun x (mem : x ∈ digitBytes n) => isDigit_of_mem_digitBytes mem
  have value := worth_digitBytes n
  rw [eq] at all value ⊢
  rw [Digits.worth_cons, Nat.zero_mul, Nat.zero_add] at value
  unfold number
  refine (takes_next b).andThen ?_
  by_cases nought : b = 48
  · obtain rfl := first nought
    have none : bs = [] := by
      have digits : digitBytes 0 = [48] := rfl
      rw [digits] at eq
      exact (List.cons.inj eq).2.symm
    rw [none]
    simp only [if_pos nought]
    intro c rest here ends
    rw [peek_bind, here, List.nil_append]
    have goesOn := takes_numberEnd made c rest here ends
    cases rest with
    | nil => exact goesOn
    | cons d rest =>
      have other := (ends d rfl).1
      simp only [List.head?_cons, other]
      exact goesOn
  · simp only [if_neg nought, all b List.mem_cons_self, if_pos]
    have read := takes_digits fun x mem => all x (List.mem_cons_of_mem b mem)
    have kept : keepDigits bs (digit b) 0 = (n, bs.length) := by
      rw [keepDigits_eq bs (digit b) 0 (by rw [value]; exact small), value, Nat.zero_add]
    have all_kept : (bs.length : Int) - (bs.length : Nat) = 0 := Int.sub_self _
    have ends := read.weaken fun rest (ends : EndsNumber rest) d mem => (ends d mem).1
    refine ends.finish ?_
    rw [kept, all_kept]
    exact takes_numberEnd made

/-- **Whole numbers.** -/
theorem takes_number_nat (small : n < UInt64.size) :
    Takes (number false) EndsNumber (digitBytes n) (.int n) :=
  takes_numeral small (.pure (Number.int n))

/-- A whole number below a bound that fits 64 bits. -/
theorem reads_natBelow {bound : Nat} (expected : String) (below : n < bound)
    (fits : bound ≤ UInt64.size) : Reads (natBelow bound expected) (.nat n) n := by
  obtain ⟨b, bs, eq, -⟩ := digitBytes_eq_cons n
  have decimal : isDigit b = true := by
    apply isDigit_of_mem_digitBytes (n := n)
    rw [eq]
    exact List.mem_cons_self
  have visible : Cursor.isBlank b = false := isBlank_of_isDigit decimal
  have other : ∀ x : UInt8, isDigit x = false → b ≠ x := by
    rintro x none rfl
    rw [decimal] at none
    cases none
  have minus : b ≠ 45 := other 45 (by decide)
  have first : ∀ rest, Next b (digitBytes n ++ rest) := by
    intro rest
    rw [eq]
    rfl
  refine ⟨?_, b, bs, (bytes_nat n).trans eq, visible, other 93 (by decide)⟩
  rw [bytes_nat]
  refine (takes_opening visible).looking ?_ fun rest _ => first rest
  rw [if_pos (.inr decimal), if_neg minus, decide_eq_false minus]
  have number := takes_number_nat (Nat.lt_of_lt_of_le below fits)
  refine (number.weaken fun _ => endsNumber_of_closes).finish ?_
  have range : 0 ≤ (n : Int) ∧ (n : Int) < bound := ⟨Int.natCast_nonneg n, Int.ofNat_lt.2 below⟩
  simp only [if_pos range]
  exact .pure n

end Reader

end Vigil.Json

import Vigil.Duration.Text
import Vigil.Proofs.Text.Blank

/-!
# Reading durations back

A duration is read back from its written form (`parse_text`). The written form is a row of items,
each a count and a unit; reading adds them up (`Adds.read`), and what they add up to is the duration
(`adds_items`).
-/

set_option autoImplicit false

namespace Vigil

namespace Duration

/-- The name of a unit, as a reader of durations takes it. -/
structure Names (name : String) (u : TimeUnit) : Prop where
  known : TimeUnit.ofName? name = some u
  nonempty : name.toList ≠ []
  letters : name.toList.all isUnitChar = true

/-- Adding up items leads from one span to another. -/
inductive Adds : Duration → List String → Duration → Prop where
  | nil (t : Duration) : Adds t [] t
  | cons {t t' t'' : Duration} {count : Nat} {name : String} {u : TimeUnit} {items : List String}
      (fits : count < 0x10000000000000000) (names : Names name u)
      (adds : addSteps t count u.grain = .ok t') (others : Adds t' items t'') :
      Adds t ((toString count ++ name) :: items) t''

variable {t t' t'' d : Duration} {items more : List String} {offset count k n : Nat}
  {name : String} {u : TimeUnit} {r : List Char} {c : Char}

theorem Adds.append (first : Adds t items t') (then_ : Adds t' more t'') :
    Adds t (items ++ more) t'' := by
  induction first with
  | nil => exact then_
  | cons fits names adds _ ih => exact .cons fits names adds (ih then_)

/-! ## One item -/

/-- A letter of a unit is no digit and no blank. -/
theorem of_isUnitChar (letter : isUnitChar c = true) :
    c.isDigit = false ∧ Text.isBlank c = false := by
  have range : (65 ≤ c.toNat ∧ c.toNat ≤ 90 ∨ 97 ≤ c.toNat ∧ c.toNat ≤ 122) ∨ c.toNat = 181 := by
    have micro : c = 'µ' → c.toNat = 181 := by
      rintro rfl
      rfl
    have either : (decide (c.val ≥ 65 ∧ c.val ≤ 90) ||
        (decide (c.val ≥ 97) && decide (c.val ≤ 122)) || c == 'µ') = true := letter
    simp only [Bool.or_eq_true, Bool.and_eq_true, decide_eq_true_eq, beq_iff_eq, ge_iff_le,
      UInt32.le_iff_toNat_le] at either
    exact either.imp_right micro
  refine ⟨?_, ?_⟩
  · rw [← Bool.not_eq_true]
    intro decimal
    have digit := Digits.range_of_isDigit decimal
    omega
  · simp only [Text.isBlank, Bool.or_eq_false_iff, Bool.and_eq_false_iff, decide_eq_false_iff_not,
      beq_eq_false_iff_ne]
    omega

theorem read_digit (decimal : c.isDigit = true) :
    read t offset .seek (c :: r) = read t (offset + c.utf8Size) (.whole (digitValue c)) r :=
  if_pos decimal

theorem read_whole_digit (decimal : c.isDigit = true)
    (small : n * 10 + digitValue c < 0x10000000000000000) :
    read t offset (.whole n) (c :: r) =
      read t (offset + c.utf8Size) (.whole (n * 10 + digitValue c)) r := by
  have counted : fits (n * 10 + digitValue c) = .ok (n * 10 + digitValue c) := if_pos small
  refine (if_pos decimal).trans ?_
  rw [counted]

theorem read_whole_letter (letter : isUnitChar c = true) :
    read t offset (.whole n) (c :: r) = read t (offset + c.utf8Size) (.unit n none [c]) r := by
  obtain ⟨digit, blank⟩ := of_isUnitChar letter
  have step : read t offset (.whole n) (c :: r) =
      if Text.isBlank c then read t (offset + c.utf8Size) (.whole n) r
      else if isUnitChar c then read t (offset + c.utf8Size) (.unit n none [c]) r
      else if c == '.' then read t (offset + c.utf8Size) (.decimals n ⟨0, 1⟩ offset) r
      else .error (.invalidCharacter offset) :=
    if_neg (by rw [digit]; exact Bool.false_ne_true)
  rw [step, if_neg (by rw [blank]; exact Bool.false_ne_true), if_pos letter]

theorem read_unit_letter {done : List Char} (letter : isUnitChar c = true) :
    read t offset (.unit n none done) (c :: r) =
      read t (offset + c.utf8Size) (.unit n none (done ++ [c])) r :=
  if_pos letter

theorem read_digits {ds : List Char} (decimal : ∀ c ∈ ds, c.isDigit = true)
    (small : Digits.worth Digits.ofChar n ds < 0x10000000000000000) :
    ∃ offset', read t offset (.whole n) (ds ++ r) =
      read t offset' (.whole (Digits.worth Digits.ofChar n ds)) r := by
  induction ds generalizing n offset with
  | nil => exact ⟨offset, by rw [List.nil_append, Digits.worth_nil]⟩
  | cons c ds ih =>
    have small' : n * 10 + digitValue c < 0x10000000000000000 :=
      Nat.lt_of_le_of_lt (Digits.le_worth Digits.ofChar _ ds) small
    obtain ⟨offset', later⟩ := @ih (offset + c.utf8Size) (n * 10 + digitValue c)
      (fun x mem => decimal x (List.mem_cons_of_mem c mem)) small
    refine ⟨offset', ?_⟩
    rw [List.cons_append, read_whole_digit (decimal c List.mem_cons_self) small', later,
      Digits.worth_cons]
    rfl

theorem read_letters {letters done : List Char} (all : ∀ c ∈ letters, isUnitChar c = true) :
    ∃ offset', read t offset (.unit n none done) (letters ++ r) =
      read t offset' (.unit n none (done ++ letters)) r := by
  induction letters generalizing done offset with
  | nil => exact ⟨offset, by rw [List.nil_append, List.append_nil]⟩
  | cons c letters ih =>
    obtain ⟨offset', later⟩ := @ih (offset + c.utf8Size) (done ++ [c])
      fun x mem => all x (List.mem_cons_of_mem c mem)
    refine ⟨offset', ?_⟩
    rw [List.cons_append, read_unit_letter (all c List.mem_cons_self), later, ← List.append_cons]

/-- An item up to what ends the name of its unit. -/
theorem read_count (small : count < 0x10000000000000000) (names : Names name u) :
    ∃ offset', read t offset .seek ((toString count ++ name).toList ++ r) =
      read t offset' (.unit count none name.toList) r := by
  obtain ⟨c, cs, digits, -⟩ := Digits.toDigits_eq_cons count
  obtain ⟨l, letters, spelled⟩ := List.exists_cons_of_ne_nil names.nonempty
  have text : (toString count ++ name).toList = c :: (cs ++ l :: letters) := by
    rw [String.toList_append, show toString count = count.repr from rfl, Nat.toList_repr, digits,
      spelled]
    rfl
  have decimal : ∀ x ∈ c :: cs, x.isDigit = true :=
    fun x mem => Digits.isDigit_of_mem (n := count) (by rw [digits]; exact mem)
  have letter : ∀ x ∈ l :: letters, isUnitChar x = true :=
    fun x mem => List.all_eq_true.1 names.letters x (by rw [spelled]; exact mem)
  have worth : Digits.worth Digits.ofChar (digitValue c) cs = count := by
    have whole := Digits.worth_toDigits count
    rw [digits, Digits.worth_cons, Nat.zero_mul, Nat.zero_add] at whole
    exact whole
  obtain ⟨o₁, number⟩ := @read_digits t (offset + c.utf8Size) (digitValue c)
    (l :: letters ++ r) cs (fun x mem => decimal x (List.mem_cons_of_mem c mem))
    (by rw [worth]; exact small)
  obtain ⟨o₂, unit⟩ := @read_letters t (o₁ + l.utf8Size) count r letters [l]
    fun x mem => letter x (List.mem_cons_of_mem l mem)
  refine ⟨o₂, ?_⟩
  rw [text, List.cons_append, read_digit (decimal c List.mem_cons_self), List.append_assoc, number,
    worth, List.cons_append, read_whole_letter (letter l List.mem_cons_self), unit, spelled]
  rfl

theorem addItem_eq (names : Names name u) (adds : addSteps t count u.grain = .ok t') :
    addItem t count none name.toList = .ok t' := by
  unfold addItem
  rw [String.ofList_toList, names.known]
  show (addSteps t count u.grain).bind _ = _
  rw [adds]
  rfl

theorem read_last (small : count < 0x10000000000000000) (names : Names name u)
    (adds : addSteps t count u.grain = .ok t') :
    read t offset .seek (toString count ++ name).toList = .ok t' := by
  obtain ⟨offset', item⟩ := @read_count t offset count name u [] small names
  rw [List.append_nil] at item
  rw [item]
  exact addItem_eq names adds

theorem read_item (small : count < 0x10000000000000000) (names : Names name u)
    (adds : addSteps t count u.grain = .ok t') :
    ∃ offset', read t offset .seek ((toString count ++ name).toList ++ ' ' :: r) =
      read t' offset' .seek r := by
  obtain ⟨offset', item⟩ := @read_count t offset count name u (' ' :: r) small names
  have letter : ¬ isUnitChar ' ' = true := Bool.false_ne_true
  have digit : ¬ ' '.isDigit = true := Bool.false_ne_true
  refine ⟨offset' + ' '.utf8Size, item.trans ?_⟩
  refine ((if_neg letter).trans ((if_neg digit).trans (if_pos rfl))).trans ?_
  rw [addItem_eq names adds]

/-! ## A row of items -/

/-- A row of items is read by adding them up. -/
theorem Adds.read (adds : Adds t items t') (some : items ≠ []) (offset : Nat) :
    read t offset .seek (" ".intercalate items).toList = .ok t' := by
  induction adds generalizing offset with
  | nil => exact absurd rfl some
  | @cons t t' t'' count name u items small names adds others ih =>
    cases items with
    | nil =>
      cases others
      rw [String.intercalate_singleton]
      exact read_last small names adds
    | cons item items =>
      obtain ⟨offset', first⟩ := @read_item t t' offset count name u
        (" ".intercalate (item :: items)).toList small names adds
      have split : (" ".intercalate ((toString count ++ name) :: item :: items)).toList =
          (toString count ++ name).toList ++ ' ' :: (" ".intercalate (item :: items)).toList := by
        rw [String.intercalate_cons_cons, String.toList_append, String.toList_append,
          List.append_assoc]
        rfl
      rw [split, first]
      exact ih (List.cons_ne_nil item items) offset'

/-! ## The items of a duration -/

theorem addSteps_nanos (small : count * k < 1_000_000_000) (sum : t'.nanos = t.nanos + count * k) :
    addSteps t count (.nanos k) = .ok t' := by
  have counted : fits (count * k) = .ok (count * k) := if_pos (by omega)
  have within : fits (t.subsec + count * k) = .ok (t.subsec + count * k) := by
    have part := t.subsec_lt
    exact if_pos (by omega)
  have span : ofNanos? (t.nanos + count * k) = some t' := by
    rw [← sum]
    exact dif_pos t'.bound
  unfold addSteps
  simp only [counted, within, span, bind, Except.bind]

theorem addSteps_seconds (sum : t'.nanos = t.nanos + count * k * 1_000_000_000) :
    addSteps t count (.seconds k) = .ok t' := by
  have bound := t'.bound
  have counted : fits (count * k) = .ok (count * k) := if_pos (by omega)
  have span : ofNanos? (t.nanos + count * k * 1_000_000_000) = some t' := by
    rw [← sum]
    exact dif_pos t'.bound
  show Except.bind (fits (count * k)) _ = _
  rw [counted, Except.bind, span]

/-- An item, left out if its count is zero. -/
theorem adds_item (names : Names name u) (small : count < 0x10000000000000000)
    (none : count = 0 → t' = t) (adds : addSteps t count u.grain = .ok t') :
    Adds t (item count name) t' := by
  unfold item
  by_cases zero : count = 0
  · rw [if_pos (beq_iff_eq.2 zero), none zero]
    exact .nil t
  · rw [if_neg (by rw [beq_iff_eq]; exact zero)]
    exact .cons small names adds (.nil t')

theorem adds_nanos (names : Names name u) (grain : u.grain = .nanos k) (positive : 0 < k)
    (small : count * k < 1_000_000_000) (sum : t'.nanos = t.nanos + count * k) :
    Adds t (item count name) t' := by
  have le : count ≤ count * k := Nat.le_mul_of_pos_right count positive
  refine adds_item names (by omega) (fun zero => ext ?_) ?_
  · rw [sum, zero, Nat.zero_mul, Nat.add_zero]
  · rw [grain]
    exact addSteps_nanos small sum

theorem adds_seconds (names : Names name u) (grain : u.grain = .seconds k) (positive : 0 < k)
    (sum : t'.nanos = t.nanos + count * k * 1_000_000_000) : Adds t (item count name) t' := by
  have le : count ≤ count * k := Nat.le_mul_of_pos_right count positive
  have bound := t'.bound
  refine adds_item names (by omega) (fun zero => ext ?_) ?_
  · rw [sum, zero, Nat.zero_mul, Nat.zero_mul, Nat.add_zero]
  · rw [grain]
    exact addSteps_seconds sum

theorem adds_spelled (one : Names name u) (many : Names (name ++ "s") u)
    (grain : u.grain = .seconds k) (positive : 0 < k)
    (sum : t'.nanos = t.nanos + count * k * 1_000_000_000) :
    Adds t (spelledItem count name) t' := by
  unfold spelledItem
  split
  · exact adds_seconds one grain positive sum
  · exact adds_seconds many grain positive sum

/-- A span that is no longer than another. -/
def shorter (d : Duration) (n : Nat) (le : n ≤ d.nanos) : Duration :=
  ⟨n, Nat.lt_of_le_of_lt le d.bound⟩

/-- The items of a duration add up to it. -/
theorem adds_items (d : Duration) : Adds zero d.items d := by
  let inYear := d.seconds % 31557600
  let inMonth := inYear % 2630016
  let inDay := inMonth % 86400
  -- what has been added up behind each of the items
  let years := d.seconds / 31557600 * 31557600 * 1_000_000_000
  let months := years + inYear / 2630016 * 2630016 * 1_000_000_000
  let days := months + inMonth / 86400 * 86400 * 1_000_000_000
  let hours := days + inDay / 3600 * 3600 * 1_000_000_000
  let minutes := hours + inDay % 3600 / 60 * 60 * 1_000_000_000
  let seconds := minutes + inDay % 60 * 1 * 1_000_000_000
  let millis := seconds + d.subsec / 1000000 * 1000000
  let micros := millis + d.subsec / 1000 % 1000 * 1000
  have whole : d.nanos = micros + d.subsec % 1000 * 1 := by
    have parts := d.seconds_add_subsec
    have part := d.subsec_lt
    simp only [micros, millis, seconds, minutes, hours, days, months, years, inDay, inMonth, inYear]
    omega
  have yearName : Names "year" .year := ⟨rfl, by decide, rfl⟩
  have yearsName : Names ("year" ++ "s") .year := ⟨rfl, by decide, rfl⟩
  have monthName : Names "month" .month := ⟨rfl, by decide, rfl⟩
  have monthsName : Names ("month" ++ "s") .month := ⟨rfl, by decide, rfl⟩
  have dayName : Names "day" .day := ⟨rfl, by decide, rfl⟩
  have daysName : Names ("day" ++ "s") .day := ⟨rfl, by decide, rfl⟩
  have yearItem : Adds zero (spelledItem (d.seconds / 31557600) "year")
      (d.shorter years (by omega)) :=
    adds_spelled yearName yearsName rfl (by decide) (Nat.zero_add _).symm
  have monthItem : Adds (d.shorter years (by omega)) (spelledItem (inYear / 2630016) "month")
      (d.shorter months (by omega)) :=
    adds_spelled monthName monthsName rfl (by decide) rfl
  have dayItem : Adds (d.shorter months (by omega)) (spelledItem (inMonth / 86400) "day")
      (d.shorter days (by omega)) :=
    adds_spelled dayName daysName rfl (by decide) rfl
  have hourItem : Adds (d.shorter days (by omega)) (item (inDay / 3600) "h")
      (d.shorter hours (by omega)) :=
    adds_seconds (u := .hour) ⟨rfl, by decide, rfl⟩ rfl (by decide) rfl
  have minuteItem : Adds (d.shorter hours (by omega)) (item (inDay % 3600 / 60) "m")
      (d.shorter minutes (by omega)) :=
    adds_seconds (u := .minute) ⟨rfl, by decide, rfl⟩ rfl (by decide) rfl
  have secondItem : Adds (d.shorter minutes (by omega)) (item (inDay % 60) "s")
      (d.shorter seconds (by omega)) :=
    adds_seconds (u := .second) ⟨rfl, by decide, rfl⟩ rfl (by decide) rfl
  have part := d.subsec_lt
  have milliItem : Adds (d.shorter seconds (by omega)) (item (d.subsec / 1000000) "ms")
      (d.shorter millis (by omega)) :=
    adds_nanos (u := .millisecond) ⟨rfl, by decide, rfl⟩ rfl (by decide) (by omega) rfl
  have microItem : Adds (d.shorter millis (by omega)) (item (d.subsec / 1000 % 1000) "us")
      (d.shorter micros (by omega)) :=
    adds_nanos (u := .microsecond) ⟨rfl, by decide, rfl⟩ rfl (by decide) (by omega) rfl
  have nanoItem : Adds (d.shorter micros (by omega)) (item (d.subsec % 1000) "ns") d :=
    adds_nanos (u := .nanosecond) ⟨rfl, by decide, rfl⟩ rfl (by decide) (by omega) whole
  exact (((((((yearItem.append monthItem).append dayItem).append hourItem).append minuteItem).append
    secondItem).append milliItem).append microItem).append nanoItem

/-! ## The whole text -/

/-- A text of at least two characters, without blanks at its ends. -/
def Trimmed (cs : List Char) : Prop :=
  ∃ first middle last, cs = first :: (middle ++ [last]) ∧ Text.isBlank first = false ∧
    Text.isBlank last = false

theorem Trimmed.trimChars {cs : List Char} (trimmed : Trimmed cs) : Text.trimChars cs = cs := by
  obtain ⟨first, middle, last, rfl, front, back⟩ := trimmed
  apply Text.trimChars_of_ends
  · rintro c ⟨⟩
    exact front
  · intro c mem
    rw [← List.cons_append, List.getLast?_concat] at mem
    cases mem
    exact back

theorem trimmed_item (names : Names name u) : Trimmed (toString count ++ name).toList := by
  obtain ⟨c, cs, digits, -⟩ := Digits.toDigits_eq_cons count
  have decimal : c.isDigit = true := Digits.isDigit_of_mem (n := count) (by rw [digits]; simp)
  have spelled := List.dropLast_concat_getLast names.nonempty
  have letter := List.all_eq_true.1 names.letters _ (List.getLast_mem names.nonempty)
  refine ⟨c, cs ++ name.toList.dropLast, name.toList.getLast names.nonempty, ?_,
    Text.not_blank_of_isDigit decimal, (of_isUnitChar letter).2⟩
  rw [String.toList_append, show toString count = count.repr from rfl, Nat.toList_repr, digits,
    List.append_assoc, spelled]
  rfl

theorem Trimmed.append {cs ds : List Char} (front : Trimmed cs) (back : Trimmed ds)
    (between : List Char) : Trimmed (cs ++ between ++ ds) := by
  obtain ⟨first, middle, last, rfl, begins, -⟩ := front
  obtain ⟨first', middle', last', rfl, -, ends⟩ := back
  exact ⟨first, middle ++ [last] ++ between ++ first' :: middle', last', by simp, begins, ends⟩

theorem Adds.trimmed (adds : Adds t items t') (some : items ≠ []) :
    Trimmed (" ".intercalate items).toList := by
  induction adds with
  | nil => exact absurd rfl some
  | @cons t t' t'' count name u items small names adds others ih =>
    cases items with
    | nil =>
      rw [String.intercalate_singleton]
      exact trimmed_item names
    | cons item items =>
      rw [String.intercalate_cons_cons, String.toList_append, String.toList_append]
      exact (trimmed_item names).append (ih (List.cons_ne_nil item items)) _

/-- **The written form.** A duration is read back from its written form. -/
theorem parse_text (d : Duration) : parse d.text = .ok d := by
  unfold text
  by_cases zero : d.isZero = true
  · rw [if_pos zero, isZero_iff.1 zero]
    rfl
  · rw [if_neg zero]
    have adds := adds_items d
    have some : d.items ≠ [] := by
      intro none
      rw [none] at adds
      cases adds
      exact zero rfl
    have trimmed := adds.trimmed some
    have read := adds.read some 0
    unfold parse
    simp only [trimmed.trimChars]
    obtain ⟨first, middle, last, cs, -, -⟩ := trimmed
    rw [cs] at read ⊢
    split
    · next eq => cases eq
    · next eq => simp at eq
    · exact read

end Duration

end Vigil

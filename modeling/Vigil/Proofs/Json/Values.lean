import Vigil.Proofs.Json.Containers
import Vigil.Proofs.Json.Nodes
import Vigil.Proofs.Json.Numbers

/-!
# Values that are read back

A value is read back from what is written for it (`reads_value`) if its brackets do not nest too
deep, the names of each object are in order, and its numbers are whole. A value that was read has
the first two properties, and so has each of its nodes (`ofBytes_within`, `ofBytes_inOrder`). The
third is about the digits: a number that fits 64 bits is written as it can be read, at both ends of
the signed and of the unsigned range (`reads_number`).
-/

set_option autoImplicit false

namespace Vigil.Json

/-! ## How deep brackets nest -/

/-- A value can be read with so much room for its brackets. -/
inductive Within : Nat → Json → Prop where
  | scalar {n : Nat} {v : Json} (noArray : ∀ items, v ≠ .array items)
      (noObject : ∀ ms, v ≠ .object ms) : Within (n + 1) v
  | array {n : Nat} {items : List Json} (each : ∀ v ∈ items, Within (n + 1) v) :
      Within (n + 2) (.array items)
  | object {n : Nat} {ms : List (String × Json)} (each : ∀ m ∈ ms, Within (n + 1) m.2) :
      Within (n + 2) (.object ms)

variable {n room : Nat} {v w : Json} {s : PathStep} {path : List PathStep}

/-- More room does no harm. -/
theorem Within.mono (within : Within n v) (le : n ≤ room) : Within room v := by
  induction within generalizing room with
  | scalar noArray noObject =>
    obtain ⟨m, rfl⟩ := Nat.exists_eq_add_of_le' (Nat.le_trans (Nat.le_add_left 1 _) le)
    exact .scalar noArray noObject
  | array each ih =>
    obtain ⟨m, rfl⟩ := Nat.exists_eq_add_of_le' (Nat.le_trans (Nat.le_add_left 2 _) le)
    exact .array fun v mem => ih v mem (by omega)
  | object each ih =>
    obtain ⟨m, rfl⟩ := Nat.exists_eq_add_of_le' (Nat.le_trans (Nat.le_add_left 2 _) le)
    exact .object fun m mem => ih m mem (by omega)

theorem Within.of_below (within : Within n v) (below : v.Below s w) : Within n w := by
  cases within with
  | scalar noArray noObject =>
    cases below with
    | member => exact absurd rfl (noObject _)
    | item => exact absurd rfl (noArray _)
  | array each =>
    cases below with
    | item here => exact (each w (List.mem_of_getElem? here)).mono (Nat.le_succ _)
  | object each =>
    cases below with
    | member mem => exact (each _ mem).mono (Nat.le_succ _)

theorem Within.reaches (within : Within n v) (reaches : v.Reaches path w) : Within n w := by
  induction reaches with
  | root => exact within
  | step below _ ih => exact ih (within.of_below below)

/-! ## Whole numbers -/

/-- What is read for a nought behind a minus sign, which is kept apart from the whole numbers. -/
def Number.minusZero : Number := .float ⟨true, 0, -158⟩

/-- A whole number that fits 64 bits, signed or unsigned, or the nought behind a minus sign. -/
def Number.isWhole : Number → Bool
  | .int i => -0x8000000000000000 ≤ i && i < 0x10000000000000000
  | .float b => .float b = Number.minusZero

mutual

/-- All numbers of a value are whole. -/
def isWhole : Json → Bool
  | .number x => x.isWhole
  | .array items => itemsWhole items
  | .object members => membersWhole members
  | .null | .bool _ | .string _ => true

/-- All numbers of the items of an array are whole. -/
def itemsWhole : List Json → Bool
  | [] => true
  | v :: r => v.isWhole && itemsWhole r

/-- All numbers of the members of an object are whole. -/
def membersWhole : List (String × Json) → Bool
  | [] => true
  | (_, v) :: r => v.isWhole && membersWhole r

end

theorem itemsWhole_eq (items : List Json) : itemsWhole items = items.all isWhole := by
  induction items with
  | nil => rfl
  | cons v items ih => rw [itemsWhole, ih, List.all_cons]

theorem membersWhole_eq (ms : List (String × Json)) :
    membersWhole ms = ms.all fun m => m.2.isWhole := by
  induction ms with
  | nil => rfl
  | cons m ms ih =>
    obtain ⟨name, v⟩ := m
    rw [membersWhole, ih, List.all_cons]

theorem isWhole_array {items : List Json} :
    (Json.array items).isWhole = true ↔ ∀ v ∈ items, v.isWhole = true := by
  rw [isWhole, itemsWhole_eq, List.all_eq_true]

theorem isWhole_object {ms : List (String × Json)} :
    (Json.object ms).isWhole = true ↔ ∀ m ∈ ms, m.2.isWhole = true := by
  rw [isWhole, membersWhole_eq, List.all_eq_true]

theorem isWhole_of_below (whole : v.isWhole = true) (below : v.Below s w) : w.isWhole = true := by
  cases below with
  | member mem => exact isWhole_object.1 whole _ mem
  | item here => exact isWhole_array.1 whole w (List.mem_of_getElem? here)

theorem isWhole_of_reaches (whole : v.isWhole = true) (reaches : v.Reaches path w) :
    w.isWhole = true := by
  induction reaches with
  | root => exact whole
  | step below _ ih => exact ih (isWhole_of_below whole below)

namespace Reader

/-! ## Values without brackets -/

section Scalars

variable {b : UInt8} {x : Number} {tail : List UInt8}

/-- Literals. -/
theorem reads_literal (room : Nat) :
    Reads (value (room + 1)) .null .null ∧ ∀ t, Reads (value (room + 1)) (.bool t) (.bool t) := by
  refine ⟨⟨?_, 110, nullTail, rfl, by decide, by decide⟩, fun t => ?_⟩
  · refine (takes_token (by decide)).looking ?_ fun _ _ => rfl
    exact (takes_advance 110).andThen ((takes_literal nullTail).anywhere.finish (.pure _))
  cases t with
  | true =>
    refine ⟨?_, 116, trueTail, rfl, by decide, by decide⟩
    refine (takes_token (by decide)).looking ?_ fun _ _ => rfl
    exact (takes_advance 116).andThen ((takes_literal trueTail).anywhere.finish (.pure _))
  | false =>
    refine ⟨?_, 102, falseTail, rfl, by decide, by decide⟩
    refine (takes_token (b := 102) (by decide)).looking ?_ fun _ _ => rfl
    exact (takes_advance 102).andThen ((takes_literal falseTail).anywhere.finish (.pure _))

/-- A number without a sign. -/
theorem reads_unsigned (room : Nat) (decimal : isDigit b = true)
    (written : Json.bytes (.number x) = b :: tail)
    (read : Takes (number false) EndsNumber (b :: tail) x) :
    Reads (value (room + 1)) (.number x) (.number x) := by
  have other : ∀ y : UInt8, isDigit y = false → b ≠ y := by
    rintro y none rfl
    rw [decimal] at none
    cases none
  refine ⟨?_, b, tail, written, isBlank_of_isDigit decimal, other 93 (by decide)⟩
  rw [written]
  refine (takes_token (isBlank_of_isDigit decimal)).looking ?_ fun _ _ => rfl
  simp only [if_neg (other 110 (by decide)), if_neg (other 116 (by decide)),
    if_neg (other 102 (by decide)), if_neg (other 45 (by decide)), decimal, if_pos]
  exact (read.weaken fun _ => endsNumber_of_closes).finish (.pure _)

/-- A number behind a minus sign. -/
theorem reads_signed (room : Nat) (written : Json.bytes (.number x) = 45 :: tail)
    (read : Takes (number true) EndsNumber tail x) :
    Reads (value (room + 1)) (.number x) (.number x) := by
  refine ⟨?_, 45, tail, written, by decide, by decide⟩
  rw [written]
  refine (takes_token (b := 45) (by decide)).looking ?_ fun _ _ => rfl
  exact (takes_advance 45).andThen ((read.weaken fun _ => endsNumber_of_closes).finish (.pure _))

theorem takes_floatEnd {numeral : Numeral} (made : Takes (float true numeral) EndsNumber [] x) :
    Takes (floatEnd true numeral) EndsNumber [] x := by
  intro c rest here ends
  obtain ⟨c', made, left⟩ := made c rest here ends
  refine ⟨c', ?_, left⟩
  rw [← made]
  unfold floatEnd
  rw [peek_bind, here, List.nil_append]
  refine congrFun (?_ : _ = float true numeral) c
  split
  · exact absurd rfl (ends 101 ‹_›).2.2.1
  · exact absurd rfl (ends 69 ‹_›).2.2.2
  · rfl

/-- A nought behind a minus sign, in two spellings: as it may come, and as it is written. -/
theorem takes_minusZero :
    Takes (number true) EndsNumber [48] .minusZero ∧
      Takes (number true) EndsNumber [48, 46, 48] .minusZero := by
  constructor
  · have nought : Binary64.ofDecimal 0 0 = some ⟨0, -158⟩ := by decide +kernel
    have made : whole true 0 = pure .minusZero := by
      unfold whole float
      simp only [if_pos, true_or, nought]
      rfl
    exact takes_numeral (n := 0) (by decide) (by rw [made]; exact .pure _)
  · have tenth : Binary64.ofDecimal 0 (-1) = some ⟨0, -158⟩ := by decide +kernel
    have made : float true ⟨0, -1⟩ = pure .minusZero := by
      unfold float
      simp only [tenth]
      rfl
    have ended : Takes (floatEnd true ⟨0, -1⟩) EndsNumber [] .minusZero :=
      takes_floatEnd (by rw [made]; exact .pure _)
    have read : Takes digits EndsNumber [48] [48] :=
      (takes_digits (List.forall_mem_singleton.2 (by decide))).weaken fun rest ends d mem =>
        (ends d mem).1
    unfold number
    refine (takes_next 48).andThen ((takes_peek (b := 46)).looking ?_ fun _ _ => rfl)
    unfold numberEnd
    refine (takes_peek (b := 46)).looking ?_ fun _ _ => rfl
    unfold decimalPart
    exact (takes_advance 46).andThen (read.finish ended)

/-- **Numbers.** -/
theorem reads_number (room : Nat) (fits : x.isWhole = true) :
    Reads (value (room + 1)) (.number x) (.number x) := by
  cases x with
  | float f =>
    rw [of_decide_eq_true fits]
    exact reads_signed room rfl takes_minusZero.2
  | int i =>
    obtain ⟨low, high⟩ := Bool.and_eq_true_iff.1 fits
    have low := of_decide_eq_true low
    have high := of_decide_eq_true high
    cases i with
    | ofNat n =>
      obtain ⟨b, bs, eq, -⟩ := digitBytes_eq_cons n
      have decimal : isDigit b = true := isDigit_of_mem_digitBytes (eq ▸ List.mem_cons_self)
      have small : n < UInt64.size := Int.ofNat_lt.1 high
      exact reads_unsigned room decimal ((bytes_nat n).trans eq) (eq ▸ takes_number_nat small)
    | negSucc n =>
      have written : Json.bytes (.number (.int (.negSucc n))) = 45 :: digitBytes (n + 1) := by
        have text : (Number.int (.negSucc n)).text.toList = '-' :: Nat.toDigits 10 (n + 1) := by
          show ("-" ++ (n + 1).repr).toList = _
          rw [String.toList_append, Nat.toList_repr]
          rfl
        unfold Json.bytes chars
        rw [text, utf8_cons, utf8_toDigits]
        rfl
      have small : n + 1 ≤ 0x8000000000000000 := by omega
      have made : whole true (n + 1) = pure (.int (.negSucc n)) := by
        unfold whole
        rw [if_pos rfl, if_neg (by omega)]
        rfl
      exact reads_signed room written
        (takes_numeral (Nat.lt_of_le_of_lt small (by decide)) (by rw [made]; exact .pure _))

end Scalars

/-! ## Values with brackets -/

/-- What is put into an object last in the order of names comes last. -/
theorem member_last {name : String} {v : Json} {ms : List (String × Json)}
    (last : ∀ m ∈ ms, m.1 < name) : member name v ms = ms ++ [(name, v)] := by
  rw [member_eq_insertEntry, insertEntry_last last]

theorem steps_object (item : Reader Json) (before todo : List (String × Json))
    (ascending : (before ++ todo).Pairwise fun a b => a.1 < b.1)
    (each : ∀ m ∈ todo, Reads item m.2 m.2) :
    Steps (fun name ms => do colon; pure (member name (← item) ms)) todo before
      (before ++ todo) := by
  induction todo generalizing before with
  | nil =>
    rw [List.append_nil]
    exact .nil before
  | cons m todo ih =>
    have last : ∀ x ∈ before, x.1 < m.1 := fun x mem =>
      (List.pairwise_append.1 ascending).2.2 x mem m List.mem_cons_self
    have regroup : before ++ m :: todo = before ++ [m] ++ todo := List.append_cons before m todo
    have later := ih (before ++ [m]) (regroup ▸ ascending)
      fun x mem => each x (List.mem_cons_of_mem m mem)
    rw [← regroup] at later
    refine .cons (takes_colon.andThen ((each m List.mem_cons_self).takes.finish ?_)) later
    rw [member_last last]
    exact .pure _

/-- **Values.** A value is read back from what is written for it. -/
theorem reads_value {room : Nat} {v : Json} (within : Within room v) (ordered : v.IsInOrder)
    (whole : v.isWhole = true) : Reads (value room) v v := by
  induction within with
  | @scalar n v noArray noObject =>
    cases v with
    | null => exact (reads_literal n).1
    | bool t => exact (reads_literal n).2 t
    | number x => exact reads_number n whole
    | string s => exact reads_value_string (Nat.succ_pos n) s
    | array items => exact absurd rfl (noArray items)
    | object ms => exact absurd rfl (noObject ms)
  | @array n items each ih =>
    have items_read : List.Forall₂ (Reads (value (n + 1))) items items := by
      refine List.forall₂_same.2 fun v mem => ih v mem ?_ (isWhole_array.1 whole v mem)
      obtain ⟨i, here⟩ := List.mem_iff_getElem?.1 mem
      exact ordered.below (.item here)
    refine ⟨?_, leads_array items⟩
    rw [bytes_array]
    refine (takes_token (b := 91) (by decide)).looking ?_ fun _ _ => rfl
    exact (takes_advance 91).andThen ((takes_items items_read).anywhere.finish (.pure _))
  | @object n ms each ih =>
    have ascending : ms.Pairwise fun a b => a.1 < b.1 :=
      List.pairwise_map.1 (ordered [] ms (.root _))
    have steps := steps_object (value (n + 1)) [] ms ascending fun m mem =>
      ih m mem (ordered.below (.member mem)) (isWhole_object.1 whole m mem)
    refine ⟨?_, leads_object ms⟩
    rw [bytes_object]
    refine (takes_token (b := 123) (by decide)).looking ?_ fun _ _ => rfl
    exact (takes_advance 123).andThen ((takes_members steps).anywhere.finish (.pure _))

/-! ## Values that were read -/

theorem gives_within (room : Nat) : Gives (value room) (Within room) := by
  refine gives_value ?scalar ?array ?object room
  case scalar => exact fun _ _ noArray noObject => .scalar noArray noObject
  case array => exact fun _ _ each => .array each
  case object => exact fun _ _ ordered => .object ordered.2

end Reader

variable {bytes : List UInt8}

/-- Brackets nest no deeper than they may in a document that was read. -/
theorem ofBytes_within (read : ofBytes bytes = .ok v) : Within Reader.maxRoom v :=
  (Reader.gives_within Reader.maxRoom).run read

/-- **What is written for a node of a document is a document with that node as its root**, if all
numbers of it are whole. -/
theorem ofText_text (read : ofBytes bytes = .ok v) (reaches : v.Reaches path w)
    (whole : w.isWhole = true) : ofText w.text = .ok w := by
  have ordered : w.IsInOrder := (ofBytes_inOrder read).reaches reaches
  have written : Text.encode w.text = w.bytes := by
    unfold Json.text Json.bytes utf8
    rw [Text.encode_ofList]
  unfold ofText ofBytes
  rw [written]
  exact (Reader.reads_value ((ofBytes_within read).reaches reaches) ordered whole).takes.run

end Vigil.Json

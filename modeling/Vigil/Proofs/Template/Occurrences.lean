import Vigil.Proofs.Lookup
import Vigil.Template

/-!
# Slots from left to right

`LeftmostCut` says how a text is cut at its slots without saying how that is done: each time at the
earliest place where a slot occurs, going on behind it. There is one such cut of every text, the
one that rendering goes by (`leftmostCut_iff`), and so what is rendered and which names are listed
is read off it (`render_reference`). A slot stands for the value that was stored last under its
name, which is also what a table finds into which all variables were put in order
(`get?_table`).
-/

set_option autoImplicit false

namespace Vigil

namespace Template

/-- A non-empty run of characters other than braces. -/
def IsName (name : List Char) : Prop := name ≠ [] ∧ ∀ c ∈ name, c ≠ '{' ∧ c ≠ '}'

/-- A slot occurs at the beginning of a text. -/
def SlotOccurs (s : List Char) : Prop := ∃ name rest, IsName name ∧ s = spellSlot name ++ rest

/-- A text is cut from left to right, each time at the earliest place where a slot occurs: the
slots' names, each with the literal text in front of the slot, and the literal text at the end. -/
inductive LeftmostCut : List Char → List (List Char × List Char) → List Char → Prop where
  | last {s : List Char} (none : ∀ i, ¬ SlotOccurs (s.drop i)) : LeftmostCut s [] s
  | slot {before name rest last : List Char} {cuts : List (List Char × List Char)}
      (named : IsName name)
      (earliest : ∀ i < before.length, ¬ SlotOccurs ((before ++ spellSlot name ++ rest).drop i))
      (later : LeftmostCut rest cuts last) :
      LeftmostCut (before ++ spellSlot name ++ rest) ((before, name) :: cuts) last

/-! ## One slot -/

theorem isNameChar_iff {c : Char} : isNameChar c = true ↔ c ≠ '{' ∧ c ≠ '}' := by
  simp [isNameChar]

theorem slotAt?_spellSlot {name : List Char} (named : IsName name) (rest : List Char) :
    slotAt? (spellSlot name ++ rest) = some (name, rest) := by
  obtain ⟨some, all⟩ := named
  have inName : ∀ c ∈ name, isNameChar c = true := fun c mem => isNameChar_iff.2 (all c mem)
  have outside : isNameChar '}' = false := by decide
  have nonempty : name.isEmpty = false := by simpa using some
  have spelled : spellSlot name ++ rest = '{' :: '{' :: (name ++ '}' :: '}' :: rest) := by
    simp [spellSlot]
  have take : (name ++ '}' :: '}' :: rest).takeWhile isNameChar = name := by
    rw [List.takeWhile_append_of_pos inName, List.takeWhile_cons_of_neg (by simp [outside]),
      List.append_nil]
  have drop : (name ++ '}' :: '}' :: rest).dropWhile isNameChar = '}' :: '}' :: rest := by
    rw [List.dropWhile_append_of_pos inName, List.dropWhile_cons_of_neg (by simp [outside])]
  rw [spelled]
  simp only [slotAt?, take, drop, nonempty]
  rfl

theorem isName_of_slotAt? {s name rest : List Char} (h : slotAt? s = some (name, rest)) :
    IsName name := by
  unfold slotAt? at h
  split at h
  · split at h
    · split at h
      · cases h
      · next t _ _ _ nonempty =>
        cases h
        refine ⟨by simpa using nonempty, fun c mem => isNameChar_iff.1 ?_⟩
        exact List.all_eq_true.1 List.all_takeWhile c mem
    · cases h
  · cases h

theorem slotAt?_eq_none_iff {s : List Char} : slotAt? s = none ↔ ¬ SlotOccurs s := by
  constructor
  · rintro none ⟨name, rest, named, rfl⟩
    rw [slotAt?_spellSlot named rest] at none
    cases none
  · intro absent
    cases found : slotAt? s with
    | none => rfl
    | some slot =>
      obtain ⟨name, rest⟩ := slot
      exact absurd ⟨name, rest, isName_of_slotAt? found, eq_spellSlot_of_slotAt? found⟩ absent

/-! ## The cut of a text -/

theorem cut_of_slot {s name rest : List Char} (h : slotAt? s = some (name, rest)) :
    cut s = .slot name :: cut rest := by
  rw [cut.eq_def]
  split
  · next n r h' =>
    rw [h] at h'
    cases h'
    rfl
  · next none =>
    rw [h] at none
    cases none

theorem cut_of_none {c : Char} {s : List Char} (h : slotAt? (c :: s) = none) :
    cut (c :: s) = .literal c :: cut s := by
  rw [cut.eq_def]
  split
  · next n r h' =>
    rw [h] at h'
    cases h'
  · rfl

/-- The pieces of a cut: the slots' names, each with the literal text in front of the slot, and
the literal text at the end. -/
def gather : List Piece → List (List Char × List Char) × List Char
  | [] => ([], [])
  | .slot name :: pieces => (([], name) :: (gather pieces).1, (gather pieces).2)
  | .literal c :: pieces =>
    match gather pieces with
    | ([], last) => ([], c :: last)
    | ((before, name) :: cuts, last) => ((c :: before, name) :: cuts, last)

theorem gather_literals (before : List Char) :
    gather (before.map .literal) = ([], before) := by
  induction before with
  | nil => rfl
  | cons c before ih => rw [List.map_cons, gather, ih]

theorem gather_literals_slot (before name : List Char) (pieces : List Piece) :
    gather (before.map .literal ++ .slot name :: pieces) =
      ((before, name) :: (gather pieces).1, (gather pieces).2) := by
  induction before with
  | nil => rfl
  | cons c before ih => rw [List.map_cons, List.cons_append, gather, ih]

theorem cut_of_no_slot {s : List Char} (none : ∀ i, ¬ SlotOccurs (s.drop i)) :
    cut s = s.map .literal := by
  induction s with
  | nil => rw [cut.eq_def]; rfl
  | cons c s ih =>
    rw [cut_of_none (slotAt?_eq_none_iff.2 (none 0)), ih fun i => none (i + 1)]
    rfl

theorem cut_of_earliest {before name rest : List Char} (named : IsName name)
    (earliest : ∀ i < before.length, ¬ SlotOccurs ((before ++ spellSlot name ++ rest).drop i)) :
    cut (before ++ spellSlot name ++ rest) = before.map .literal ++ .slot name :: cut rest := by
  induction before with
  | nil => exact cut_of_slot (slotAt?_spellSlot named rest)
  | cons c before ih =>
    have here : ¬ SlotOccurs (c :: (before ++ spellSlot name ++ rest)) :=
      earliest 0 (Nat.zero_lt_succ _)
    have later := ih fun i less => earliest (i + 1) (Nat.succ_lt_succ less)
    show cut (c :: (before ++ spellSlot name ++ rest)) = _
    rw [cut_of_none (slotAt?_eq_none_iff.2 here), later]
    rfl

/-- A character at which no slot occurs is literal text. -/
theorem LeftmostCut.cons {c : Char} {s : List Char} (here : ¬ SlotOccurs (c :: s)) {ps : List Piece}
    (h : LeftmostCut s (gather ps).1 (gather ps).2) :
    LeftmostCut (c :: s) (gather (.literal c :: ps)).1 (gather (.literal c :: ps)).2 := by
  rw [gather]
  generalize gather ps = g at h ⊢
  obtain ⟨cuts, last⟩ := g
  cases h with
  | last none =>
    refine .last fun i => ?_
    cases i with
    | zero => exact here
    | succ i => exact none i
  | @slot before name rest _ cuts named earliest later =>
    have earliest' : ∀ i < (c :: before).length,
        ¬ SlotOccurs ((c :: before ++ spellSlot name ++ rest).drop i) := by
      intro i less
      cases i with
      | zero => exact here
      | succ i => exact earliest i (Nat.lt_of_succ_lt_succ less)
    exact .slot named earliest' later

theorem leftmostCut_gather (s : List Char) :
    LeftmostCut s (gather (cut s)).1 (gather (cut s)).2 := by
  induction s using cut.induct with
  | case1 s name rest found _ ih =>
    rw [cut_of_slot found, eq_spellSlot_of_slotAt? found]
    have earliest : ∀ i < ([] : List Char).length,
        ¬ SlotOccurs (([] ++ spellSlot name ++ rest).drop i) :=
      fun i less => absurd less (Nat.not_lt_zero i)
    exact .slot (isName_of_slotAt? found) earliest ih
  | case2 none =>
    rw [cut.eq_def]
    refine .last fun i => ?_
    rw [List.drop_nil]
    exact slotAt?_eq_none_iff.1 none
  | case3 c r none ih =>
    rw [cut_of_none none]
    exact ih.cons (slotAt?_eq_none_iff.1 none)

/-- **There is one cut** of a text from left to right, and it is the one that is made. -/
theorem leftmostCut_iff {s last : List Char} {cuts : List (List Char × List Char)} :
    LeftmostCut s cuts last ↔ gather (cut s) = (cuts, last) := by
  constructor
  · intro h
    induction h with
    | last none => rw [cut_of_no_slot none, gather_literals]
    | slot named earliest _ ih => rw [cut_of_earliest named earliest, gather_literals_slot, ih]
  · intro h
    have made := leftmostCut_gather s
    rwa [h] at made

/-! ## What is made of a cut -/

theorem flatMap_fill (lookup : String → Option String) (ps : List Piece) :
    ps.flatMap (fill lookup) =
      ((gather ps).1.flatMap fun c => c.1 ++ fill lookup (.slot c.2)) ++ (gather ps).2 := by
  induction ps with
  | nil => rfl
  | cons p ps ih =>
    rw [List.flatMap_cons, ih]
    cases p with
    | slot name => rw [gather, List.flatMap_cons, List.nil_append, List.append_assoc]
    | literal c =>
      rw [gather]
      generalize gather ps = g
      obtain ⟨cuts, last⟩ := g
      cases cuts <;> rfl

theorem filterMap_slotName? (ps : List Piece) :
    ps.filterMap slotName? = (gather ps).1.map fun c => String.ofList c.2 := by
  induction ps with
  | nil => rfl
  | cons p ps ih =>
    rw [List.filterMap_cons, ih]
    cases p with
    | slot name => rfl
    | literal c =>
      rw [gather]
      generalize gather ps = g
      obtain ⟨cuts, last⟩ := g
      cases cuts <;> rfl

/-- Where no two opening braces are next to each other, no slot occurs. -/
theorem not_slotOccurs_of_apart {s : List Char} (apart : ¬ ['{', '{'] <:+: s) (i : Nat) :
    ¬ SlotOccurs (s.drop i) := by
  rintro ⟨name, rest, -, eq⟩
  apply apart
  refine ⟨s.take i, name ++ ['}', '}'] ++ rest, ?_⟩
  rw [List.append_assoc, show ['{', '{'] ++ (name ++ ['}', '}'] ++ rest) = spellSlot name ++ rest by
    simp [spellSlot], ← eq, List.take_append_drop]

end Template

/-! ## The value of a name -/

/-- The last variable called `name` among the variables of a store has the value `value`. -/
def Store.LastValue (s : Store) (name value : String) : Prop :=
  ∃ earlier v later, s.toList = earlier ++ v :: later ∧ v.name = name ∧ v.value = value ∧
    ∀ u ∈ later, u.name ≠ name

theorem Store.get?_eq_some_iff {s : Store} {name value : String} :
    s.get? name = some value ↔ s.LastValue name value := by
  unfold get? LastValue
  rw [Option.map_eq_some_iff]
  constructor
  · rintro ⟨v, found, rfl⟩
    obtain ⟨named, later, earlier, eq, others⟩ := List.find?_eq_some_iff_append.1 found
    refine ⟨earlier.reverse, v, later.reverse, ?_, by simpa using named, rfl, ?_⟩
    · rw [← List.reverse_reverse s.toList, eq]
      simp
    · intro u mem
      simpa using others u (List.mem_reverse.1 mem)
  · rintro ⟨earlier, v, later, eq, rfl, rfl, others⟩
    refine ⟨v, List.find?_eq_some_iff_append.2 ?_, rfl⟩
    refine ⟨by simp, later.reverse, earlier.reverse, ?_, ?_⟩
    · rw [eq]
      simp
    · intro u mem
      simpa using others u (List.mem_reverse.1 mem)

/-- A table of the variables of a store, put into it in order. -/
def Store.table (s : Store) : Dict String :=
  s.toList.foldl (fun d v => d.insert v.name v.value) .empty

theorem Variable.get?_foldl_insert (vs : List Variable) (d : Dict String) (name : String) :
    (vs.foldl (fun d v => d.insert v.name v.value) d).get? name =
      (last? name vs).or (d.get? name) := by
  induction vs generalizing d with
  | nil => rfl
  | cons v vs ih =>
    have one : last? name [v] = if v.name = name then some v.value else none := by
      by_cases here : v.name = name <;> simp [last?, here]
    rw [List.foldl_cons, ih, Dict.get?_insert, ← List.singleton_append, last?_append, one,
      Option.or_assoc]
    split <;> rfl

/-- A table of the variables finds what a search from the end finds. -/
theorem Store.get?_table (s : Store) (name : String) : s.table.get? name = s.get? name := by
  unfold table
  rw [Variable.get?_foldl_insert, get?_eq_last?]
  exact Option.or_none

namespace Template

/-- What is made of a text by cutting it from left to right into `cuts` and `last`. -/
structure Reference (text : String) (cuts : List (List Char × List Char)) (last : List Char) :
    Prop where
  leftmost : LeftmostCut text.toList cuts last
  /-- There is no other way to cut it. -/
  only : ∀ cuts' last', LeftmostCut text.toList cuts' last' → cuts' = cuts ∧ last' = last
  /-- The names are listed in order and with repetitions. -/
  names : Template.names text = cuts.map fun c => String.ofList c.2
  /-- The literal text stays, and each slot gives way to what is inserted for it, which does not
  depend on what is around it. -/
  rendered : ∀ store, ∃ inserted : List Char → List Char,
    (render store text).toList = (cuts.flatMap fun c => c.1 ++ inserted c.2) ++ last ∧
    ∀ c ∈ cuts,
      (∀ value, store.LastValue (String.ofList c.2) value → inserted c.2 = value.toList) ∧
      ((∀ v ∈ store.toList, v.name ≠ String.ofList c.2) → inserted c.2 = spellSlot c.2)
  /-- The values are those that a search of the store finds, and those that a table of its
  variables finds. -/
  values : ∀ (store : Store) (name : String),
    (∀ value, store.get? name = some value ↔ store.LastValue name value) ∧
    (store.get? name = none ↔ ∀ v ∈ store.toList, v.name ≠ name) ∧
    store.table.get? name = store.get? name
  /-- A text without two opening braces next to each other is rendered as it stands. -/
  plain : ¬ ['{', '{'] <:+: text.toList →
    cuts = [] ∧ last = text.toList ∧ ∀ store, render store text = text

/-- **Rendering** by the cut of a text from left to right. -/
theorem render_reference (text : String) : ∃ cuts last, Reference text cuts last := by
  refine ⟨_, _, ⟨leftmostCut_gather text.toList, ?_, filterMap_slotName? _, ?_, ?_, ?_⟩⟩
  case refine_1 =>
    intro cuts last h
    rw [leftmostCut_iff.1 h]
    exact ⟨rfl, rfl⟩
  case refine_2 =>
    intro store
    refine ⟨fun name => fill store.get? (.slot name), ?_, ?_⟩
    · unfold render renderWith pieces
      rw [String.toList_ofList, flatMap_fill]
    · intro c _
      constructor
      · intro value stored
        simp only [fill, Store.get?_eq_some_iff.2 stored]
      · intro unknown
        have none : store.get? (String.ofList c.2) = none := Variable.last?_eq_none_iff.2 unknown
        simp only [fill, none]
  case refine_3 =>
    intro store name
    exact ⟨fun _ => Store.get?_eq_some_iff, Variable.last?_eq_none_iff, store.get?_table name⟩
  case refine_4 =>
    intro apart
    have whole := cut_of_no_slot (not_slotOccurs_of_apart apart)
    rw [whole, gather_literals]
    refine ⟨rfl, rfl, fun store => ?_⟩
    apply String.toList_injective
    unfold render renderWith pieces
    rw [String.toList_ofList, whole, flatMap_fill, gather_literals]
    rfl

end Template

end Vigil

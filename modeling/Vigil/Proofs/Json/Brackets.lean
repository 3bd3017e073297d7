import Mathlib.Data.List.Induction
import Vigil.Proofs.Json.Paths
import Vigil.Proofs.Sequence

/-!
# Brackets in paths

A bracket that stands outside of all others opens an index (`Bracket.Opens`). Its text goes to the
bracket that closes it, or to the end of the path if none does. There a path falls apart into what
stands before the bracket, the index, and what stands behind (`Bracket.Opens.cutSteps_eq`).

So a path is cut into steps if the text of each bracket denotes an index, whether or not the bracket
is closed (`index_brackets`).
-/

set_option autoImplicit false

namespace Vigil

namespace JsonPath

variable {path before text : List Char} {i : Nat} {steps : List PathStep} {fault : ExtractionFault}

/-! ## Brackets that open an index -/

/-- Whether a place is outside of brackets, from whether the one in front of `c` is. -/
def stillOutside (outside : Bool) (c : Char) : Bool := if outside then c != '[' else c == ']'

/-- Whether the place behind these characters of a path is outside of all brackets. -/
def isOutside (before : List Char) : Bool := before.foldl stillOutside true

/-- A bracket in a path. -/
structure Bracket where
  before : List Char
  /-- What stands between the brackets. -/
  text : List Char
  /-- What stands behind the bracket that closes it, if one does. -/
  behind : Option (List Char)

namespace Bracket

/-- The bracket that closes this one, and what stands behind it. -/
def closing (b : Bracket) : List Char :=
  match b.behind with
  | some r => ']' :: r
  | none => []

/-- What is left of the path behind the text and the bracket that closes it. -/
def rest (b : Bracket) : List Char := b.behind.getD []

/-- The bracket opens an index in this path. -/
structure Opens (b : Bracket) (path : List Char) : Prop where
  whole : path = b.before ++ '[' :: (b.text ++ b.closing)
  outside : isOutside b.before = true
  unbroken : ']' ∉ b.text

/-- As it should be: closed, and with nothing but decimal digits and blanks around them. -/
def IsProper (b : Bracket) : Prop := b.behind.isSome = true ∧ ∃ i, Spells [] b.text i

end Bracket

/-- Whether a step that is being read is outside of brackets. -/
def Pending.isOutside : Pending → Bool
  | .field _ => true
  | .index _ => false

theorem withField_append (name : List Char) (steps others : List PathStep) :
    withField name (steps ++ others) = withField name steps ++ others := by
  unfold withField
  split <;> rfl

/-- What is put in front of the steps of a path is put in front of its first part. -/
theorem front_append {first others : Except ExtractionFault (List PathStep)}
    (front : List PathStep → List PathStep) (onFirst : ∀ l r, front (l ++ r) = front l ++ r) :
    ((first >>= fun l => others >>= fun r => pure (l ++ r)) >>= fun steps => pure (front steps)) =
      (first >>= fun l => pure (front l)) >>= fun l => others >>= fun r => pure (l ++ r) := by
  cases first with
  | error f => rfl
  | ok l =>
    cases others with
    | error f => rfl
    | ok r => exact congrArg Except.ok (onFirst l r)

/-- A path falls apart in front of a bracket that opens an index, whatever has been read of the step
in which the characters before it begin. -/
theorem cut_append_bracket (p : Pending) (before r : List Char)
    (outside : before.foldl stillOutside p.isOutside = true) :
    cut p (before ++ '[' :: r) = do return (← cut p before) ++ (← cut (.index []) r) := by
  induction before generalizing p with
  | nil =>
    cases p with
    | field name =>
      have here : cut (.field name) ('[' :: r) = do
          return withField name (← cut (.index []) r) := by
        rw [cut, if_neg (by decide), if_pos rfl]
      rw [List.nil_append, here]
      cases cut (.index []) r with
      | error f => rfl
      | ok others => exact congrArg Except.ok (withField_append name [] others)
    | index text => cases outside
  | cons c before ih =>
    rw [List.cons_append]
    rw [List.foldl_cons] at outside
    cases p with
    | field name =>
      rw [cut, cut]
      by_cases dot : c = '.'
      · subst dot
        rw [if_pos rfl, if_pos rfl, ih (.field []) outside]
        exact front_append _ (withField_append name)
      · rw [if_neg dot, if_neg dot]
        by_cases bracket : c = '['
        · subst bracket
          rw [if_pos rfl, if_pos rfl, ih (.index []) outside]
          exact front_append _ (withField_append name)
        · have still : stillOutside (Pending.field name).isOutside c = true :=
            bne_iff_ne.2 bracket
          rw [still] at outside
          rw [if_neg bracket, if_neg bracket]
          exact ih (.field (c :: name)) outside
    | index text =>
      rw [cut, cut]
      by_cases closes : c = ']'
      · subst closes
        rw [if_pos rfl, if_pos rfl, ih (.field []) outside]
        cases readIndex text.reverse with
        | error f => rfl
        | ok i => exact front_append (List.cons (.index i)) fun l r => rfl
      · have still : stillOutside (Pending.index text).isOutside c = false :=
          beq_eq_false_iff_ne.2 closes
        rw [still] at outside
        rw [if_neg closes, if_neg closes]
        exact ih (.index (c :: text)) outside

/-- What is cut out of a path from inside a bracket on. -/
theorem cut_bracket (b : Bracket) (unbroken : ']' ∉ b.text) :
    cut (.index []) (b.text ++ b.closing) = do
      let i ← readIndex b.text
      return .index i :: (← cutSteps b.rest) := by
  rw [cut_digits unbroken, List.append_nil]
  unfold Bracket.closing Bracket.rest
  cases b.behind with
  | none =>
    rw [cut, List.reverse_reverse]
    cases readIndex b.text <;> rfl
  | some r =>
    simp only
    rw [cut, if_pos rfl, List.reverse_reverse]
    rfl

namespace Bracket

variable {b b' : Bracket}

/-- **A path falls apart at a bracket** that opens an index. -/
theorem Opens.cutSteps_eq (opens : b.Opens path) :
    cutSteps path = do
      let first ← cutSteps b.before
      let i ← readIndex b.text
      let others ← cutSteps b.rest
      return first ++ .index i :: others := by
  have apart := cut_append_bracket (.field []) b.before (b.text ++ b.closing) opens.outside
  rw [opens.whole, cutSteps, apart, cut_bracket b opens.unbroken]
  unfold cutSteps
  cases cut (.field []) b.before with
  | error f => rfl
  | ok first =>
    cases readIndex b.text with
    | error f => rfl
    | ok i => cases cut (.field []) b.rest <;> rfl

theorem Opens.cutSteps_eq_ok_iff (opens : b.Opens path) :
    cutSteps path = .ok steps ↔ ∃ first i others, cutSteps b.before = .ok first ∧
      Denotes b.text i ∧ cutSteps b.rest = .ok others ∧ steps = first ++ .index i :: others := by
  rw [opens.cutSteps_eq]
  simp only [bind_eq_ok_iff, readIndex_eq_ok_iff]
  constructor
  · rintro ⟨first, cut, i, denotes, others, cut', ⟨⟩⟩
    exact ⟨first, i, others, cut, denotes, cut', rfl⟩
  · rintro ⟨first, i, others, cut, denotes, cut', rfl⟩
    exact ⟨first, cut, i, denotes, others, cut', rfl⟩

theorem Opens.cutSteps_of_not_denotes {first : List PathStep} (opens : b.Opens path)
    (cut : cutSteps b.before = .ok first) (not : ¬ ∃ i, Denotes b.text i) :
    cutSteps path = .error (.invalidIndex (String.ofList b.text)) := by
  rw [opens.cutSteps_eq, cut, readIndex_eq_error_iff.2 ⟨not, rfl⟩]
  rfl

/-! ### Where brackets are -/

theorem foldl_stillOutside_of_not_mem {mark : Char} {outside : Bool} (cs : List Char)
    (stays : ∀ c, c ≠ mark → stillOutside outside c = outside) (none : mark ∉ cs) :
    cs.foldl stillOutside outside = outside := by
  induction cs with
  | nil => rfl
  | cons c cs ih =>
    obtain ⟨other, none⟩ := not_or.1 (List.mem_cons.not.1 none)
    rw [List.foldl_cons, stays c (Ne.symm other), ih none]

theorem isOutside_of_not_mem (none : '[' ∉ before) : isOutside before = true :=
  foldl_stillOutside_of_not_mem before (fun _ other => bne_iff_ne.2 other) none

/-- Behind the closing bracket, a place is outside if it is so in what stands there. -/
theorem Opens.isOutside_behind (opens : b.Opens path) (r : List Char) :
    isOutside (b.before ++ '[' :: (b.text ++ ']' :: r)) = isOutside r := by
  have outside : b.before.foldl stillOutside true = true := opens.outside
  have inside : b.text.foldl stillOutside false = false :=
    foldl_stillOutside_of_not_mem b.text (fun _ other => beq_eq_false_iff_ne.2 other) opens.unbroken
  unfold isOutside
  rw [List.foldl_append, outside, List.foldl_cons]
  change (b.text ++ ']' :: r).foldl stillOutside false = _
  rw [List.foldl_append, inside]
  rfl

/-- The bracket between two parts of a path. -/
def between (before r : List Char) : Bracket where
  before := before
  text := r.takeWhile (· != ']')
  behind := (r.dropWhile (· != ']')).tail?

theorem opens_between (outside : isOutside before = true) (r : List Char) :
    (between before r).Opens (before ++ '[' :: r) where
  whole := by
    have ends := List.head?_dropWhile_not (· != ']') r
    have apart := List.takeWhile_append_dropWhile (p := (· != ']')) (l := r)
    unfold between closing
    cases left : r.dropWhile (· != ']') with
    | nil =>
      rw [left] at apart
      simp only [List.tail?_nil, apart]
    | cons c cs =>
      rw [left] at ends apart
      obtain rfl : c = ']' := by simpa using ends
      simp only [List.tail?_cons, apart]
  outside := outside
  unbroken mem := by
    have other := List.all_eq_true.1 List.all_takeWhile _ mem
    cases other

/-- The bracket of what stands behind another, in the whole path. -/
def later (b b' : Bracket) : Bracket where
  before := b.before ++ '[' :: (b.text ++ ']' :: b'.before)
  text := b'.text
  behind := b'.behind

/-- A bracket that opens an index behind another is one of the whole path. -/
theorem Opens.later (opens : b.Opens path) (opens' : b'.Opens b.rest) :
    (b.later b').Opens path := by
  cases closes : b.behind with
  | none =>
    have nowhere := opens'.whole
    simp [rest, closes] at nowhere
  | some r =>
    have here : r = b'.before ++ '[' :: (b'.text ++ b'.closing) := by
      have whole := opens'.whole
      rwa [rest, closes, Option.getD_some] at whole
    refine ⟨?whole, ?outside, opens'.unbroken⟩
    case whole =>
      rw [opens.whole, closing, closes, here]
      simp [Bracket.later, closing]
    case outside => exact (opens.isOutside_behind b'.before).trans opens'.outside

/-- What stands before a later bracket is cut like what stands before the first, then the index of
the first, and then what stands between the two. -/
theorem Opens.cutSteps_before_later (opens : b.Opens path) {i : Nat} (denotes : Denotes b.text i)
    {first between : List PathStep} (cut : cutSteps b.before = .ok first)
    (cut' : cutSteps b'.before = .ok between) :
    cutSteps (b.later b').before = .ok (first ++ .index i :: between) := by
  have shorter : Opens { b with behind := some b'.before } (b.later b').before :=
    ⟨rfl, opens.outside, opens.unbroken⟩
  exact shorter.cutSteps_eq_ok_iff.2 ⟨first, i, between, cut, denotes, cut', rfl⟩

/-- A place that is not outside is in the text of a bracket. -/
theorem exists_of_inside (inside : isOutside before = false) :
    ∃ front text, before = front ++ '[' :: text ∧ isOutside front = true ∧ ']' ∉ text := by
  induction before using List.reverseRecOn with
  | nil => cases inside
  | append_singleton before c ih =>
    have last : stillOutside (isOutside before) c = false := by
      rw [← inside]
      unfold isOutside
      rw [List.foldl_append]
      rfl
    cases outside : isOutside before with
    | true =>
      rw [outside] at last
      obtain rfl : c = '[' := by simpa [stillOutside] using last
      exact ⟨before, [], rfl, outside, List.not_mem_nil⟩
    | false =>
      rw [outside] at last
      have other : c ≠ ']' := by simpa [stillOutside] using last
      obtain ⟨front, text, rfl, outside, unbroken⟩ := ih outside
      refine ⟨front, text ++ [c], by simp, outside, ?_⟩
      simpa using ⟨unbroken, other.symm⟩

theorem Opens.length_rest_lt (opens : b.Opens path) : b.rest.length < path.length := by
  have shorter : b.rest.length ≤ b.closing.length := by
    unfold rest closing
    cases b.behind with
    | none => exact Nat.le_refl _
    | some r => exact Nat.le_succ _
  rw [opens.whole]
  simp only [List.length_append, List.length_cons]
  omega

/-- **Induction on a path**: it has no bracket, or the first one opens an index and the rest of the
path is shorter. -/
theorem path_induction {P : List Char → Prop} (plain : ∀ path, '[' ∉ path → P path)
    (bracket : ∀ path b, Opens b path → '[' ∉ b.before → P b.rest → P path) (path : List Char) :
    P path := by
  induction length : path.length using Nat.strongRecOn generalizing path with
  | ind n ih =>
    by_cases mem : '[' ∈ path
    · obtain ⟨before, r, rfl, none⟩ := List.eq_append_cons_of_mem mem
      have opens := opens_between (isOutside_of_not_mem none) r
      exact bracket _ _ opens none (ih _ (length ▸ opens.length_rest_lt) _ rfl)
    · exact plain path mem

end Bracket

/-- Without brackets a path is cut into names. -/
theorem cut_of_not_mem (none : '[' ∉ path) (name : List Char) :
    ∃ steps, cut (.field name) path = .ok steps ∧ ∀ i, PathStep.index i ∉ steps := by
  have named : ∀ (name : List Char) (steps : List PathStep), (∀ i, PathStep.index i ∉ steps) →
      ∀ i, PathStep.index i ∉ withField name steps := by
    intro name steps names i
    unfold withField
    split
    · exact names i
    · simpa using names i
  induction path generalizing name with
  | nil => exact ⟨_, rfl, named name [] fun i => List.not_mem_nil⟩
  | cons c path ih =>
    obtain ⟨other, none⟩ := not_or.1 (List.mem_cons.not.1 none)
    rw [cut, if_neg (Ne.symm other)]
    by_cases dot : c = '.'
    · obtain ⟨steps, cut, names⟩ := ih none []
      rw [if_pos dot, cut]
      exact ⟨_, rfl, named name steps names⟩
    · rw [if_neg dot]
      exact ih none (c :: name)

theorem cutSteps_of_not_mem (none : '[' ∉ path) :
    ∃ steps, cutSteps path = .ok steps ∧ ∀ i, PathStep.index i ∉ steps := cut_of_not_mem none []

/-- The text of each bracket of a path that is cut denotes an index. -/
theorem exists_denotes {b : Bracket} (cut : cutSteps path = .ok steps) (opens : b.Opens path) :
    ∃ i, Denotes b.text i := by
  obtain ⟨-, i, -, -, denotes, -⟩ := opens.cutSteps_eq_ok_iff.1 cut
  exact ⟨i, denotes⟩

/-- A path is cut, or there is a first bracket whose text denotes no index. -/
theorem cutSteps_cases (path : List Char) :
    (∃ steps, cutSteps path = .ok steps) ∨ ∃ b : Bracket, b.Opens path ∧
      (∃ first, cutSteps b.before = .ok first) ∧ ¬ ∃ i, Denotes b.text i := by
  induction path using Bracket.path_induction with
  | plain path none =>
    obtain ⟨steps, cut, -⟩ := cutSteps_of_not_mem none
    exact .inl ⟨steps, cut⟩
  | bracket path b opens none ih =>
    obtain ⟨first, cut, -⟩ := cutSteps_of_not_mem none
    by_cases denotes : ∃ i, Denotes b.text i
    · obtain ⟨i, denotes⟩ := denotes
      rcases ih with ⟨others, cut'⟩ | ⟨b', opens', ⟨between, cut'⟩, not⟩
      · exact .inl ⟨_, opens.cutSteps_eq_ok_iff.2 ⟨first, i, others, cut, denotes, cut', rfl⟩⟩
      · exact .inr ⟨b.later b', opens.later opens',
          ⟨_, opens.cutSteps_before_later denotes cut cut'⟩, not⟩
    · exact .inr ⟨b, opens, ⟨first, cut⟩, denotes⟩

/-- An index that is cut out of a path comes from a bracket. -/
theorem exists_opens_of_index_mem (cut : cutSteps path = .ok steps) (mem : .index i ∈ steps) :
    ∃ b : Bracket, b.Opens path ∧ Denotes b.text i := by
  induction path using Bracket.path_induction generalizing steps with
  | plain path none =>
    obtain ⟨_, cut', names⟩ := cutSteps_of_not_mem none
    rw [cut] at cut'
    cases cut'
    exact absurd mem (names i)
  | bracket path b opens none ih =>
    obtain ⟨first, j, others, front, denotes, rest, rfl⟩ := opens.cutSteps_eq_ok_iff.1 cut
    obtain ⟨_, front', names⟩ := cutSteps_of_not_mem none
    rw [front] at front'
    cases front'
    simp only [List.mem_append, names i, false_or, List.mem_cons, PathStep.index.injEq] at mem
    rcases mem with rfl | mem
    · exact ⟨b, opens, denotes⟩
    · obtain ⟨b', opens', denotes'⟩ := ih rest mem
      exact ⟨b.later b', opens.later opens', denotes'⟩

/-- No bracket of a path that is cut stands inside another. -/
theorem isOutside_of_cutSteps {after : List Char} (cut : cutSteps path = .ok steps)
    (whole : path = before ++ '[' :: after) : isOutside before = true := by
  by_contra inside
  obtain ⟨front, text, rfl, outside, unbroken⟩ :=
    Bracket.exists_of_inside (Bool.eq_false_iff.2 inside)
  have opens := Bracket.opens_between outside (text ++ '[' :: after)
  rw [List.append_assoc, List.cons_append] at whole
  obtain ⟨i, denotes⟩ := exists_denotes cut (whole ▸ opens)
  refine denotes.not_mem_bracket ?_
  have other : ∀ c ∈ text, (c != ']') = true := fun c mem =>
    bne_iff_ne.2 fun same => unbroken (same ▸ mem)
  unfold Bracket.between
  rw [List.takeWhile_append_of_pos other]
  simp

/-- What the brackets of a path come to. -/
structure Indexing (path : List Char) : Prop where
  /-- A path is cut into steps if the text of each bracket that opens an index denotes one, whether
  or not the bracket is closed. -/
  accepted : (∃ steps, cutSteps path = .ok steps) ↔
    ∀ b : Bracket, b.Opens path → ∃ i, Denotes b.text i
  /-- Otherwise the first text that denotes none is reported. -/
  refused : ∀ fault, cutSteps path = .error fault ↔ ∃ b : Bracket, b.Opens path ∧
    (∃ first, cutSteps b.before = .ok first) ∧ (¬ ∃ i, Denotes b.text i) ∧
      fault = .invalidIndex (String.ofList b.text)
  /-- In a path that is cut every bracket opens an index, -/
  outside : ∀ steps, cutSteps path = .ok steps → ∀ before after, path = before ++ '[' :: after →
    isOutside before = true
  /-- which stands among the steps where the bracket stands in the path, -/
  placed : ∀ steps, cutSteps path = .ok steps → ∀ b : Bracket, b.Opens path →
    ∃ first i others, cutSteps b.before = .ok first ∧ Denotes b.text i ∧
      cutSteps b.rest = .ok others ∧ steps = first ++ .index i :: others
  /-- and there is no other index among them. -/
  only : ∀ steps, cutSteps path = .ok steps → ∀ i, .index i ∈ steps →
    ∃ b : Bracket, b.Opens path ∧ Denotes b.text i
  /-- All brackets of such a path are as they should be just if all are closed and none has a
  sign. -/
  proper : ∀ steps, cutSteps path = .ok steps → ((∀ b : Bracket, b.Opens path → b.IsProper) ↔
    ∀ b : Bracket, b.Opens path → b.behind.isSome = true ∧ '+' ∉ b.text)

/-- **The indices of a path** are what its brackets denote. -/
theorem index_brackets (path : List Char) : Indexing path where
  accepted := by
    constructor
    · rintro ⟨steps, cut⟩ b opens
      exact exists_denotes cut opens
    · intro denote
      rcases cutSteps_cases path with cut | ⟨b, opens, -, not⟩
      · exact cut
      · exact absurd (denote b opens) not
  refused fault := by
    constructor
    · intro refused
      rcases cutSteps_cases path with ⟨steps, cut⟩ | ⟨b, opens, ⟨first, cut⟩, not⟩
      · rw [cut] at refused
        cases refused
      · rw [opens.cutSteps_of_not_denotes cut not] at refused
        exact ⟨b, opens, ⟨first, cut⟩, not, (Except.error.inj refused).symm⟩
    · rintro ⟨b, opens, ⟨first, cut⟩, not, rfl⟩
      exact opens.cutSteps_of_not_denotes cut not
  outside steps cut before after whole := isOutside_of_cutSteps cut whole
  placed steps cut b opens := opens.cutSteps_eq_ok_iff.1 cut
  only steps cut i mem := exists_opens_of_index_mem cut mem
  proper steps cut := by
    refine forall₂_congr fun b opens => and_congr_right fun _ => ?_
    obtain ⟨i, denotes⟩ := exists_denotes cut opens
    constructor
    · rintro ⟨j, spells⟩
      exact (Denotes.spells_iff (.inl spells)).1 spells
    · intro unsigned
      exact ⟨i, denotes.spells_iff.2 unsigned⟩

/-- A bracket that is not closed is read as an index, and so is a number with a sign; neither is as
it should be. -/
theorem cutSteps_unclosed :
    (cutSteps "items[0".toList = .ok [.field "items", .index 0] ∧
      Bracket.Opens ⟨"items".toList, ['0'], none⟩ "items[0".toList ∧
      ¬ Bracket.IsProper ⟨"items".toList, ['0'], none⟩) ∧
    cutSteps "items[+1]".toList = .ok [.field "items", .index 1] ∧
      Bracket.Opens ⟨"items".toList, ['+', '1'], some []⟩ "items[+1]".toList ∧
      ¬ Bracket.IsProper ⟨"items".toList, ['+', '1'], some []⟩ := by
  refine ⟨⟨by decide +kernel, ⟨by decide +kernel, by decide +kernel, by decide⟩, ?unclosed⟩,
    by decide +kernel, ⟨by decide +kernel, by decide +kernel, by decide⟩, ?signed⟩
  case unclosed =>
    rintro ⟨closed, -⟩
    cases closed
  case signed =>
    rintro ⟨-, i, spells⟩
    exact (Denotes.spells_iff (.inl spells)).1 spells List.mem_cons_self

end JsonPath

end Vigil

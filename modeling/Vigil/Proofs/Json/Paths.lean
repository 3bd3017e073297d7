import Vigil.Extraction.Rules
import Vigil.Proofs.Json.Indices
import Vigil.Proofs.Json.Nodes

/-!
# Paths to the nodes of a document

Steps into a document are spelled as a path, and the path is cut into the same steps again
(`steps_spell`). So it selects the node that the steps lead to, if there is one, and otherwise the
first step that leads nowhere is reported (`select_spell`). Only some names can stand in a path:
those without dots and opening brackets, and at its end those without a blank behind them.
-/

set_option autoImplicit false

namespace Vigil

namespace PathStep

/-- How a step is written in a path. -/
def text : PathStep → String
  | .field name => "." ++ name
  | .index i => "[" ++ toString i ++ "]"

/-- A step that can be written in a path. -/
def IsPlain : PathStep → Prop
  | .field name => name ≠ "" ∧ '.' ∉ name.toList ∧ '[' ∉ name.toList
  | .index i => i < UInt64.size

/-- What is reported of a step that leads nowhere. -/
def fault : PathStep → ExtractionFault
  | .field name => .fieldMissing name
  | .index i => .indexOutOfBounds i

theorem toList_text_field (name : String) : (text (.field name)).toList = '.' :: name.toList := by
  unfold text
  rw [String.toList_append]
  rfl

theorem toList_text_index (i : Nat) :
    (text (.index i)).toList = '[' :: (Nat.toDigits 10 i ++ [']']) := by
  unfold text
  rw [String.toList_append, String.toList_append, show toString i = i.repr from rfl,
    Nat.toList_repr]
  rfl

end PathStep

namespace JsonPath

/-- The path that some steps spell. -/
def spell (path : List PathStep) : String := "$" ++ String.join (path.map PathStep.text)

/-- Steps that a path can spell. -/
structure IsSpellable (path : List PathStep) : Prop where
  plain : ∀ s ∈ path, s.IsPlain
  /-- A name at the end does not end in a blank. -/
  ending : ∀ name, path.getLast? = some (.field name) →
    ∀ c ∈ name.toList.getLast?, Text.isBlank c = false

/-- The characters of some steps, one behind the other. -/
def chars (path : List PathStep) : List Char := path.flatMap fun s => s.text.toList

variable {path rest : List PathStep} {name r : List Char} {i : Nat}

theorem toList_spell (path : List PathStep) : (spell path).toList = '$' :: chars path := by
  unfold spell chars
  rw [String.toList_append, String.toList_join, List.flatMap_map]
  rfl

/-! ## Cutting a path -/

/-- The characters of a name are kept, up to the next mark. -/
theorem cut_name (noDot : '.' ∉ name) (noBracket : '[' ∉ name) (before r : List Char) :
    cut (.field before) (name ++ r) = cut (.field (name.reverse ++ before)) r := by
  induction name generalizing before with
  | nil => rfl
  | cons c name ih =>
    obtain ⟨dot, noDot⟩ := not_or.1 (List.mem_cons.not.1 noDot)
    obtain ⟨bracket, noBracket⟩ := not_or.1 (List.mem_cons.not.1 noBracket)
    rw [List.cons_append, cut, if_neg (Ne.symm dot), if_neg (Ne.symm bracket),
      ih noDot noBracket, List.reverse_cons, List.append_assoc]
    rfl

/-- The characters of an index are kept, up to the closing bracket. -/
theorem cut_digits (noBracket : ']' ∉ name) (before r : List Char) :
    cut (.index before) (name ++ r) = cut (.index (name.reverse ++ before)) r := by
  induction name generalizing before with
  | nil => rfl
  | cons c name ih =>
    obtain ⟨bracket, noBracket⟩ := not_or.1 (List.mem_cons.not.1 noBracket)
    rw [List.cons_append, cut, if_neg (Ne.symm bracket), ih noBracket, List.reverse_cons,
      List.append_assoc]
    rfl

/-- What is cut out of the characters of some steps are these steps, behind the name that was being
read. -/
theorem cut_chars (plain : ∀ s ∈ path, s.IsPlain) (before : List Char) :
    cut (.field before) (chars path) = .ok (withField before path) := by
  induction path generalizing before with
  | nil => rfl
  | cons s path ih =>
    have others := ih fun t mem => plain t (List.mem_cons_of_mem s mem)
    have here := plain s List.mem_cons_self
    rw [chars, List.flatMap_cons]
    cases s with
    | field name =>
      obtain ⟨some, noDot, noBracket⟩ := here
      have named : withField name.toList.reverse path = .field name :: path := by
        unfold withField
        rw [if_neg (by simpa using some), List.reverse_reverse, String.ofList_toList]
      rw [PathStep.toList_text_field, List.cons_append, cut, if_pos rfl, cut_name noDot noBracket,
        List.append_nil, ← chars, others, named]
      rfl
    | index i =>
      have noBracket : ']' ∉ Nat.toDigits 10 i := by
        intro mem
        have digit : ']'.isDigit = true := Digits.isDigit_of_mem mem
        cases digit
      rw [PathStep.toList_text_index, List.cons_append, cut, if_neg (by decide), if_pos rfl,
        List.append_assoc, cut_digits noBracket, List.append_nil, List.singleton_append, cut,
        if_pos rfl, List.reverse_reverse, readIndex_toDigits here, ← chars, others]
      rfl

/-- A dot at the beginning makes no difference. -/
theorem cutSteps_dropLead (cs : List Char) : cutSteps (dropLead '.' cs) = cutSteps cs := by
  cases cs with
  | nil => rfl
  | cons c cs =>
    rw [dropLead]
    by_cases dot : c = '.'
    · subst dot
      rw [if_pos rfl]
      unfold cutSteps
      rw [cut, if_pos rfl]
      cases cut (.field []) cs <;> rfl
    · rw [if_neg dot]

/-- Nothing is trimmed off a path at its end. -/
theorem getLast?_chars (spellable : IsSpellable path) :
    ∀ c ∈ ('$' :: chars path).getLast?, Text.isBlank c = false := by
  intro c mem
  cases last : path.getLast? with
  | none =>
    rw [List.getLast?_eq_none_iff.1 last] at mem
    cases mem
    rfl
  | some s =>
    obtain ⟨before, rfl⟩ := List.getLast?_eq_some_iff.1 last
    have here := spellable.plain s (by simp)
    rw [chars, List.flatMap_append, List.flatMap_singleton, ← List.cons_append,
      List.getLast?_append] at mem
    cases s with
    | field name =>
      obtain ⟨d, ends⟩ := Option.isSome_iff_exists.1
        (List.getLast?_isSome.2 fun none => here.1 (String.toList_eq_nil_iff.1 none))
      rw [PathStep.toList_text_field, List.getLast?_cons, ends] at mem
      cases mem
      exact spellable.ending name last _ ends
    | index i =>
      rw [PathStep.toList_text_index, ← List.cons_append, List.getLast?_concat] at mem
      cases mem
      rfl

/-- **A path is cut into the steps that it spells.** -/
theorem steps_spell (spellable : IsSpellable path) : steps (spell path) = .ok path := by
  have trimmed : Text.trimChars ('$' :: chars path) = '$' :: chars path :=
    Text.trimChars_of_ends (by rintro c ⟨⟩; rfl) (getLast?_chars spellable)
  have bare : dropLead '$' ('$' :: chars path) = chars path := by rw [dropLead, if_pos rfl]
  unfold steps
  rw [toList_spell, trimmed, bare, cutSteps_dropLead]
  exact cut_chars spellable.plain []

/-! ## Following the steps -/

variable {v u w : Json} {s : PathStep} {f : ExtractionFault}

theorem field?_cases (v : Json) (name : String) :
    (∃ w, v.field? name = some w ∧ v.Below (.field name) w) ∨
      v.field? name = none ∧ ∀ w, ¬ v.Below (.field name) w := by
  cases v with
  | object ms =>
    cases found : ms.find? fun m => m.1 == name with
    | none =>
      refine .inr ⟨by simp only [Json.field?, found, Option.map_none], fun w below => ?_⟩
      cases below with
      | member mem => simpa using List.find?_eq_none.1 found _ mem
    | some m =>
      obtain ⟨name', w⟩ := m
      obtain rfl : name' = name := by simpa using List.find?_some found
      exact .inl ⟨w, by simp only [Json.field?, found, Option.map_some],
        .member (List.mem_of_find?_eq_some found)⟩
  | null | bool | number | string | array => exact .inr ⟨rfl, nofun⟩

theorem item?_cases (v : Json) (i : Nat) :
    (∃ w, v.item? i = some w ∧ v.Below (.index i) w) ∨
      v.item? i = none ∧ ∀ w, ¬ v.Below (.index i) w := by
  cases v with
  | array items =>
    cases found : items[i]? with
    | none =>
      refine .inr ⟨found, fun w below => ?_⟩
      cases below with
      | item here =>
        rw [found] at here
        cases here
    | some w => exact .inl ⟨w, found, .item found⟩
  | null | bool | number | string | object => exact .inr ⟨rfl, nofun⟩

/-- A step is taken, or it leads nowhere and that is reported. -/
theorem step_cases (v : Json) (s : PathStep) :
    (∃ w, step v s = .ok w ∧ v.Below s w) ∨
      step v s = .error s.fault ∧ ∀ w, ¬ v.Below s w := by
  cases s with
  | field name =>
    rcases field?_cases v name with ⟨w, found, below⟩ | ⟨none, nowhere⟩
    · exact .inl ⟨w, by rw [step, found], below⟩
    · exact .inr ⟨by rw [step, none, PathStep.fault], nowhere⟩
  | index i =>
    rcases item?_cases v i with ⟨w, found, below⟩ | ⟨none, nowhere⟩
    · exact .inl ⟨w, by rw [step, found], below⟩
    · exact .inr ⟨by rw [step, none, PathStep.fault], nowhere⟩

/-- Of some steps from a value, `s` is the first that leads nowhere. -/
def Misses (v : Json) (path : List PathStep) (s : PathStep) : Prop :=
  ∃ before after u, path = before ++ s :: after ∧ v.Reaches before u ∧ ∀ w, ¬ u.Below s w

theorem misses_here (nowhere : ∀ w, ¬ v.Below s w) (path : List PathStep) :
    Misses v (s :: path) s :=
  ⟨[], path, v, rfl, .root v, nowhere⟩

theorem Misses.later {t : PathStep} (below : v.Below s u) (misses : Misses u path t) :
    Misses v (s :: path) t := by
  obtain ⟨before, after, x, rfl, reaches, nowhere⟩ := misses
  exact ⟨s :: before, after, x, rfl, .step below reaches, nowhere⟩

/-- Following steps leads to a node, or to the first step that leads nowhere. -/
theorem follow_cases (v : Json) (path : List PathStep) :
    (∃ w, path.foldlM step v = .ok w ∧ v.Reaches path w) ∨
      ∃ s, path.foldlM step v = .error s.fault ∧ Misses v path s := by
  induction path generalizing v with
  | nil => exact .inl ⟨v, rfl, .root v⟩
  | cons s path ih =>
    rw [List.foldlM_cons]
    rcases step_cases v s with ⟨u, taken, below⟩ | ⟨refused, nowhere⟩
    · rw [taken]
      rcases ih u with ⟨w, reached, reaches⟩ | ⟨t, missed, misses⟩
      · exact .inl ⟨w, reached, .step below reaches⟩
      · exact .inr ⟨t, missed, misses.later below⟩
    · rw [refused]
      exact .inr ⟨s, rfl, misses_here nowhere path⟩

/-- In a distinct document a step leads to nothing else. -/
theorem step_of_below (distinct : v.IsDistinct) (below : v.Below s w) : step v s = .ok w := by
  rcases step_cases v s with ⟨u, taken, below'⟩ | ⟨-, nowhere⟩
  · rw [taken, distinct.unique below' below]
  · exact absurd below (nowhere w)

theorem follow_of_reaches (distinct : v.IsDistinct) (reaches : v.Reaches path w) :
    path.foldlM step v = .ok w := by
  induction reaches with
  | root => rfl
  | step below on ih =>
    rw [List.foldlM_cons, step_of_below distinct below]
    exact ih (distinct.below below)

theorem follow_of_misses (distinct : v.IsDistinct) (misses : Misses v path s) :
    path.foldlM step v = .error s.fault := by
  obtain ⟨before, after, u, rfl, reaches, nowhere⟩ := misses
  induction reaches with
  | root =>
    rcases step_cases _ s with ⟨w, -, below⟩ | ⟨refused, -⟩
    · exact absurd below (nowhere w)
    · rw [List.nil_append, List.foldlM_cons, refused]
      rfl
  | step below on ih =>
    rw [List.cons_append, List.foldlM_cons, step_of_below distinct below]
    exact ih (distinct.below below) nowhere

theorem select_eq_follow (spellable : IsSpellable path) (v : Json) :
    select v (spell path) = path.foldlM step v := by
  unfold select
  rw [steps_spell spellable]
  rfl

theorem select_eq_ok_iff (spellable : IsSpellable path) (distinct : v.IsDistinct) :
    select v (spell path) = .ok w ↔ v.Reaches path w := by
  rw [select_eq_follow spellable]
  refine ⟨fun selected => ?_, follow_of_reaches distinct⟩
  rcases follow_cases v path with ⟨u, reached, reaches⟩ | ⟨s, missed, -⟩
  · rw [reached] at selected
    cases selected
    exact reaches
  · rw [missed] at selected
    cases selected

theorem select_eq_error_iff (spellable : IsSpellable path) (distinct : v.IsDistinct) :
    select v (spell path) = .error f ↔ ∃ s, Misses v path s ∧ f = s.fault := by
  rw [select_eq_follow spellable]
  constructor
  · intro refused
    rcases follow_cases v path with ⟨u, reached, -⟩ | ⟨s, missed, misses⟩
    · rw [reached] at refused
      cases refused
    · rw [missed] at refused
      cases refused
      exact ⟨s, misses, rfl⟩
  · rintro ⟨s, misses, rfl⟩
    exact follow_of_misses distinct misses

/-- What the path that some steps spell stands for. -/
structure Addresses (path : List PathStep) : Prop where
  /-- It selects the node that the steps lead to, if each leads on: names from objects, and indices
  from arrays. -/
  reached : ∀ v w : Json, v.IsDistinct → (select v (spell path) = .ok w ↔ v.Reaches path w)
  /-- Otherwise there is an error, -/
  otherwise : ∀ v : Json, v.IsDistinct →
    ((∃ fault, select v (spell path) = .error fault) ↔ ¬ ∃ w, v.Reaches path w)
  /-- and it reports the first step that leads nowhere. -/
  missed : ∀ (v : Json) (fault : ExtractionFault), v.IsDistinct →
    (select v (spell path) = .error fault ↔ ∃ s, Misses v path s ∧ fault = s.fault)
  /-- Documents that are read are distinct. So a rule with this path takes the node out of a
  response, or fails for the first step that leads nowhere. -/
  taken : ∀ (r : Response) (rule : Rule) (v : Json), rule.source = .jsonPath (spell path) →
    Json.ofBytes r.body = .ok v →
      (∀ w, v.Reaches path w → rule.value r = .ok w.plainText) ∧
      ∀ s, Misses v path s → rule.value r = .error (.extraction rule.name s.fault)

/-- **Every node is addressed by its path.** -/
theorem select_spell (path : List PathStep) (spellable : IsSpellable path) : Addresses path where
  reached v w distinct := select_eq_ok_iff spellable distinct
  otherwise v distinct := by
    constructor
    · rintro ⟨fault, refused⟩ ⟨w, reaches⟩
      rw [(select_eq_ok_iff spellable distinct).2 reaches] at refused
      cases refused
    · intro nowhere
      cases selected : select v (spell path) with
      | ok w => exact absurd ⟨w, (select_eq_ok_iff spellable distinct).1 selected⟩ nowhere
      | error fault => exact ⟨fault, rfl⟩
  missed v fault distinct := select_eq_error_iff spellable distinct
  taken r rule v source read := by
    have distinct := (Json.ofBytes_inOrder read).isDistinct
    constructor
    · intro w reaches
      have selected := (select_eq_ok_iff spellable distinct).2 reaches
      simp only [Rule.value, source, Rule.pathValue, read, selected]
      rfl
    · intro s misses
      have refused := (select_eq_error_iff spellable distinct).2 ⟨s, misses, rfl⟩
      simp only [Rule.value, source, Rule.pathValue, read, refused]
      rfl

/-- Steps with marks and blanks in their names, one index right behind another, and after them the
largest index. -/
def crowded : List PathStep :=
  [.field "a]$", .index 1, .index 0, .field " b ", .index 18446744073709551615]

/-- A document that all of these steps but the last lead into. -/
def crowdedDocument : Json :=
  .object [("a]$", .array [.null, .array [.object [(" b ", .array [.bool true])]]])]

theorem isDistinct_crowdedDocument : crowdedDocument.IsDistinct := by
  refine .object (by decide) (List.forall_mem_singleton.2 (.array ?_))
  refine List.forall_mem_cons.2 ⟨.scalar nofun nofun, List.forall_mem_singleton.2 (.array ?_)⟩
  refine List.forall_mem_singleton.2 (.object (by decide) (List.forall_mem_singleton.2 (.array ?_)))
  exact List.forall_mem_singleton.2 (.scalar nofun nofun)

/-- The path is read as it was spelled, up to the index that no array has. -/
theorem select_spell_crowded :
    spell crowded = "$.a]$[1][0]. b [18446744073709551615]" ∧ IsSpellable crowded ∧
      crowdedDocument.IsDistinct ∧
      select crowdedDocument "$.a]$[1][0]. b [18446744073709551615]" =
        .error (.indexOutOfBounds 18446744073709551615) := by
  have spelled : spell crowded = "$.a]$[1][0]. b [18446744073709551615]" := by decide +kernel
  have spellable : IsSpellable crowded := by
    refine ⟨?_, by simp [crowded]⟩
    intro s mem
    simp only [crowded, List.mem_cons, List.not_mem_nil, or_false] at mem
    rcases mem with rfl | rfl | rfl | rfl | rfl
    all_goals simp [PathStep.IsPlain, UInt64.size]
  have last : Misses crowdedDocument crowded (.index 18446744073709551615) := by
    refine ⟨[.field "a]$", .index 1, .index 0, .field " b "], [], .array [.bool true], rfl, ?_, ?_⟩
    · exact .step (.member List.mem_cons_self) (.step (.item (i := 1) rfl)
        (.step (.item (i := 0) rfl) (.step (.member List.mem_cons_self) (.root _))))
    · intro w below
      cases below with
      | item here => simp at here
  refine ⟨spelled, spellable, isDistinct_crowdedDocument, ?_⟩
  rw [← spelled]
  exact ((select_spell crowded spellable).missed crowdedDocument _
    isDistinct_crowdedDocument).2 ⟨_, last, rfl⟩

end JsonPath

end Vigil

import Mathlib.Data.List.Sort
import Vigil.Proofs.Extraction
import Vigil.Proofs.Json.Paths
import Vigil.Proofs.Json.Values

/-!
# What rules for paths take out of a document

A rule with a path gives the node that the path selects as a text. A string gives itself, and any
other node the document that has it as its root, so that nothing of the node is lost
(`Rule.pathValue_faithful`). Values are the same if their objects have the same members in whatever
order (`Json.Same`). In documents that were read the order is that of the names, so values that are
the same are equal there, and have the same text.
-/

set_option autoImplicit false

namespace Vigil

namespace Json

/-! ## The same value -/

/-- Two values are the same, the order of the members of objects aside. -/
inductive Same : Json → Json → Prop where
  | null : Same .null .null
  | bool (t : Bool) : Same (.bool t) (.bool t)
  | number (x : Number) : Same (.number x) (.number x)
  | string (s : String) : Same (.string s) (.string s)
  | array {vs ws : List Json} (length : vs.length = ws.length)
      (each : ∀ (i : Nat) v w, vs[i]? = some v → ws[i]? = some w → Same v w) :
      Same (.array vs) (.array ws)
  | object {ms ns : List (String × Json)}
      (names : ∀ name, name ∈ ms.map Prod.fst ↔ name ∈ ns.map Prod.fst)
      (each : ∀ name v w, (name, v) ∈ ms → (name, w) ∈ ns → Same v w) :
      Same (.object ms) (.object ns)

variable {n : Nat} {v w : Json}

/-- A value is the same as itself if no name occurs twice in an object. -/
theorem same_refl (within : Within n v) (distinct : v.IsDistinct) : Same v v := by
  induction within with
  | @scalar n v noArray noObject =>
    cases v with
    | null => exact .null
    | bool t => exact .bool t
    | number x => exact .number x
    | string s => exact .string s
    | array items => exact absurd rfl (noArray items)
    | object ms => exact absurd rfl (noObject ms)
  | @array n items each ih =>
    refine .array rfl fun i v w here here' => ?_
    obtain rfl := Option.some.inj (here.symm.trans here')
    exact ih v (List.mem_of_getElem? here) (distinct.below (.item here))
  | @object n ms each ih =>
    refine .object (fun _ => Iff.rfl) fun name v w mem mem' => ?_
    obtain rfl := distinct.unique (.member mem) (.member mem')
    exact ih _ mem (distinct.below (.member mem))

/-- Members in the order of their names are equal if the names and the values are. -/
theorem members_eq {ms ns : List (String × Json)} (ordered : ms.Pairwise fun a b => a.1 < b.1)
    (ordered' : ns.Pairwise fun a b => a.1 < b.1)
    (names : ∀ name, name ∈ ms.map Prod.fst ↔ name ∈ ns.map Prod.fst)
    (each : ∀ name v w, (name, v) ∈ ms → (name, w) ∈ ns → v = w) : ms = ns := by
  have irrefl : Std.Irrefl fun a b : String × Json => a.1 < b.1 :=
    ⟨fun a => String.lt_irrefl a.1⟩
  have antisymm : Std.Antisymm fun a b : String × Json => a.1 < b.1 :=
    ⟨fun _ _ lt gt => absurd (String.lt_trans lt gt) (String.lt_irrefl _)⟩
  refine ordered.eq_of_mem_iff ordered' fun m => ?_
  obtain ⟨name, v⟩ := m
  constructor
  · intro mem
    obtain ⟨⟨_, w⟩, mem', rfl⟩ := List.mem_map.1 ((names name).1 (List.mem_map_of_mem mem))
    rw [each _ v w mem mem']
    exact mem'
  · intro mem
    obtain ⟨⟨_, w⟩, mem', rfl⟩ := List.mem_map.1 ((names name).2 (List.mem_map_of_mem mem))
    rw [← each _ w v mem' mem]
    exact mem'

/-- **Values that are the same are equal** if the names of each object are in order. -/
theorem Same.eq (same : Same v w) (ordered : v.IsInOrder) (ordered' : w.IsInOrder) : v = w := by
  induction same with
  | null | bool | number | string => rfl
  | @array vs ws length each ih =>
    refine congrArg Json.array (List.ext_getElem length fun i here here' => ?_)
    have at_i := List.getElem?_eq_getElem here
    have at_i' := List.getElem?_eq_getElem here'
    exact ih i _ _ at_i at_i' (ordered.below (.item at_i)) (ordered'.below (.item at_i'))
  | @object ms ns names each ih =>
    have first : ms.Pairwise fun a b => a.1 < b.1 := List.pairwise_map.1 (ordered [] ms (.root _))
    have second : ns.Pairwise fun a b => a.1 < b.1 :=
      List.pairwise_map.1 (ordered' [] ns (.root _))
    refine congrArg Json.object (members_eq first second names fun name v w mem mem' => ?_)
    exact ih name v w mem mem' (ordered.below (.member mem)) (ordered'.below (.member mem'))

/-! ## Texts of nodes -/

/-- Whether a value is a string. -/
def isString : Json → Bool
  | .string _ => true
  | _ => false

theorem plainText_of_isString (other : v.isString = false) : v.plainText = v.text := by
  cases v with
  | string => cases other
  | null | bool | number | array | object => rfl

end Json

/-- A path that selects a node leads there. -/
theorem JsonPath.exists_reaches {v w : Json} {path : String} (selected : select v path = .ok w) :
    ∃ steps, v.Reaches steps w := by
  unfold select at selected
  cases cut : JsonPath.steps path with
  | error fault =>
    rw [cut] at selected
    cases selected
  | ok steps =>
    rw [cut] at selected
    have followed : steps.foldlM step v = .ok w := selected
    rcases follow_cases v steps with ⟨u, reached, reaches⟩ | ⟨s, missed, -⟩
    · rw [reached] at followed
      cases followed
      exact ⟨steps, reaches⟩
    · rw [missed] at followed
      cases followed

namespace Rule

variable {rule rule' : Rule} {r r' : Response} {w w' : Json}

/-- A rule selects a node: its path leads there in the document in the body, and all numbers of the
document are whole. -/
def Selects (rule : Rule) (r : Response) (w : Json) : Prop :=
  ∃ path v, rule.source = .jsonPath path ∧ Json.ofBytes r.body = .ok v ∧ v.isWhole = true ∧
    JsonPath.select v path = .ok w

/-- What a rule that selects the node `w` takes out of the response. -/
structure Faithful (rule : Rule) (r : Response) (w : Json) : Prop where
  /-- A string gives itself. -/
  string : ∀ s, w = .string s → r.extract [rule] = .ok [.extracted rule.name s]
  /-- Any other node gives a text that is read as the node. -/
  text : w.isString = false →
    r.extract [rule] = .ok [.extracted rule.name w.text] ∧ Json.ofText w.text = .ok w
  /-- So it does between other rules. -/
  among : ∀ before after vs, r.extract (before ++ rule :: after) = .ok vs →
    vs[before.length]? = some (.extracted rule.name w.plainText)
  /-- A response with that text as its body gives the text again for the whole document. -/
  again : w.isString = false → ∀ (r' : Response) (rule' : Rule), r'.body = Text.encode w.text →
    rule'.source = .jsonPath "$" → r'.extract [rule'] = .ok [.extracted rule'.name w.text]
  /-- Of nodes that are no strings those give one text that are the same value, in whatever documents
  they are. -/
  same_iff : ∀ (rule' : Rule) (r' : Response) (w' : Json), rule'.Selects r' w' →
    w.isString = false → w'.isString = false →
    ((∃ text, r.extract [rule] = .ok [.extracted rule.name text] ∧
      r'.extract [rule'] = .ok [.extracted rule'.name text]) ↔ w.Same w')

theorem extract_of_select {path : String} {v : Json} (source : rule.source = .jsonPath path)
    (read : Json.ofBytes r.body = .ok v) (selected : JsonPath.select v path = .ok w) :
    rule.extract r = .ok (.extracted rule.name w.plainText) := by
  refine extract_eq_ok_iff.2 ⟨w.plainText, ?_, rfl⟩
  simp only [value, source, pathValue, read, selected]
  rfl

theorem Selects.extract (selects : rule.Selects r w) :
    rule.extract r = .ok (.extracted rule.name w.plainText) := by
  obtain ⟨path, v, source, read, -, selected⟩ := selects
  exact extract_of_select source read selected

/-- What is selected is read back from its text. -/
theorem Selects.ofText (selects : rule.Selects r w) : Json.ofText w.text = .ok w := by
  obtain ⟨path, v, -, read, whole, selected⟩ := selects
  obtain ⟨steps, reaches⟩ := JsonPath.exists_reaches selected
  exact Json.ofText_text read reaches (Json.isWhole_of_reaches whole reaches)

/-- Nodes that are selected are the same exactly if one text is written for both. -/
theorem Selects.same_iff (selects : rule.Selects r w) (selects' : rule'.Selects r' w') :
    w.Same w' ↔ w.text = w'.text := by
  have read := selects.ofText
  have read' := selects'.ofText
  constructor
  · intro same
    rw [same.eq (Json.ofBytes_inOrder read) (Json.ofBytes_inOrder read')]
  · intro texts
    rw [texts, read'] at read
    obtain rfl := Except.ok.inj read
    exact Json.same_refl (Json.ofBytes_within read') (Json.ofBytes_inOrder read').isDistinct

/-- **What rules for paths give.** -/
theorem pathValue_faithful (selects : rule.Selects r w) : rule.Faithful r w := by
  have alone : ∀ {rule : Rule} {r : Response} {w : Json}, rule.Selects r w →
      r.extract [rule] = .ok [.extracted rule.name w.plainText] := fun selects =>
    Response.extract_singleton_eq_ok_iff.2 ⟨_, rfl, selects.extract⟩
  constructor
  case string =>
    rintro s rfl
    exact alone selects
  case text =>
    intro other
    rw [← Json.plainText_of_isString other]
    refine ⟨alone selects, ?_⟩
    rw [Json.plainText_of_isString other]
    exact selects.ofText
  case among =>
    intro before after vs ok
    obtain ⟨v, place, own⟩ := Response.variable_of_extract ok
    rw [place, ← Except.ok.inj (selects.extract.symm.trans own)]
  case again =>
    intro other r' rule' body source
    have read : Json.ofBytes r'.body = .ok w := by
      rw [body]
      exact selects.ofText
    have own := extract_of_select source read (show JsonPath.select w "$" = .ok w from rfl)
    rw [Json.plainText_of_isString other] at own
    exact Response.extract_singleton_eq_ok_iff.2 ⟨_, rfl, own⟩
  case same_iff =>
    intro rule' r' w' selects' other other'
    rw [selects.same_iff selects', alone selects, alone selects', Json.plainText_of_isString other,
      Json.plainText_of_isString other']
    constructor
    · rintro ⟨text, eq, eq'⟩
      have one := (Variable.mk.inj (List.singleton_inj.1 (Except.ok.inj eq))).2.2
      have other := (Variable.mk.inj (List.singleton_inj.1 (Except.ok.inj eq'))).2.2
      exact one.trans other.symm
    · intro texts
      exact ⟨w.text, rfl, by rw [texts]⟩

/-- A document with blanks, a name that occurs twice, both ends of the range of whole numbers, a
nought behind a minus sign, and escapes in a string. -/
def ledger : Response where
  body := Text.encode <|
    "[ \x7b\"z\":1, \"b\":[-9223372036854775808 ,18446744073709551615],\n" ++
      "\"z\":\"\\u00e9\\u0001\\\"\\ud83d\\ude00\", \"a\":\x7b\"x\":-0\x7d\x7d ]"

/-- A rule for the first item of an array. -/
def firstItem : Rule := ⟨"entry", .jsonPath "$[0]"⟩

/-- What is written for the first item: members in the order of their names, the last of two with one
name. -/
def entry : String :=
  "\x7b\"a\":\x7b\"x\":-0.0\x7d,\"b\":[-9223372036854775808,18446744073709551615]," ++
    "\"z\":\"é\\u0001\\\"😀\"\x7d"

/-- The first item of the document is taken out as its text, and nothing of it is lost. -/
theorem pathValue_faithful_ledger : ∃ w, firstItem.Selects ledger w ∧ w.isString = false ∧
    firstItem.Faithful ledger w ∧ ledger.extract [firstItem] = .ok [.extracted "entry" entry] := by
  have computed : (Json.ofBytes ledger.body).toOption.map (fun v => (v.isWhole,
      (JsonPath.select v "$[0]").toOption.map fun w => (w.isString, w.text))) =
      some (true, some (false, entry)) := by
    decide +kernel
  obtain ⟨v, read, outcome⟩ := Option.map_eq_some_iff.1 computed
  obtain ⟨whole, item⟩ := Prod.mk.inj outcome
  obtain ⟨w, selected, outcome⟩ := Option.map_eq_some_iff.1 item
  obtain ⟨other, text⟩ := Prod.mk.inj outcome
  have selects : firstItem.Selects ledger w :=
    ⟨_, v, rfl, eq_ok_of_toOption read, whole, eq_ok_of_toOption selected⟩
  have law := pathValue_faithful selects
  refine ⟨w, selects, other, law, ?_⟩
  rw [← text]
  exact (law.text other).1

end Rule

end Vigil

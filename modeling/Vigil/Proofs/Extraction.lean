import Vigil.Extraction.Rules
import Vigil.Proofs.Sequence

/-!
# What rules take out of a response

The document in a body is read once and shared between rules. What is known of it is always what
reading it would give (`Response.Knows`), so each rule yields what it yields by itself
(`Rule.valueKnowing_cases`), and carrying out rules one after the other is the same as carrying out
each afresh (`Response.extractFrom_eq`). Hence rules succeed together exactly when each succeeds
alone, and then each gives its own variable (`extract_eq_ok_iff`). Otherwise the first one that fails
gives the failure (`extract_eq_error_iff`), which is about its variable (`Rule.failure_of_extract`)
or about its pattern (`Rule.extract_eq_configuration_iff`).
-/

set_option autoImplicit false

namespace Vigil

/-- The name and the origin of a variable. -/
def Variable.label (v : Variable) : String × Origin := (v.name, v.origin)

/-- The name and the origin of the variable that a rule yields. -/
def Rule.label (rule : Rule) : String × Origin := (rule.name, .extracted)

theorem Rule.label_of_extract {rule : Rule} {r : Response} {v : Variable}
    (ok : rule.extract r = .ok v) : v.label = rule.label := by
  unfold Rule.extract at ok
  cases value : rule.value r with
  | error f =>
    rw [value] at ok
    cases ok
  | ok text =>
    rw [value] at ok
    cases ok
    rfl

/-- A rule fails for a reason in the response, which is reported under its name, or for its
pattern. -/
theorem Rule.failure_of_extract {rule : Rule} {r : Response} {f : Failure}
    (failed : rule.extract r = .error f) :
    (∃ fault, f = .extraction rule.name fault) ∨ ∃ cause, f = .configuration cause := by
  have value : rule.value r = .error f := by
    unfold Rule.extract at failed
    cases value : rule.value r with
    | error f' =>
      rw [value] at failed
      cases failed
      rfl
    | ok text =>
      rw [value] at failed
      cases failed
  have said : ∀ {fault}, (rule.fail fault : Except Failure String) = .error f →
      ∃ fault, f = .extraction rule.name fault :=
    fun {fault} eq => ⟨fault, (Except.error.inj eq).symm⟩
  unfold Rule.value at value
  split at value
  · split at value
    · cases value
    · exact .inl (said value)
  · cases value
  · split at value
    · cases value
    · exact .inl (said value)
  · split at value
    · exact .inr ⟨_, (Except.error.inj value).symm⟩
    · split at value
      · exact .inr ⟨_, (Except.error.inj value).symm⟩
      · split at value
        · exact .inl (said value)
        · split at value
          · cases value
          · exact .inl (said value)

theorem Rule.labels_of_each {r : Response} {rules : List Rule} {vs : List Variable}
    (each : List.Forall₂ (fun rule v => rule.extract r = .ok v) rules vs) :
    vs.map Variable.label = rules.map Rule.label := by
  induction each with
  | nil => rfl
  | cons first _ ih => rw [List.map_cons, List.map_cons, Rule.label_of_extract first, ih]

/-- What is wrong with the pattern of a rule, if it has one and that is no good. -/
def Rule.patternFault? (rule : Rule) : Option Misconfiguration :=
  match rule.source with
  | .regex source =>
    match Pattern.ofText? source with
    | none => some (.invalidPattern rule.name)
    | some p => if p.isOversized then some (.oversizedPattern rule.name Pattern.maxBytes) else none
  | _ => none

theorem Rule.extract_eq_error_iff {rule : Rule} {r : Response} {f : Failure} :
    rule.extract r = .error f ↔ rule.value r = .error f := by
  unfold extract
  cases rule.value r with
  | error f' =>
    constructor
    · intro eq
      exact congrArg _ (Except.error.inj eq)
    · intro eq
      exact congrArg _ (Except.error.inj eq)
  | ok text => exact iff_of_false nofun nofun

/-- What a rule yields becomes a variable with its name. -/
theorem Rule.extract_eq_ok_iff {rule : Rule} {r : Response} {v : Variable} :
    rule.extract r = .ok v ↔ ∃ text, rule.value r = .ok text ∧ v = .extracted rule.name text := by
  unfold extract
  cases rule.value r with
  | error fault => exact iff_of_false nofun fun ⟨_, ok, _⟩ => nomatch ok
  | ok text =>
    constructor
    · intro ok
      exact ⟨text, rfl, (Except.ok.inj ok).symm⟩
    · rintro ⟨text', ok, rfl⟩
      rw [Except.ok.inj ok]
      rfl

/-- A rule is reported as a configuration error for its pattern, and that is the same for every
response. -/
theorem Rule.extract_eq_configuration_iff {rule : Rule} {r : Response} {cause : Misconfiguration} :
    rule.extract r = .error (.configuration cause) ↔ rule.patternFault? = some cause := by
  have other : ∀ fault, (rule.fail fault : Except Failure String) ≠ .error (.configuration cause) :=
    nofun
  rw [extract_eq_error_iff]
  unfold value patternFault?
  cases rule.source with
  | status => exact iff_of_false nofun nofun
  | header name =>
    simp only
    split
    · exact iff_of_false nofun nofun
    · exact iff_of_false (other _) nofun
  | jsonPath path =>
    simp only
    split
    · exact iff_of_false nofun nofun
    · exact iff_of_false (other _) nofun
  | regex source =>
    simp only
    cases Pattern.ofText? source with
    | none => simp
    | some p =>
      simp only
      by_cases large : p.isOversized = true
      · simp [large]
      · rw [if_neg large, if_neg large]
        refine iff_of_false ?_ nofun
        split
        · exact other _
        · split
          · exact nofun
          · exact other _

/-! ## The document that is shared -/

/-- What is known of the document in the body, if anything, is what reading it gives. -/
def Response.Knows (r : Response) (known : Option Json) : Prop :=
  ∀ v, known = some v → Json.ofBytes r.body = .ok v

theorem Response.knows_none (r : Response) : r.Knows none := nofun

theorem Response.Knows.document_eq {r : Response} {known : Option Json} (knows : r.Knows known) :
    r.document known = Json.ofBytes r.body := by
  unfold document
  cases known with
  | none => rfl
  | some v => exact (knows v rfl).symm

/-- **One rule.** If what is known is right, a rule yields what it yields by itself, and what is
known then is right again. -/
theorem Rule.valueKnowing_cases {r : Response} {known : Option Json} (rule : Rule)
    (knows : r.Knows known) :
    (∃ f, rule.value r = .error f ∧ rule.valueKnowing r known = .error f) ∨
      ∃ v later, rule.value r = .ok v ∧ rule.valueKnowing r known = .ok (v, later) ∧
        r.Knows later := by
  have unread : (∀ path, rule.source ≠ .jsonPath path) →
      rule.valueKnowing r known = do return (← rule.value r, known) := by
    intro other
    unfold valueKnowing
    cases source : rule.source with
    | jsonPath path => exact absurd source (other path)
    | header name | status | regex pattern => rfl
  by_cases asks : ∃ path, rule.source = .jsonPath path
  · obtain ⟨path, source⟩ := asks
    unfold valueKnowing value pathValue
    rw [source]
    simp only [knows.document_eq]
    cases read : Json.ofBytes r.body with
    | error e => exact .inl ⟨_, rfl, rfl⟩
    | ok v =>
      simp only
      cases JsonPath.select v path with
      | error fault => exact .inl ⟨_, rfl, rfl⟩
      | ok w =>
        refine .inr ⟨_, _, rfl, rfl, fun v' eq => ?_⟩
        obtain rfl := Option.some.inj eq
        exact read
  · rw [unread fun path source => asks ⟨path, source⟩]
    cases rule.value r with
    | error f => exact .inl ⟨f, rfl, rfl⟩
    | ok v => exact .inr ⟨v, known, rfl, rfl, knows⟩

namespace Response

variable {r : Response} {known : Option Json} {rule : Rule} {rules : List Rule}
  {vs : List Variable} {f : Failure}

/-- **One rule after the other.** Whatever is known of the document, the rules yield what each yields
by itself. -/
theorem extractFrom_eq (knows : r.Knows known) :
    r.extractFrom known rules = rules.mapM fun rule => rule.extract r := by
  induction rules generalizing known with
  | nil => rfl
  | cons rule rest ih =>
    rw [List.mapM_cons]
    unfold extractFrom Rule.extract
    rcases rule.valueKnowing_cases knows with ⟨f, value, knowing⟩ | ⟨v, later, value, knowing, still⟩
    · rw [value, knowing]
      rfl
    · rw [value, knowing]
      show (do return Variable.extracted rule.name v :: (← r.extractFrom later rest)) = _
      rw [ih still]
      rfl

theorem extract_eq_ok_iff :
    r.extract rules = .ok vs ↔ List.Forall₂ (fun rule v => rule.extract r = .ok v) rules vs := by
  rw [extract, extractFrom_eq r.knows_none]
  exact mapM_eq_ok_iff

theorem extract_eq_error_iff :
    r.extract rules = .error f ↔ ∃ before rule after, rules = before ++ rule :: after ∧
      rule.extract r = .error f ∧ ∀ e ∈ before, ∃ v, e.extract r = .ok v := by
  rw [extract, extractFrom_eq r.knows_none]
  exact mapM_eq_error_iff

/-- The variable of a rule stands where the rule does. -/
theorem variable_of_extract {before after : List Rule}
    (ok : r.extract (before ++ rule :: after) = .ok vs) :
    ∃ v, vs[before.length]? = some v ∧ rule.extract r = .ok v := by
  have each := List.forall₂_drop before.length (extract_eq_ok_iff.1 ok)
  rw [List.drop_left] at each
  obtain ⟨v, rest, own, -, place⟩ := List.forall₂_cons_left_iff.1 each
  refine ⟨v, ?_, own⟩
  rw [← List.head?_drop, place]
  rfl

/-! ## Rules taken alone -/

theorem extract_singleton (r : Response) (rule : Rule) :
    r.extract [rule] = (rule.extract r).map fun v => [v] := by
  rw [extract, extractFrom_eq r.knows_none, List.mapM_cons, List.mapM_nil]
  cases rule.extract r <;> rfl

theorem extract_singleton_eq_error_iff :
    r.extract [rule] = .error f ↔ rule.extract r = .error f := by
  rw [extract_singleton]
  cases rule.extract r with
  | error f' =>
    constructor
    · intro eq
      exact congrArg _ (Except.error.inj eq)
    · intro eq
      exact congrArg _ (Except.error.inj eq)
  | ok v => exact iff_of_false nofun nofun

theorem extract_singleton_eq_ok_iff :
    r.extract [rule] = .ok vs ↔ ∃ v, vs = [v] ∧ rule.extract r = .ok v := by
  rw [extract_singleton]
  cases rule.extract r with
  | error f => exact iff_of_false nofun (by rintro ⟨v, -, eq⟩; cases eq)
  | ok v =>
    constructor
    · intro eq
      exact ⟨v, (Except.ok.inj eq).symm, rfl⟩
    · rintro ⟨v', rfl, eq⟩
      rw [Except.ok.inj eq]
      rfl

theorem exists_extract_singleton_iff :
    (∃ vs, r.extract [rule] = .ok vs) ↔ ∃ v, rule.extract r = .ok v := by
  simp only [extract_singleton_eq_ok_iff]
  exact ⟨fun ⟨_, v, _, ok⟩ => ⟨v, ok⟩, fun ⟨v, ok⟩ => ⟨[v], v, rfl, ok⟩⟩

/-- What comes of rules is what comes of each of them taken alone. -/
structure RuleByRule (r : Response) (rules : List Rule) : Prop where
  /-- They succeed together exactly when each succeeds alone. -/
  succeeds_iff : (∃ vs, r.extract rules = .ok vs) ↔
    ∀ rule ∈ rules, ∃ vs, r.extract [rule] = .ok vs
  /-- Then there is one variable for each rule, in their order, with the name of the rule and the
  value that it gives alone. -/
  variables_eq : ∀ vs, r.extract rules = .ok vs →
    List.Forall₂ (fun rule v =>
      r.extract [rule] = .ok [v] ∧ v.name = rule.name ∧ v.origin = .extracted) rules vs
  /-- Otherwise they fail as the first rule fails that fails alone, whatever the others are. -/
  fails_iff : ∀ f, r.extract rules = .error f ↔
    ∃ before rule after, rules = before ++ rule :: after ∧
      (∀ e ∈ before, ∃ vs, r.extract [e] = .ok vs) ∧ r.extract [rule] = .error f
  /-- That is an extraction failure with the name of the rule, or the rule has a pattern that is no
  good. -/
  failure_eq : ∀ rule ∈ rules, ∀ f, r.extract [rule] = .error f →
    (∃ fault, f = .extraction rule.name fault) ∨
      ∃ cause, f = .configuration cause ∧ rule.patternFault? = some cause
  /-- Reading the document afresh for every rule comes to the same. -/
  afresh : r.extract rules = do return (← rules.mapM fun rule => r.extract [rule]).flatten
  /-- So does knowing it from the beginning. -/
  shared : ∀ known, r.Knows known → r.extractFrom known rules = r.extract rules

/-- **Rule by rule.** -/
theorem extract_ruleByRule (r : Response) (rules : List Rule) : r.RuleByRule rules := by
  constructor
  case succeeds_iff =>
    simp only [exists_extract_singleton_iff]
    rw [extract, extractFrom_eq r.knows_none]
    exact exists_mapM_eq_ok_iff
  case variables_eq =>
    intro vs ok
    refine (extract_eq_ok_iff.1 ok).imp fun rule v each => ?_
    have label := Rule.label_of_extract each
    refine ⟨extract_singleton_eq_ok_iff.2 ⟨v, rfl, each⟩, ?_, ?_⟩
    · exact congrArg Prod.fst label
    · exact congrArg Prod.snd label
  case fails_iff =>
    intro f
    rw [extract_eq_error_iff]
    simp only [extract_singleton_eq_error_iff, exists_extract_singleton_iff, and_comm]
  case failure_eq =>
    intro rule _ f failed
    rw [extract_singleton_eq_error_iff] at failed
    rcases Rule.failure_of_extract failed with reason | ⟨cause, rfl⟩
    · exact .inl reason
    · exact .inr ⟨cause, rfl, Rule.extract_eq_configuration_iff.1 failed⟩
  case afresh =>
    simp only [extract_singleton, mapM_map_singleton]
    rw [extract, extractFrom_eq r.knows_none]
    cases rules.mapM fun rule => rule.extract r with
    | error f => rfl
    | ok vs =>
      show .ok vs = Except.ok (vs.map fun v => [v]).flatten
      rw [← List.flatMap_def, List.flatMap_singleton']
  case shared =>
    intro known knows
    rw [extract, extractFrom_eq knows, extractFrom_eq r.knows_none]

end Response

end Vigil

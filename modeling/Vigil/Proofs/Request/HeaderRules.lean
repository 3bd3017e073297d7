import Vigil.Proofs.Http.Visible
import Vigil.Proofs.Request.Outcome

/-!
# Rules for headers

A rule for a header reads the response that is kept of an answer, and which headers are kept is
decided before any rule is looked at. Together they yield the first text that the answer shows
under the name of the rule (`Rule.value_header_iff`). So a value that cannot be shown is neither
what a rule yields nor a reason for it to fail, if another one behind it can be shown. Two names are
an exception: of an answer whose content was encoded nothing is kept under them.
`RequestSpec.readsHeader` says so of all requests whose answer is accepted and comes in full, in
whatever way it has come.
-/

set_option autoImplicit false

namespace Vigil

variable {a b : Answer} {rule : Rule} {name text : String} {f : Failure}

/-! ## A rule and an answer -/

theorem Rule.value_header (source : rule.source = .header name) (r : Response) :
    rule.value r =
      match r.header? name with
      | some text => .ok text
      | none => .error (.extraction rule.name (.headerMissing name)) := by
  unfold value
  rw [source]
  rfl

theorem Rule.value_header_iff (source : rule.source = .header name) :
    rule.value a.response = .ok text ↔ a.SaysFirst name text := by
  rw [value_header source, ← Answer.header?_response_eq_some_iff]
  cases a.response.header? name with
  | none => exact iff_of_false nofun nofun
  | some said =>
    constructor
    · intro eq
      exact congrArg some (Except.ok.inj eq)
    · intro eq
      exact congrArg Except.ok (Option.some.inj eq)

theorem Rule.value_header_error_iff (source : rule.source = .header name) :
    rule.value a.response = .error f ↔
      f = .extraction rule.name (.headerMissing name) ∧ a.SaysNone name := by
  rw [value_header source, ← Answer.header?_response_eq_none_iff]
  cases a.response.header? name with
  | some said => exact iff_of_false nofun fun ⟨_, silent⟩ => nomatch silent
  | none =>
    constructor
    · intro eq
      exact ⟨(Except.error.inj eq).symm, rfl⟩
    · rintro ⟨rfl, -⟩
      rfl

/-- All that counts is what an answer shows under the name, and whether that is left out. -/
theorem Rule.value_header_congr (source : rule.source = .header name)
    (same : b.shown name = a.shown name) (out : b.leavesOut name = a.leavesOut name) :
    rule.value b.response = rule.value a.response := by
  rw [value_header source, value_header source, Answer.header?_response, Answer.header?_response,
    same, out]

namespace Answer

/-- The answer without one of its headers shows what it shows, if that one shows nothing. -/
theorem shown_without {before after : List (String × List UInt8)} {h : String × List UInt8}
    (headers : a.headers = before ++ h :: after) (silent : ∀ text, ¬ Shows name h text) :
    { a with headers := before ++ after }.shown name = a.shown name := by
  unfold shown
  rw [headers, List.filterMap_append, List.filterMap_append,
    List.filterMap_cons_none (under?_eq_none_iff.2 silent)]

end Answer

namespace RequestSpec

/-! ## A rule in a request -/

/-- The request with these rules in place of its own. -/
def asking (s : RequestSpec) (rules : List Rule) : RequestSpec := { s with rules }

variable {s : RequestSpec} {client : Client} {server : Server} {store : Store} {j : Journal}

/-- An answer comes or does not come whatever is asked of it. -/
theorem Received.asking (received : s.Received client server store j a) (rules : List Rule) :
    (s.asking rules).Received client server store j a := by
  obtain ⟨allowed, ends, ⟨m, passes, answers, inTime⟩, accepted, whole⟩ := received
  exact ⟨allowed, ends, ⟨m, ⟨passes.timeLimit, passes.built, passes.sendable⟩, answers, inTime⟩,
    accepted, whole⟩

/-- With one rule a request comes to what the rule makes of the answer. -/
theorem execute_asking (received : s.Received client server store j a)
    (complete : a.complete = true) (rule : Rule) :
    ((s.asking [rule]).execute client server store j).1 =
      (rule.extract a.response).map fun v => [v] := by
  rw [execute_of_received (received.asking [rule]), if_pos complete]
  exact Response.extract_singleton a.response rule

/-- What a rule for the header `name` makes of the answer that its request gets, when the rules
`before` are carried out first. -/
structure ReadsHeader (s : RequestSpec) (client : Client) (server : Server) (store : Store)
    (j : Journal) (a : Answer) (before : List Rule) (rule : Rule) (name : String) : Prop where
  /-- It yields the first text that the answer shows under the name, unless the name is left out,
  and nothing else. -/
  yields_iff : ∀ text, rule.value a.response = .ok text ↔ a.SaysFirst name text
  /-- It fails exactly if the name is left out or the answer shows nothing under it, and then for
  that reason, which is reported with the name of its variable. -/
  fails_iff : ∀ f, rule.value a.response = .error f ↔
    f = .extraction rule.name (.headerMissing name) ∧ a.SaysNone name
  /-- A name is left out if the answer came encoded and headers with this name are about the body as
  it came. -/
  leftOut_iff : a.leavesOut name = true ↔
    a.IsEncoded ∧ ∃ n ∈ Coding.bodyHeaders, sameName n name = true
  /-- Of such an answer a rule for such a name gets nothing, whatever is shown under it. -/
  encoded : a.IsEncoded → (∃ n ∈ Coding.bodyHeaders, sameName n name = true) →
    rule.value a.response = .error (.extraction rule.name (.headerMissing name))
  /-- In all other cases what counts is what the answer shows. -/
  ordinary : ¬ (a.IsEncoded ∧ ∃ n ∈ Coding.bodyHeaders, sameName n name = true) →
    (∀ text, rule.value a.response = .ok text ↔ a.ShowsFirst name text) ∧
    ∀ f, rule.value a.response = .error f ↔
      f = .extraction rule.name (.headerMissing name) ∧ a.ShowsNone name
  /-- If the request succeeds, its variable has that text. -/
  gives : ∀ vs, (s.execute client server store j).1 = .ok vs →
    ∃ text, vs[before.length]? = some (.extracted rule.name text) ∧ a.SaysFirst name text
  /-- The request fails for that reason if the rules before it yield something. -/
  fails : (∀ e ∈ before, ∃ v, e.extract a.response = .ok v) → a.SaysNone name →
    (s.execute client server store j).1 = .error (.extraction rule.name (.headerMissing name))
  /-- As the only rule it makes the request succeed with that text. -/
  alone_iff : ∀ text, ((s.asking [rule]).execute client server store j).1 =
    .ok [.extracted rule.name text] ↔ a.SaysFirst name text
  /-- As the only rule it makes the request fail for that reason, and for no other. -/
  aloneFails_iff : ∀ f, ((s.asking [rule]).execute client server store j).1 = .error f ↔
    f = .extraction rule.name (.headerMissing name) ∧ a.SaysNone name
  /-- A header that shows nothing under the name might as well be absent, wherever it is, if it is
  not what makes the difference between a name that is left out and one that is not. -/
  without : ∀ first h later, a.headers = first ++ h :: later →
    (∀ text, ¬ Answer.Shows name h text) →
    { a with headers := first ++ later }.leavesOut name = a.leavesOut name →
    rule.value { a with headers := first ++ later }.response = rule.value a.response
  /-- Nor does it matter how else an answer differs, and by what way it has come, as long as it
  shows the same under the name and leaves it out or not. -/
  unaffected : ∀ client' server' store' j' b, s.Received client' server' store' j' b →
    b.complete = true → b.shown name = a.shown name → b.leavesOut name = a.leavesOut name →
    ((s.asking [rule]).execute client' server' store' j').1 =
      ((s.asking [rule]).execute client server store j).1

/-- **Rules for headers.** -/
theorem readsHeader (received : s.Received client server store j a) (complete : a.complete = true)
    {before after : List Rule} (rules : s.rules = before ++ rule :: after)
    (source : rule.source = .header name) :
    s.ReadsHeader client server store j a before rule name := by
  have result : (s.execute client server store j).1 = a.response.extract s.rules := by
    rw [execute_of_received received, if_pos complete]
  constructor
  case yields_iff => exact fun _ => Rule.value_header_iff source
  case fails_iff => exact fun _ => Rule.value_header_error_iff source
  case leftOut_iff => exact Answer.leavesOut_iff
  case encoded =>
    intro encoded about
    have out : a.leavesOut name = true := Answer.leavesOut_iff.2 ⟨encoded, about⟩
    exact (Rule.value_header_error_iff source).2 ⟨rfl, .inl out⟩
  case ordinary =>
    intro kept
    have kept : a.leavesOut name = false :=
      Bool.eq_false_iff.2 fun out => kept (Answer.leavesOut_iff.1 out)
    constructor
    · intro text
      rw [Rule.value_header_iff source, Answer.SaysFirst, kept]
      exact and_iff_right rfl
    · intro f
      rw [Rule.value_header_error_iff source, Answer.SaysNone, kept]
      exact and_congr_right fun _ => or_iff_right Bool.false_ne_true
  case gives =>
    intro vs ok
    rw [result, rules] at ok
    obtain ⟨v, place, own⟩ := Response.variable_of_extract ok
    obtain ⟨text, value, rfl⟩ := Rule.extract_eq_ok_iff.1 own
    exact ⟨text, place, (Rule.value_header_iff source).1 value⟩
  case fails =>
    intro earlier none
    rw [result]
    have own := Rule.extract_eq_error_iff.2 ((Rule.value_header_error_iff source).2 ⟨rfl, none⟩)
    exact Response.extract_eq_error_iff.2 ⟨before, rule, after, rules, own, earlier⟩
  case alone_iff =>
    intro text
    rw [execute_asking received complete, ← Response.extract_singleton,
      Response.extract_singleton_eq_ok_iff, ← Rule.value_header_iff source]
    constructor
    · rintro ⟨v, eq, own⟩
      obtain rfl := List.singleton_inj.1 eq
      obtain ⟨text', value, eq⟩ := Rule.extract_eq_ok_iff.1 own
      have same : text = text' := congrArg Variable.value eq
      rw [value, same]
    · intro value
      exact ⟨_, rfl, Rule.extract_eq_ok_iff.2 ⟨text, value, rfl⟩⟩
  case aloneFails_iff =>
    intro f
    rw [execute_asking received complete, ← Response.extract_singleton,
      Response.extract_singleton_eq_error_iff, Rule.extract_eq_error_iff,
      Rule.value_header_error_iff source]
  case without =>
    intro first h later headers silent out
    exact Rule.value_header_congr source (Answer.shown_without headers silent) out
  case unaffected =>
    intro client' server' store' j' b received' complete' same out
    rw [execute_asking received complete, execute_asking received' complete', Rule.extract,
      Rule.extract, Rule.value_header_congr source same out]

/-- What a server answers at once is received. -/
theorem received_atOnce (noLimit : s.timeLimit ({} : Client).defaultTimeout = .ok .clientDefault)
    (sendable : (s.build .empty).toOption.map (fun m => (Client.refusal? m.url, m.method)) =
      some (none, .get))
    (body : a.hasBody .get = true) (stays : a.redirect? = none)
    (accepted : s.accepts a.status = true)
    (inTime : a.bodyDelay ≤ Duration.clientDefault.nanos) :
    s.Received {} (.atOnce a) .empty {} a := by
  obtain ⟨m, built, outcome⟩ := Option.map_eq_some_iff.1 sendable
  obtain ⟨refusal, method⟩ := Prod.mk.inj outcome
  have reply : (Server.atOnce a 0 [] (({} : Client).dress m)).outcome?
      (({} : Client).dress m).method = some (.ok a, 0) := by
    show some (Except.ok (a.forMethod m.method), 0) = _
    rw [method, Answer.forMethod, if_pos body]
  have last : ({} : Client).redirectsLeft = none ∨ a.redirect? = none ∨
      a.target? (({} : Client).dress m).url = none := .inr (.inl stays)
  refine ⟨.clientDefault, 0,
    ⟨m, ⟨noLimit, eq_ok_of_toOption built, refusal⟩, .answer reply last, Nat.zero_le _⟩,
    accepted, ?_⟩
  rw [Nat.zero_add]
  exact Nat.le_trans inTime (Nat.le_add_left _ _)

/-- A request whose rules ask for the status code and for two headers. -/
def signedOn : RequestSpec where
  name := "sign on"
  url := "http://[::1]/session"
  rules := [⟨"code", .status⟩, ⟨"token", .header "X-Token"⟩, ⟨"trace", .header "trace"⟩]

/-- An answer with a name in several spellings. The first value has a letter beyond ASCII, the
second one a control character, and there are blanks around the third one and within it. -/
def welcome : Answer where
  headers := [("x-token", [195, 169]), ("x-tokens", [110, 111]), ("X-TOKEN", [97, 127]),
    ("x-ToKeN", [32, 9, 97, 9, 98, 32]), ("trace", [0]), ("x-token", [99])]
  bodyDelay := 5

theorem received_welcome : signedOn.Received {} (.atOnce welcome) .empty {} welcome :=
  received_atOnce rfl (by decide +kernel) rfl rfl rfl (by decide)

/-- The token is the first value that can be shown, less the blanks around it. There is no trace, so
the request fails. -/
theorem readsHeader_welcome :
    signedOn.Received {} (.atOnce welcome) .empty {} welcome ∧ welcome.complete = true ∧
      signedOn.ReadsHeader {} (.atOnce welcome) .empty {} welcome [⟨"code", .status⟩]
        ⟨"token", .header "X-Token"⟩ "X-Token" ∧
      ((signedOn.asking [⟨"token", .header "X-Token"⟩]).execute {} (.atOnce welcome) .empty {}).1 =
        .ok [.extracted "token" "a\tb"] ∧
      (signedOn.execute {} (.atOnce welcome) .empty {}).1 =
        .error (.extraction "trace" (.headerMissing "trace")) := by
  have complete : welcome.complete = true := rfl
  have rules : signedOn.rules = [⟨"code", .status⟩] ++ ⟨"token", .header "X-Token"⟩ ::
    [⟨"trace", .header "trace"⟩] := rfl
  have law := readsHeader received_welcome complete rules rfl
  refine ⟨received_welcome, complete, law, (law.alone_iff _).2 ?_, ?_⟩
  · exact Answer.header?_response_eq_some_iff.1 (by decide +kernel)
  · rw [execute_of_received received_welcome, if_pos complete]
    decide +kernel

/-- An answer with an empty object, compressed. -/
def packed : Answer where
  headers := [("content-encoding", [103, 122, 105, 112])]
  body := [31, 139, 8, 0, 0, 0, 0, 0, 2, 3, 171, 174, 5, 0, 67, 191, 166, 163, 2, 0, 0, 0]
  decoded := some [123, 125]

/-- The answer shows its coding, and yet a rule for the coding fails. -/
theorem readsHeader_packed :
    (signedOn.asking [⟨"coding", .header "Content-Encoding"⟩]).Received {}
        (.atOnce packed) .empty {} packed ∧
      packed.complete = true ∧ packed.ShowsFirst "Content-Encoding" "gzip" ∧
      ((signedOn.asking [⟨"coding", .header "Content-Encoding"⟩]).execute {}
        (.atOnce packed) .empty {}).1 =
          .error (.extraction "coding" (.headerMissing "Content-Encoding")) := by
  have received : (signedOn.asking [⟨"coding", .header "Content-Encoding"⟩]).Received {}
      (.atOnce packed) .empty {} packed :=
    received_atOnce rfl (by decide +kernel) rfl rfl rfl (by decide)
  have complete : packed.complete = true := by decide +kernel
  refine ⟨received, complete, ?_, ?_⟩
  · refine ⟨[], _, [], rfl, Answer.under?_eq_some_iff.1 (by decide +kernel), ?_⟩
    exact fun _ mem => nomatch mem
  · rw [execute_of_received received, if_pos complete]
    decide +kernel

end RequestSpec

end Vigil

import Vigil.Config.Placeholders
import Vigil.Proofs.Chain.Recount
import Vigil.Proofs.Request.Templates

/-!
# Slots that are reported, and runs

The report on a configuration is put together from the positions of each monitor's steps
(`undeclared_eq`). In a run, the names that the report takes to be known at a position are those
that the store can have a value for (`name_mem_knownAt`), and once all earlier steps have
succeeded they are those that it has a value for (`exists_given`). So a slot that is reported is
never filled, and one that is not is always filled unless something has failed before
(`undeclared_exact`).
-/

set_option autoImplicit false

namespace Vigil

namespace Monitor

/-- The names that the report takes to be known at a position. -/
def knownAt (m : Monitor) (i : Nat) : List String :=
  m.declaredNames ++ (m.steps.take i).flatMap RequestSpec.ruleNames

/-- The names of the slots that are reported at a position. -/
def reportedAt (m : Monitor) (i : Nat) : List String :=
  match m.steps[i]? with
  | some s => s.slotNames.filter fun n => !(m.knownAt i).contains n
  | none => []

theorem undeclaredFrom_eq (name : String) (known : List String) (steps : List RequestSpec) :
    undeclaredFrom name known steps =
      steps.zipIdx.flatMap fun p =>
        (p.1.slotNames.filter fun n =>
          !(known ++ (steps.take p.2).flatMap RequestSpec.ruleNames).contains n).map
            fun n => ⟨name, p.1.name, n⟩ := by
  induction steps generalizing known with
  | nil => rfl
  | cons s steps ih =>
    rw [undeclaredFrom, ih, List.zipIdx_cons, List.flatMap_cons, List.zipIdx_succ,
      List.flatMap_map, List.take_zero, List.flatMap_nil, List.append_nil]
    simp only [List.take_succ_cons, List.flatMap_cons, List.append_assoc]

/-- What is reported of a monitor, position by position. -/
theorem undeclared_eq (m : Monitor) :
    m.undeclared = m.steps.zipIdx.flatMap fun p =>
      (m.reportedAt p.2).map fun n => ⟨m.name, p.1.name, n⟩ := by
  unfold undeclared
  rw [undeclaredFrom_eq]
  apply List.flatMap_congr
  intro p mem
  have here := List.mem_zipIdx_iff_getElem?.1 mem
  unfold reportedAt knownAt
  rw [here]

variable {m : Monitor} {client : Client} {server : Server} {b : Builtins} {j : Journal}

theorem names_seed : (Store.seed b m.provided).toList.map Variable.name = m.declaredNames := by
  have provided : (m.provided.entries.map fun e => Variable.provided e.1 e.2).map Variable.name =
      m.provided.keys := by
    rw [List.map_map]
    rfl
  unfold declaredNames
  rw [← provided]
  rfl

theorem mem_knownAt_iff {i : Nat} {n : String} :
    n ∈ m.knownAt i ↔ n ∈ m.declaredNames ∨
      ∃ k < i, ∃ s, m.steps[k]? = some s ∧ n ∈ s.ruleNames := by
  unfold knownAt
  rw [List.mem_append, mem_flatMap_take_iff]

theorem name_mem_ruleNames {k : Nat} {e : Attempt} {v : Variable}
    (at_k : m.attemptAt? client server b j k = some e) (yields : v ∈ e.yield) :
    v.name ∈ e.spec.ruleNames := by
  unfold Attempt.yield at yields
  split at yields
  · next vs ok =>
    have label : v.label ∈ vs.map Variable.label := List.mem_map_of_mem yields
    rw [labels_of_attemptAt? at_k ok] at label
    obtain ⟨rule, mem, eq⟩ := List.mem_map.1 label
    exact List.mem_map.2 ⟨rule, mem, congrArg Prod.fst eq⟩
  · cases yields

theorem exists_yield {k : Nat} {e : Attempt} {vs : List Variable} {n : String}
    (at_k : m.attemptAt? client server b j k = some e) (ok : e.result = .ok vs)
    (named : n ∈ e.spec.ruleNames) : ∃ v ∈ e.yield, v.name = n := by
  obtain ⟨rule, mem, rfl⟩ := List.mem_map.1 named
  have label : rule.label ∈ e.spec.rules.map Rule.label := List.mem_map_of_mem mem
  rw [← labels_of_attemptAt? at_k ok] at label
  obtain ⟨v, yields, eq⟩ := List.mem_map.1 label
  rw [Attempt.yield_of_ok ok]
  exact ⟨v, yields, congrArg Prod.fst eq⟩

/-- Whatever a request is given has a name that the report takes to be known. -/
theorem name_mem_knownAt {i : Nat} {a : Attempt} {v : Variable}
    (here : m.attemptAt? client server b j i = some a) (given : v ∈ a.given.toList) :
    v.name ∈ m.knownAt i := by
  rw [mem_knownAt_iff]
  rcases (mem_given_iff here).1 given with seeded | ⟨k, lt, e, at_k, yields⟩
  · rw [← names_seed (b := b)]
    exact .inl (List.mem_map_of_mem seeded)
  · exact .inr ⟨k, lt, e.spec, spec_of_attemptAt? at_k, name_mem_ruleNames at_k yields⟩

/-- Whatever the report takes to be known is given, once all before it succeeded. -/
theorem exists_given {i : Nat} {a : Attempt} {n : String}
    (here : m.attemptAt? client server b j i = some a)
    (earlier : ∀ k < i, ∃ e vs, m.attemptAt? client server b j k = some e ∧ e.result = .ok vs)
    (known : n ∈ m.knownAt i) : ∃ v ∈ a.given.toList, v.name = n := by
  rcases mem_knownAt_iff.1 known with declared | ⟨k, lt, s, step, named⟩
  · rw [← names_seed (b := b)] at declared
    obtain ⟨v, seeded, name⟩ := List.mem_map.1 declared
    exact ⟨v, (mem_given_iff here).2 (.inl seeded), name⟩
  · obtain ⟨e, vs, at_k, ok⟩ := earlier k lt
    rw [spec_of_attemptAt? at_k] at step
    cases step
    obtain ⟨v, yields, name⟩ := exists_yield at_k ok named
    exact ⟨v, (mem_given_iff here).2 (.inr ⟨k, lt, e, at_k, yields⟩), name⟩

theorem mem_reportedAt_iff {i : Nat} {s : RequestSpec} {n : String}
    (step : m.steps[i]? = some s) :
    n ∈ m.reportedAt i ↔ (∃ t, s.Renders t ∧ n ∈ Template.names t) ∧ n ∉ m.knownAt i := by
  unfold reportedAt
  rw [step]
  simp only [List.mem_filter, RequestSpec.mem_slotNames_iff, Bool.not_eq_true',
    List.contains_eq_mem, decide_eq_false_iff_not]

/-- Before a request that is attempted, cleanup requests aside, all were attempted with
success. -/
theorem earlier_of_request {i : Nat} {a : Attempt} (request : i < m.requests.length)
    (here : m.attemptAt? client server b j i = some a) (k : Nat) (lt : k < i) :
    ∃ e vs, m.attemptAt? client server b j k = some e ∧ e.result = .ok vs := by
  rw [attemptAt?_eq_request request] at here
  rw [attemptAt?_eq_request (Nat.lt_trans lt request)]
  have bound := (List.getElem?_eq_some_iff.1 here).1
  have at_k := List.getElem?_eq_getElem (Nat.lt_trans lt bound)
  obtain ⟨vs, ok⟩ := Attempt.hasFailed_eq_false_iff.1 (hasFailed_of_before here at_k lt)
  exact ⟨_, vs, at_k, ok⟩

/-- What the report on a monitor means for the request at a position, when a run attempts it. -/
structure ReportHolds (m : Monitor) (client : Client) (server : Server) (b : Builtins)
    (j : Journal) (i : Nat) (a : Attempt) : Prop where
  spec : m.steps[i]? = some a.spec
  /-- The run is made of attempts like this one. -/
  made : m.MadeOf client server b j (m.tick client server b j).1 (m.tick client server b j).2
  /-- It is carried out with the variables that it is given. -/
  carriedOut : ∃ before, a.spec.execute client server a.given before = (a.result, a.after)
  /-- What the request becomes depends on nothing but the texts that are rendered. -/
  rendered : ∀ store, (∀ t, a.spec.Renders t →
    Template.render a.given t = Template.render store t) →
    a.spec.build a.given = a.spec.build store
  /-- A name that is reported is that of a slot of a text that is rendered. -/
  reported : ∀ n ∈ m.reportedAt i, ∃ t, a.spec.Renders t ∧ n ∈ Template.names t
  /-- It has no value. -/
  unknown : ∀ n ∈ m.reportedAt i, a.given.get? n = none
  /-- Its slots are sent as they stand. -/
  verbatim : ∀ n ∈ m.reportedAt i, ∀ t, a.spec.Renders t → ∀ before after,
    Template.pieces t = before ++ .slot n.toList :: after →
    (Template.render a.given t).toList =
      before.flatMap (Template.fill a.given.get?) ++ Template.spellSlot n.toList ++
        after.flatMap (Template.fill a.given.get?)
  /-- The name of any other slot has a value if all requests before succeeded. -/
  known : (∀ k < i, ∃ e vs, m.attemptAt? client server b j k = some e ∧ e.result = .ok vs) →
    ∀ t n, a.spec.Renders t → n ∈ Template.names t → n ∉ m.reportedAt i →
      ∃ value, a.given.get? n = some value
  /-- Cleanup requests aside, they did. -/
  request : i < m.requests.length →
    ∀ k < i, ∃ e vs, m.attemptAt? client server b j k = some e ∧ e.result = .ok vs

theorem reportHolds {i : Nat} {a : Attempt}
    (here : m.attemptAt? client server b j i = some a) :
    m.ReportHolds client server b j i a := by
  have step := spec_of_attemptAt? here
  have unknown : ∀ n ∈ m.reportedAt i, a.given.get? n = none := by
    intro n reported
    have absent := ((mem_reportedAt_iff step).1 reported).2
    apply Variable.last?_eq_none_iff.2
    intro v given name
    rw [← name] at absent
    exact absent (name_mem_knownAt here given)
  constructor
  case spec => exact step
  case made => exact m.tick_madeOf client server b j
  case carriedOut => exact execute_of_attemptAt? here
  case rendered =>
    intro store same
    exact RequestSpec.build_congr same
  case reported =>
    intro n reported
    exact ((mem_reportedAt_iff step).1 reported).1
  case unknown => exact unknown
  case verbatim =>
    intro n reported t _ before after cut
    exact Template.render_of_unknown (unknown n reported) cut
  case known =>
    intro earlier t n renders slot silent
    have known : n ∈ m.knownAt i := by
      by_contra absent
      exact silent ((mem_reportedAt_iff step).2 ⟨⟨t, renders, slot⟩, absent⟩)
    apply Option.isSome_iff_exists.1
    exact Variable.last?_isSome_iff.2 (exists_given here earlier known)
  case request =>
    intro request k lt
    exact earlier_of_request request here k lt

end Monitor

/-- A monitor whose first request defines a name. In the URLs of the others it is followed by a slot
for a name that nothing defines. -/
def Monitor.probe : Monitor where
  name := "probe"
  period := .ofSeconds 1
  requests := [
    { name := "sign on", url := "http://[::1]/session", rules := [⟨"code", .status⟩] },
    { name := "get"
      url := "http://[::1]/\x7b\x7brun-id\x7d\x7d/\x7b\x7bcode\x7d\x7d/\x7b\x7bx\x7d\x7d" }]
  cleanup := [
    { name := "sign off", url := "http://[::1]/\x7b\x7bcode\x7d\x7d/\x7b\x7by\x7d\x7d" }]

/-- **The report on a configuration is exact.** It lists what is reported at each position of each
monitor's steps, and that is what stays unfilled there in every run. -/
theorem ServiceConfig.undeclared_exact (c : ServiceConfig) :
    c.undeclared = (c.monitors.flatMap fun m => m.steps.zipIdx.flatMap fun p =>
      (m.reportedAt p.2).map fun n => ⟨m.name, p.1.name, n⟩) ∧
    ∀ m ∈ c.monitors, ∀ (client : Client) (server : Server) (b : Builtins) (j : Journal)
      (i : Nat) (a : Attempt), m.attemptAt? client server b j i = some a →
        m.ReportHolds client server b j i a := by
  constructor
  · apply List.flatMap_congr
    intro m _
    exact m.undeclared_eq
  · intro m _ client server b j i a here
    exact Monitor.reportHolds here

/-- In a run in which all requests succeed, the slots for the built-in name and for the one that was
defined are filled, and the others are not. -/
theorem undeclared_exact_probe :
    Monitor.probe.reportedAt 1 = ["x"] ∧ Monitor.probe.reportedAt 2 = ["y"] ∧
    ∃ a e,
      Monitor.probe.attemptAt? {} (.atOnce {}) ⟨"r", "i"⟩ { now := 0 } 1 = some a ∧
      Monitor.probe.attemptAt? {} (.atOnce {}) ⟨"r", "i"⟩ { now := 0 } 2 = some e ∧
      Monitor.probe.ReportHolds {} (.atOnce {}) ⟨"r", "i"⟩ { now := 0 } 1 a ∧
      Monitor.probe.ReportHolds {} (.atOnce {}) ⟨"r", "i"⟩ { now := 0 } 2 e ∧
      Template.render a.given a.spec.url = "http://[::1]/i/200/\x7b\x7bx\x7d\x7d" ∧
      Template.render e.given e.spec.url = "http://[::1]/200/\x7b\x7by\x7d\x7d" := by
  have holds := (ServiceConfig.undeclared_exact { monitors := [.probe] }).2 .probe
    List.mem_cons_self {} (.atOnce {}) ⟨"r", "i"⟩ { now := 0 }
  have get : (Monitor.probe.attemptAt? {} (.atOnce {}) ⟨"r", "i"⟩ { now := 0 } 1).map
      (fun a => Template.render a.given a.spec.url) =
        some "http://[::1]/i/200/\x7b\x7bx\x7d\x7d" := by decide +kernel
  have signOff : (Monitor.probe.attemptAt? {} (.atOnce {}) ⟨"r", "i"⟩ { now := 0 } 2).map
      (fun e => Template.render e.given e.spec.url) =
        some "http://[::1]/200/\x7b\x7by\x7d\x7d" := by decide +kernel
  obtain ⟨a, there, url⟩ := Option.map_eq_some_iff.1 get
  obtain ⟨e, there', url'⟩ := Option.map_eq_some_iff.1 signOff
  exact ⟨by decide +kernel, by decide +kernel, a, e, there, there', holds 1 a there,
    holds 2 e there', url, url'⟩

end Vigil

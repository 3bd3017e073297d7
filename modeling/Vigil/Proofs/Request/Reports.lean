import Vigil.Proofs.Chain.Attempts
import Vigil.Proofs.Request.Arrival

/-!
# What a request reports

While a request is carried out there is one entry when its message is sent and one when the whole
response is there, and nothing else is reported (`RequestSpec.reports_execute`). Entries are read
as those who read the log do: by their messages and their fields.
-/

set_option autoImplicit false

namespace Vigil

namespace Event

/-- The text in a field of an entry. -/
def text? (e : Event) (key : String) : Option String :=
  match e.fields.lookup key with
  | some (.string text) => some text
  | _ => none

/-- The number in a field of an entry. -/
def count? (e : Event) (key : String) : Option Nat :=
  match e.fields.lookup key with
  | some (.number (.int (.ofNat n))) => some n
  | _ => none

/-- The phase of a request that an entry is about. -/
def phase? (e : Event) : Option String := e.text? "phase"

end Event

theorem Journal.events_report (j : Journal) (e : Event) :
    (j.report e).events = j.events ++ [e] := by
  unfold events report
  rw [List.map_append]
  rfl

namespace RequestSpec

variable {s : RequestSpec} {client : Client} {server : Server} {store : Store} {j : Journal}
  {allowed : Duration} {m : Message} {a : Answer} {r : Response}

/-- An answer that sending gets in time is one that comes in time if nobody minds how long it
takes. -/
theorem answers_of_sending (got : (s.sending client server j allowed m).1 = .ok a) :
    ∃ ends, client.Answers server j m (.ok a) ends ∧ ends ≤ j.now + allowed.nanos ∧
      (s.sending client server j allowed m).2.now = ends := by
  by_cases inTime : ∃ r ends, client.Answers server j m r ends ∧ ends ≤ j.now + allowed.nanos
  · obtain ⟨r, ends, answers, le⟩ := inTime
    obtain ⟨result, after⟩ := sending_of_answers (s := s) answers le
    rw [got] at result
    subst result
    exact ⟨ends, answers, le, after⟩
  · have late : ∀ r ends, client.Answers server j m r ends → j.now + allowed.nanos < ends :=
      fun r ends answers => Nat.lt_of_not_le fun le => inTime ⟨r, ends, answers, le⟩
    by_cases strays : client.LedAway server j m (j.now + allowed.nanos)
    · obtain ⟨cause, refused⟩ := sending_of_ledAway (s := s) strays
      rw [got] at refused
      cases refused
    · have timeout := sending_of_late (s := s) late strays
      rw [got] at timeout
      cases timeout

theorem receive_eq_ok_iff {d : Deadline} : (s.receive d a j).1 = .ok r ↔
    (s.accepts a.status = true ∧ j.now + a.bodyDelay ≤ d.moment ∧ a.complete = true) ∧
      r = a.response := by
  rw [receive_result]
  by_cases accepted : s.accepts a.status = true
  · by_cases whole : j.now + a.bodyDelay ≤ d.moment
    · by_cases complete : a.complete = true <;> simp [accepted, whole, complete, eq_comm]
    · simp [accepted, whole]
  · simp [accepted]

theorem respond_eq_ok_iff (passes : s.Passes client store allowed m) :
    (s.respond client server allowed m
      (j.report (.sending s.name s.method.name m.url.text allowed))).1 = .ok r ↔
    ∃ a, (s.sending client server j allowed m).1 = .ok a ∧
      (s.receive (.starting j.now allowed) a (s.sending client server j allowed m).2).1 =
        .ok r := by
  rw [respond_of_passes passes]
  generalize s.sending client server j allowed m = got
  obtain ⟨result, after⟩ := got
  cases result <;> simp

/-- A response is only got of a message that the client can send. -/
theorem Gets.exists_passes (gets : s.Gets client server store j r) :
    ∃ allowed m, s.Passes client store allowed m ∧ (s.respond client server allowed m
      (j.report (.sending s.name s.method.name m.url.text allowed))).1 = .ok r := by
  obtain ⟨allowed, m, prepared, responds⟩ := gets
  obtain ⟨timeLimit, built⟩ := prepare_eq_ok_iff.1 prepared
  refine ⟨allowed, m, ⟨timeLimit, built, ?_⟩, responds⟩
  cases refusal : Client.refusal? m.url with
  | none => rfl
  | some cause =>
    unfold respond at responds
    simp only [Client.send_eq, refusal] at responds
    cases responds

/-- **Responses.** What carrying out a request gets is the whole of an answer with an accepted
status code that comes in time. -/
theorem gets_iff : s.Gets client server store j r ↔
    ∃ a, s.Received client server store j a ∧ a.complete = true ∧ r = a.response := by
  constructor
  · intro gets
    obtain ⟨allowed, m, passes, responds⟩ := gets.exists_passes
    obtain ⟨a, sent, taken⟩ := (respond_eq_ok_iff passes).1 responds
    obtain ⟨ends, answers, inTime, now⟩ := answers_of_sending sent
    obtain ⟨⟨accepted, whole, complete⟩, response⟩ := receive_eq_ok_iff.1 taken
    rw [now] at whole
    exact ⟨a, ⟨allowed, ends, ⟨m, passes, answers, inTime⟩, accepted, whole⟩, complete, response⟩
  · rintro ⟨a, ⟨allowed, ends, ⟨m, passes, answers, inTime⟩, accepted, whole⟩, complete, rfl⟩
    obtain ⟨sent, now⟩ := sending_of_answers (s := s) answers inTime
    refine ⟨allowed, m, prepare_eq passes.timeLimit passes.built, ?_⟩
    refine (respond_eq_ok_iff passes).2 ⟨a, sent, receive_eq_ok_iff.2 ⟨⟨accepted, ?_, complete⟩, rfl⟩⟩
    rw [now]
    exact whole

/-- What is reported while a request is carried out, its two ends in a chain aside. -/
structure Reports (s : RequestSpec) (client : Client) (server : Server) (store : Store)
    (j : Journal) (es : List Event) : Prop where
  /-- There are up to two entries: when the message is sent, and then when the response is there. -/
  order : es.map Event.message <+: ["sending request", "response received"]
  /-- The message is sent if the time allowed is known and the message can be built. -/
  sending_iff : (∃ e ∈ es, e.message = "sending request") ↔
    (∃ allowed, s.timeLimit client.defaultTimeout = .ok allowed) ∧ ∃ m, s.build store = .ok m
  /-- The response is there if an answer with an accepted status code has come, the whole of it, and
  in time. -/
  received_iff : (∃ e ∈ es, e.message = "response received") ↔
    ∃ a, s.Received client server store j a ∧ a.complete = true
  named : ∀ e ∈ es, e.text? "request" = some s.name
  /-- They are not about the phases of requests. -/
  unphased : ∀ e ∈ es, e.phase? = none
  level : ∀ e ∈ es, e.level = .debug

/-- Nothing is reported of what cannot be sent. -/
theorem reports_of_unprepared {cause : Misconfiguration}
    (bad : s.prepare client store = .error cause) : s.Reports client server store j [] where
  order := List.nil_prefix
  sending_iff := by
    refine iff_of_false (fun ⟨_, mem, _⟩ => List.not_mem_nil mem) ?_
    rintro ⟨⟨allowed, timeLimit⟩, m, built⟩
    rw [prepare_eq timeLimit built] at bad
    cases bad
  received_iff := by
    refine iff_of_false (fun ⟨_, mem, _⟩ => List.not_mem_nil mem) ?_
    rintro ⟨a, ⟨allowed, ends, ⟨m, passes, -⟩, -⟩, -⟩
    rw [prepare_eq passes.timeLimit passes.built] at bad
    cases bad
  named := List.forall_mem_nil _
  unphased := List.forall_mem_nil _
  level := List.forall_mem_nil _

/-- The message is sent, and no response is there. -/
theorem reports_of_unheard (prepared : s.prepare client store = .ok (allowed, m))
    (unheard : ∀ r, ¬ s.Gets client server store j r) :
    s.Reports client server store j [.sending s.name s.method.name m.url.text allowed] where
  order := ⟨["response received"], rfl⟩
  sending_iff := by
    obtain ⟨timeLimit, built⟩ := prepare_eq_ok_iff.1 prepared
    exact iff_of_true ⟨_, List.mem_singleton_self _, rfl⟩ ⟨⟨allowed, timeLimit⟩, m, built⟩
  received_iff := by
    refine iff_of_false ?_ ?_
    · rintro ⟨e, mem, message⟩
      have other : "sending request" ≠ "response received" := by decide
      rw [List.mem_singleton.1 mem] at message
      exact other message
    · rintro ⟨a, received, complete⟩
      exact unheard _ (gets_iff.2 ⟨a, received, complete, rfl⟩)
  named := List.forall_mem_singleton.2 rfl
  unphased := List.forall_mem_singleton.2 rfl
  level := List.forall_mem_singleton.2 rfl

/-- The message is sent, and the response is there. -/
theorem reports_of_gets (prepared : s.prepare client store = .ok (allowed, m))
    (gets : s.Gets client server store j r) :
    s.Reports client server store j
      [.sending s.name s.method.name m.url.text allowed,
        .received s.name r.status r.body.length] where
  order := List.prefix_rfl
  sending_iff := by
    obtain ⟨timeLimit, built⟩ := prepare_eq_ok_iff.1 prepared
    exact iff_of_true ⟨_, List.mem_cons_self, rfl⟩ ⟨⟨allowed, timeLimit⟩, m, built⟩
  received_iff := by
    obtain ⟨a, received, complete, -⟩ := gets_iff.1 gets
    exact iff_of_true ⟨_, List.mem_cons_of_mem _ (List.mem_singleton_self _), rfl⟩
      ⟨a, received, complete⟩
  named := List.forall_mem_cons.2 ⟨rfl, List.forall_mem_singleton.2 rfl⟩
  unphased := List.forall_mem_cons.2 ⟨rfl, List.forall_mem_singleton.2 rfl⟩
  level := List.forall_mem_cons.2 ⟨rfl, List.forall_mem_singleton.2 rfl⟩

/-- **What a request reports.** -/
theorem reports_execute (s : RequestSpec) (client : Client) (server : Server) (store : Store)
    (j : Journal) : ∃ es, (s.execute client server store j).2.events = j.events ++ es ∧
      s.Reports client server store j es := by
  unfold execute
  cases prepared : s.prepare client store with
  | error cause => exact ⟨[], (List.append_nil _).symm, reports_of_unprepared prepared⟩
  | ok p =>
    obtain ⟨allowed, m⟩ := p
    simp only
    have quiet := (s.sends_respond client server allowed m
      (j.report (.sending s.name s.method.name m.url.text allowed))).entries
    cases got : s.respond client server allowed m
        (j.report (.sending s.name s.method.name m.url.text allowed)) with
    | mk result after =>
      rw [got] at quiet
      have told : after.events =
          j.events ++ [.sending s.name s.method.name m.url.text allowed] := by
        rw [← Journal.events_report]
        exact congrArg (List.map (·.event)) quiet
      cases result with
      | error f =>
        refine ⟨_, told, reports_of_unheard prepared ?_⟩
        rintro r ⟨_, _, again, responds⟩
        cases prepared.symm.trans again
        rw [got] at responds
        cases responds
      | ok r =>
        refine ⟨_, ?_, reports_of_gets prepared ⟨allowed, m, prepared, by rw [got]⟩⟩
        simp only
        rw [Journal.events_report, told, List.append_assoc]
        rfl

end RequestSpec

end Vigil

import Vigil.Proofs.Extraction
import Vigil.Proofs.Request.Sending
import Vigil.Proofs.Url.Fragment
import Vigil.Request.Execution

/-!
# What comes of a request

A request goes through stages, and what comes of it is what the earliest stage that fails makes of
it (`RequestSpec.Ends`). Nothing is sent before the time allowed is known, the message is built and
the client can send it (`Passes`). Whether the answer comes in time, and then its body, is said in
terms of how long they take if nobody minds (`Client.Delivers`).
-/

set_option autoImplicit false

namespace Vigil

namespace Client

/-- What comes of a message that this client sends, and when, if there is no limit. -/
def Answers (c : Client) (server : Server) (j : Journal) (m : Message)
    (r : Except Failure Answer) (ends : Nat) : Prop :=
  Delivers server c.redirectsLeft (c.dress m) j.now j.arrived r ends

/-- A message of this client is led away from HTTP by a redirect, at `latest` at the latest. -/
def LedAway (c : Client) (server : Server) (j : Journal) (m : Message) (latest : Nat) : Prop :=
  Strays server latest c.redirectsLeft (c.dress m) j.now j.arrived

end Client

namespace RequestSpec

/-- All stages before the message is sent pass. -/
structure Passes (s : RequestSpec) (client : Client) (store : Store) (allowed : Duration)
    (m : Message) : Prop where
  timeLimit : s.timeLimit client.defaultTimeout = .ok allowed
  built : s.build store = .ok m
  sendable : Client.refusal? m.url = none

/-- An answer comes in time: at the moment `ends`. -/
def Answered (s : RequestSpec) (client : Client) (server : Server) (store : Store) (j : Journal)
    (allowed : Duration) (a : Answer) (ends : Nat) : Prop :=
  ∃ m, s.Passes client store allowed m ∧ client.Answers server j m (.ok a) ends ∧
    ends ≤ j.now + allowed.nanos

/-- An answer with an accepted status code comes, and its body, both in time. -/
def Received (s : RequestSpec) (client : Client) (server : Server) (store : Store) (j : Journal)
    (a : Answer) : Prop :=
  ∃ allowed ends, s.Answered client server store j allowed a ends ∧ s.accepts a.status = true ∧
    ends + a.bodyDelay ≤ j.now + allowed.nanos

/-- What comes of a request, stage by stage: each case but the last is that of a stage that fails,
when those before it have passed. -/
inductive Ends (s : RequestSpec) (client : Client) (server : Server) (store : Store)
    (j : Journal) : Except Failure (List Variable) → Prop where
  | timeLimit {cause : Misconfiguration}
      (bad : s.timeLimit client.defaultTimeout = .error cause) :
      Ends s client server store j (.error (.configuration cause))
  | building {allowed : Duration} {cause : Misconfiguration}
      (timeLimit : s.timeLimit client.defaultTimeout = .ok allowed)
      (bad : s.build store = .error cause) :
      Ends s client server store j (.error (.configuration cause))
  /-- The client cannot send the message. -/
  | check {allowed : Duration} {m : Message} {cause : Misconfiguration}
      (timeLimit : s.timeLimit client.defaultTimeout = .ok allowed)
      (built : s.build store = .ok m) (refused : Client.refusal? m.url = some cause) :
      Ends s client server store j (.error (.configuration cause))
  /-- Nothing comes of the message in time. -/
  | late {allowed : Duration} {m : Message} (passes : s.Passes client store allowed m)
      (late : ∀ r ends, client.Answers server j m r ends → j.now + allowed.nanos < ends)
      (stays : ¬ client.LedAway server j m (j.now + allowed.nanos)) :
      Ends s client server store j (.error (.timeout allowed))
  | unsent {allowed : Duration} {m : Message} {words : String} {ends : Nat}
      (passes : s.Passes client store allowed m)
      (fails : client.Answers server j m (.error (.transport words)) ends)
      (inTime : ends ≤ j.now + allowed.nanos) :
      Ends s client server store j (.error (.transport words))
  /-- The status code is not accepted, whatever the body and the rules are. -/
  | status {allowed : Duration} {a : Answer} {ends : Nat}
      (answered : s.Answered client server store j allowed a ends)
      (unaccepted : s.accepts a.status = false) :
      Ends s client server store j (.error (.unexpectedStatus a.status s.accepted.codes))
  | bodyLate {allowed : Duration} {a : Answer} {ends : Nat}
      (answered : s.Answered client server store j allowed a ends)
      (accepted : s.accepts a.status = true)
      (late : j.now + allowed.nanos < ends + a.bodyDelay) :
      Ends s client server store j (.error (.timeout allowed))
  | incomplete {a : Answer} (received : s.Received client server store j a)
      (cut : a.complete = false) :
      Ends s client server store j (.error (.transport "incomplete body"))
  /-- The first rule that fails. -/
  | rule {a : Answer} {before after : List Rule} {rule : Rule} {f : Failure}
      (received : s.Received client server store j a) (complete : a.complete = true)
      (rules : s.rules = before ++ rule :: after) (fails : rule.extract a.response = .error f)
      (earlier : ∀ e ∈ before, ∃ v, e.extract a.response = .ok v) :
      Ends s client server store j (.error f)
  | done {a : Answer} {vs : List Variable} (received : s.Received client server store j a)
      (complete : a.complete = true)
      (each : List.Forall₂ (fun rule v => rule.extract a.response = .ok v) s.rules vs) :
      Ends s client server store j (.ok vs)

variable {s : RequestSpec} {client : Client} {server : Server} {store : Store} {j : Journal}
  {allowed : Duration} {m : Message} {a : Answer} {ends : Nat} {f : Failure}

/-! ## Stage by stage -/

theorem prepare_eq (timeLimit : s.timeLimit client.defaultTimeout = .ok allowed)
    (built : s.build store = .ok m) : s.prepare client store = .ok (allowed, m) := by
  unfold prepare
  rw [timeLimit, built]
  rfl

theorem prepare_eq_ok_iff : s.prepare client store = .ok (allowed, m) ↔
    s.timeLimit client.defaultTimeout = .ok allowed ∧ s.build store = .ok m := by
  refine ⟨fun prepared => ?_, fun ⟨timeLimit, built⟩ => prepare_eq timeLimit built⟩
  unfold prepare at prepared
  cases limit : s.timeLimit client.defaultTimeout with
  | error cause =>
    rw [limit] at prepared
    cases prepared
  | ok time =>
    cases built : s.build store with
    | error cause =>
      rw [limit, built] at prepared
      cases prepared
    | ok message =>
      rw [limit, built] at prepared
      cases prepared
      exact ⟨rfl, rfl⟩

theorem prepare_of_timeLimit {cause : Misconfiguration}
    (bad : s.timeLimit client.defaultTimeout = .error cause) :
    s.prepare client store = .error cause := by
  unfold prepare
  rw [bad]
  rfl

theorem prepare_of_build {cause : Misconfiguration}
    (timeLimit : s.timeLimit client.defaultTimeout = .ok allowed)
    (bad : s.build store = .error cause) : s.prepare client store = .error cause := by
  unfold prepare
  rw [timeLimit, bad]
  rfl

theorem execute_of_unprepared {cause : Misconfiguration}
    (bad : s.prepare client store = .error cause) :
    s.execute client server store j = (.error (.configuration cause), j) := by
  unfold execute
  rw [bad]

theorem execute_of_prepared (prepared : s.prepare client store = .ok (allowed, m)) :
    (s.execute client server store j).1 =
      (s.respond client server allowed m
        (j.report (.sending s.name s.method.name m.url.text allowed))).1.bind
      fun r => r.extract s.rules := by
  unfold execute
  rw [prepared]
  simp only
  generalize s.respond client server allowed m
    (j.report (.sending s.name s.method.name m.url.text allowed)) = got
  obtain ⟨result, after⟩ := got
  cases result <;> rfl

theorem execute_of_refused {cause : Misconfiguration}
    (prepared : s.prepare client store = .ok (allowed, m))
    (refused : Client.refusal? m.url = some cause) :
    (s.execute client server store j).1 = .error (.configuration cause) ∧
      (s.execute client server store j).2.arrived = j.arrived := by
  unfold execute respond
  rw [prepared]
  simp only [Client.send_eq, refused]
  exact ⟨trivial, rfl⟩

/-- What comes of the message with the deadline of the request. -/
def sending (s : RequestSpec) (client : Client) (server : Server) (j : Journal)
    (allowed : Duration) (m : Message) : Except Failure Answer × Journal :=
  Client.pursue server (.starting j.now allowed) client.redirectsLeft (client.dress m)
    (j.report (.sending s.name s.method.name m.url.text allowed))

theorem respond_of_passes (passes : s.Passes client store allowed m) :
    s.respond client server allowed m
      (j.report (.sending s.name s.method.name m.url.text allowed)) =
      match s.sending client server j allowed m with
      | (.error f, after) => (.error f, after)
      | (.ok a, after) => s.receive (.starting j.now allowed) a after := by
  unfold respond
  simp only [Client.send_eq, passes.sendable]
  rfl

theorem execute_of_passes (passes : s.Passes client store allowed m) :
    (s.execute client server store j).1 =
      (s.sending client server j allowed m).1.bind fun a =>
        (s.receive (.starting j.now allowed) a (s.sending client server j allowed m).2).1.bind
          fun r => r.extract s.rules := by
  rw [execute_of_prepared (prepare_eq passes.timeLimit passes.built), respond_of_passes passes]
  generalize s.sending client server j allowed m = got
  obtain ⟨result, after⟩ := got
  cases result <;> rfl

theorem receive_result (d : Deadline) (a : Answer) (j : Journal) :
    (s.receive d a j).1 =
      if s.accepts a.status then
        if j.now + a.bodyDelay ≤ d.moment then
          if a.complete then .ok a.response else .error (.transport "incomplete body")
        else .error (.timeout d.allowed)
      else .error (.unexpectedStatus a.status s.accepted.codes) := by
  unfold receive Journal.within
  split
  · split <;> rfl
  · rfl

theorem sending_of_answers {r : Except Failure Answer} (answers : client.Answers server j m r ends)
    (inTime : ends ≤ j.now + allowed.nanos) :
    (s.sending client server j allowed m).1 = r ∧
      (s.sending client server j allowed m).2.now = ends :=
  Client.Delivers.pursue answers inTime _ rfl rfl

theorem sending_of_late
    (late : ∀ r ends, client.Answers server j m r ends → j.now + allowed.nanos < ends)
    (stays : ¬ client.LedAway server j m (j.now + allowed.nanos)) :
    (s.sending client server j allowed m).1 = .error (.timeout allowed) :=
  Client.pursue_of_late _ _ _ late stays

theorem sending_of_ledAway (strays : client.LedAway server j m (j.now + allowed.nanos)) :
    ∃ cause, (s.sending client server j allowed m).1 = .error (.configuration cause) :=
  Client.Strays.pursue (d := .starting j.now allowed) strays
    (j.report (.sending s.name s.method.name m.url.text allowed)) rfl rfl

/-- What is made of an answer that comes in time. -/
theorem execute_of_answered (answered : s.Answered client server store j allowed a ends) :
    (s.execute client server store j).1 =
      if s.accepts a.status then
        if ends + a.bodyDelay ≤ j.now + allowed.nanos then
          if a.complete then a.response.extract s.rules
          else .error (.transport "incomplete body")
        else .error (.timeout allowed)
      else .error (.unexpectedStatus a.status s.accepted.codes) := by
  obtain ⟨m, passes, answers, inTime⟩ := answered
  obtain ⟨result, after⟩ := sending_of_answers (s := s) answers inTime
  have moment : (Deadline.starting j.now allowed).moment = j.now + allowed.nanos := rfl
  rw [execute_of_passes passes, result]
  show (s.receive _ a _).1.bind _ = _
  rw [receive_result, after, moment]
  by_cases accepted : s.accepts a.status = true
  · rw [if_pos accepted, if_pos accepted]
    by_cases whole : ends + a.bodyDelay ≤ j.now + allowed.nanos
    · rw [if_pos whole, if_pos whole]
      cases a.complete <;> rfl
    · rw [if_neg whole, if_neg whole]
      rfl
  · rw [if_neg accepted, if_neg accepted]
    rfl

theorem execute_of_received (received : s.Received client server store j a) :
    (s.execute client server store j).1 =
      if a.complete then a.response.extract s.rules
      else .error (.transport "incomplete body") := by
  obtain ⟨allowed, ends, answered, accepted, inTime⟩ := received
  rw [execute_of_answered answered, if_pos accepted, if_pos inTime]

/-- **Soundness.** What comes of a request is what its stages say. -/
theorem Ends.execute {r : Except Failure (List Variable)}
    (h : s.Ends client server store j r) : (s.execute client server store j).1 = r := by
  cases h with
  | timeLimit bad => rw [execute_of_unprepared (prepare_of_timeLimit bad)]
  | building timeLimit bad => rw [execute_of_unprepared (prepare_of_build timeLimit bad)]
  | check timeLimit built refused =>
    exact (execute_of_refused (prepare_eq timeLimit built) refused).1
  | late passes late stays =>
    rw [execute_of_passes passes, sending_of_late late stays]
    rfl
  | unsent passes fails inTime =>
    rw [execute_of_passes passes, (sending_of_answers fails inTime).1]
    rfl
  | status answered unaccepted =>
    rw [execute_of_answered answered, if_neg (by rw [unaccepted]; exact Bool.false_ne_true)]
  | bodyLate answered accepted late =>
    rw [execute_of_answered answered, if_pos accepted, if_neg (Nat.not_le.2 late)]
  | incomplete received cut =>
    rw [execute_of_received received, if_neg (by rw [cut]; exact Bool.false_ne_true)]
  | rule received complete rules fails earlier =>
    rw [execute_of_received received, if_pos complete]
    exact Response.extract_eq_error_iff.2 ⟨_, _, _, rules, fails, earlier⟩
  | done received complete each =>
    rw [execute_of_received received, if_pos complete]
    exact Response.extract_eq_ok_iff.2 each

/-! ## Every request -/

/-- Something comes of an answer that is there in time. -/
theorem Answered.exists_ends (answered : s.Answered client server store j allowed a ends) :
    ∃ r, s.Ends client server store j r := by
  cases accepted : s.accepts a.status with
  | false => exact ⟨_, .status answered accepted⟩
  | true =>
    by_cases inTime : ends + a.bodyDelay ≤ j.now + allowed.nanos
    · have received : s.Received client server store j a :=
        ⟨allowed, ends, answered, accepted, inTime⟩
      cases complete : a.complete with
      | false => exact ⟨_, .incomplete received complete⟩
      | true =>
        cases extracted : a.response.extract s.rules with
        | ok vs => exact ⟨_, .done received complete (Response.extract_eq_ok_iff.1 extracted)⟩
        | error f =>
          obtain ⟨before, rule, after, rules, fails, earlier⟩ :=
            Response.extract_eq_error_iff.1 extracted
          exact ⟨_, .rule received complete rules fails earlier⟩
    · exact ⟨_, .bodyLate answered accepted (Nat.lt_of_not_le inTime)⟩

/-- Something comes of a message that the client can send, unless it is led away from HTTP. -/
theorem Passes.exists_ends (passes : s.Passes client store allowed m)
    (stays : ¬ client.LedAway server j m (j.now + allowed.nanos)) :
    ∃ r, s.Ends client server store j r := by
  by_cases inTime : ∃ r ends, client.Answers server j m r ends ∧ ends ≤ j.now + allowed.nanos
  · obtain ⟨r, ends, answers, le⟩ := inTime
    cases r with
    | ok a => exact Answered.exists_ends ⟨m, passes, answers, le⟩
    | error f =>
      obtain ⟨words, rfl⟩ := answers.transport
      exact ⟨_, .unsent passes answers le⟩
  · have late : ∀ r ends, client.Answers server j m r ends → j.now + allowed.nanos < ends :=
      fun r ends answers => Nat.lt_of_not_le fun le => inTime ⟨r, ends, answers, le⟩
    exact ⟨_, .late passes late stays⟩

/-- Either all stages before sending pass, or a configuration error comes of the request and no
message of it arrives. -/
theorem passes_or_configuration (s : RequestSpec) (client : Client) (server : Server)
    (store : Store) (j : Journal) :
    (∃ allowed m, s.Passes client store allowed m) ∨
      (∃ cause, s.Ends client server store j (.error (.configuration cause))) ∧
        (s.execute client server store j).2.arrived = j.arrived := by
  cases limited : s.timeLimit client.defaultTimeout with
  | error cause =>
    refine .inr ⟨⟨cause, .timeLimit limited⟩, ?_⟩
    rw [execute_of_unprepared (prepare_of_timeLimit limited)]
  | ok allowed =>
    cases built : s.build store with
    | error cause =>
      refine .inr ⟨⟨cause, .building limited built⟩, ?_⟩
      rw [execute_of_unprepared (prepare_of_build limited built)]
    | ok m =>
      cases check : Client.refusal? m.url with
      | none => exact .inl ⟨allowed, m, limited, built, check⟩
      | some cause =>
        exact .inr ⟨⟨cause, .check limited built check⟩,
          (execute_of_refused (prepare_eq limited built) check).2⟩

/-- A redirect away from HTTP is reported as a configuration error. -/
theorem execute_of_ledAway (passes : s.Passes client store allowed m)
    (strays : client.LedAway server j m (j.now + allowed.nanos)) :
    ∃ cause, (s.execute client server store j).1 = .error (.configuration cause) := by
  obtain ⟨cause, refused⟩ := sending_of_ledAway (s := s) strays
  refine ⟨cause, ?_⟩
  rw [execute_of_passes passes, refused]
  rfl

/-- What comes of a request is what its stages say, unless it is a configuration error that comes of
a redirect away from HTTP. -/
theorem execute_eq_iff {r : Except Failure (List Variable)}
    (stays : (∀ cause, r ≠ .error (.configuration cause)) ∨
      ∀ allowed m, s.Passes client store allowed m →
        ¬ client.LedAway server j m (j.now + allowed.nanos)) :
    (s.execute client server store j).1 = r ↔ s.Ends client server store j r := by
  refine ⟨fun result => ?_, Ends.execute⟩
  have settled : ∃ r, s.Ends client server store j r := by
    rcases passes_or_configuration s client server store j with
      ⟨allowed, m, passes⟩ | ⟨⟨cause, ends⟩, -⟩
    · by_cases strays : client.LedAway server j m (j.now + allowed.nanos)
      · obtain ⟨cause, refused⟩ := execute_of_ledAway passes strays
        rcases stays with other | stays
        · exact absurd (result.symm.trans refused) (other cause)
        · exact absurd strays (stays allowed m passes)
      · exact passes.exists_ends strays
    · exact ⟨_, ends⟩
  obtain ⟨r', ends⟩ := settled
  rwa [← result, ends.execute]

/-- A variable for each rule comes of a request exactly when all stages pass. -/
theorem ends_ok_iff {vs : List Variable} :
    s.Ends client server store j (.ok vs) ↔ ∃ a, s.Received client server store j a ∧
      a.complete = true ∧
      List.Forall₂ (fun rule v => rule.extract a.response = .ok v) s.rules vs := by
  constructor
  · intro ends
    cases ends with
    | done received complete each => exact ⟨_, received, complete, each⟩
  · rintro ⟨a, received, complete, each⟩
    exact .done received complete each

/-- An unexpected status code comes of a request exactly when one that is not accepted comes in
time, whatever else is the matter. -/
theorem ends_unexpectedStatus_iff {actual : UInt16} {codes : List UInt16} :
    s.Ends client server store j (.error (.unexpectedStatus actual codes)) ↔
      codes = s.accepted.codes ∧ s.accepts actual = false ∧
        ∃ allowed a ends, s.Answered client server store j allowed a ends ∧ a.status = actual := by
  constructor
  · intro ends
    cases ends with
    | status answered unaccepted => exact ⟨rfl, unaccepted, _, _, _, answered, rfl⟩
    | rule received complete rules fails earlier =>
      rcases Rule.failure_of_extract fails with ⟨fault, eq⟩ | ⟨cause, eq⟩
      · cases eq
      · cases eq
  · rintro ⟨rfl, unaccepted, allowed, a, ends, answered, rfl⟩
    exact .status answered unaccepted

/-! ## A URL that cannot be written -/

/-- A request whose URL has a fragment of some letters. -/
def withLetters (n : Nat) : RequestSpec where
  name := "letters"
  url := String.ofList ("http://[::1]/#".toList ++ List.replicate n 'a')

theorem build_withLetters (n : Nat) :
    (withLetters n).build .empty =
      .ok (.ofUrl .get (Url.atLoopback (List.replicate n 'a'))) := by
  have visible : ∀ c ∈ List.replicate n 'a', Url.isMargin c = false := by
    intro c mem
    rw [List.eq_of_mem_replicate mem]
    decide
  have stand : ∀ c ∈ List.replicate n 'a', Percent.StandsIn .fragment c := by
    intro c mem
    rw [List.eq_of_mem_replicate mem]
    decide +kernel
  have url : (withLetters n).renderUrl .empty =
      .ok (Url.atLoopback (List.replicate n 'a')) := by
    unfold renderUrl withLetters
    simp only [Template.render_empty, Url.parse_withFragment visible stand]
    rfl
  have body : (withLetters n).renderBody .empty = none := by
    unfold renderBody withLetters
    rw [Template.render_empty]
    rfl
  unfold build
  rw [url, body]
  rfl

/-! ## The outcome -/

/-- What is said of a request, with some client and server, whatever is the matter with it. -/
structure Outcomes (s : RequestSpec) (client : Client) (server : Server) (store : Store)
    (j : Journal) : Prop where
  /-- What comes of a request is what the earliest stage that fails makes of it. -/
  earliest : ∀ r, s.Ends client server store j r → (s.execute client server store j).1 = r
  /-- Nothing else comes of a request, unless a redirect leads it away from HTTP. -/
  nothingElse : ∀ r, (∀ cause, r ≠ .error (.configuration cause)) ∨
      (∀ allowed m, s.Passes client store allowed m →
        ¬ client.LedAway server j m (j.now + allowed.nanos)) →
    (s.execute client server store j).1 = r → s.Ends client server store j r
  /-- If a stage before sending fails, that is a configuration error, and nothing is sent. -/
  unsent : (∀ allowed m, ¬ s.Passes client store allowed m) →
    (∃ cause, (s.execute client server store j).1 = .error (.configuration cause)) ∧
      (s.execute client server store j).2.arrived = j.arrived
  /-- It succeeds exactly when all stages pass. -/
  succeeds : ∀ vs, (s.execute client server store j).1 = .ok vs ↔
    ∃ a, s.Received client server store j a ∧ a.complete = true ∧
      List.Forall₂ (fun rule v => rule.extract a.response = .ok v) s.rules vs
  /-- And then there is one variable for each rule, named like it, in order. -/
  named : ∀ vs, (s.execute client server store j).1 = .ok vs →
    vs.map Variable.label = s.rules.map Rule.label
  /-- A status code is unexpected exactly when it is the one of an answer in time, and is not
  accepted. -/
  unexpected : ∀ actual codes,
    (s.execute client server store j).1 = .error (.unexpectedStatus actual codes) ↔
      codes = s.accepted.codes ∧ s.accepts actual = false ∧
        ∃ allowed a ends, s.Answered client server store j allowed a ends ∧ a.status = actual
  /-- The codes reported with it are those that are accepted, ascending. -/
  ascending : s.accepted.codes.Pairwise (· < ·) ∧
    ∀ code, code ∈ s.accepted.codes ↔ s.accepts code = true

/-- **What comes of a request.** -/
theorem execute_outcomes (s : RequestSpec) (client : Client) (server : Server) (store : Store)
    (j : Journal) : s.Outcomes client server store j where
  earliest _ := Ends.execute
  nothingElse _ stays := (execute_eq_iff stays).1
  unsent fails := by
    rcases passes_or_configuration s client server store j with
      ⟨allowed, m, passes⟩ | ⟨⟨cause, ends⟩, arrived⟩
    · exact absurd passes (fails allowed m)
    · exact ⟨⟨cause, ends.execute⟩, arrived⟩
  succeeds vs := (execute_eq_iff (r := .ok vs) (.inl fun _ eq => nomatch eq)).trans ends_ok_iff
  named vs result := by
    have ends := (execute_eq_iff (r := .ok vs) (.inl fun _ eq => nomatch eq)).1 result
    obtain ⟨a, -, -, each⟩ := ends_ok_iff.1 ends
    exact Rule.labels_of_each each
  unexpected actual codes :=
    (execute_eq_iff (r := .error (.unexpectedStatus actual codes))
      (.inl fun _ eq => nomatch eq)).trans ends_unexpectedStatus_iff
  ascending := ⟨s.accepted.ascending, fun code => by
    simp [accepts, StatusCodes.contains]⟩

/-- All is well with the time limit and the building of this request, and its scheme is HTTP. Still
nothing is sent, as its URL is too long, and that is no failure on the wire. -/
theorem execute_overlong :
    (withLetters 65521).timeLimit ({} : Client).defaultTimeout = .ok .clientDefault ∧
      (∃ m, (withLetters 65521).build .empty = .ok m ∧ m.url.isHttp = true) ∧
      ∃ cause, ((withLetters 65521).execute {} (.unreachable "refused") .empty {}).1 =
        .error (.configuration cause) := by
  have built := build_withLetters 65521
  have long : (Url.atLoopback (List.replicate 65521 'a')).isWritable = false :=
    Url.not_isWritable_atLoopback (by rw [List.length_replicate]; omega)
  have refused : Client.refusal? (Url.atLoopback (List.replicate 65521 'a')) =
      some (.unwritableUrl (Url.atLoopback (List.replicate 65521 'a')).text) := by
    unfold Client.refusal?
    rw [long]
    rfl
  exact ⟨rfl, ⟨_, built, rfl⟩, ⟨_, (Ends.check rfl built refused).execute⟩⟩

end RequestSpec

end Vigil

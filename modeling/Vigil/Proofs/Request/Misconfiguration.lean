import Vigil.Proofs.Chain.Attempts
import Vigil.Proofs.Log.Passing
import Vigil.Proofs.Request.Outcome

/-!
# When configuration errors are raised

Most of what is wrong with a request is found out before anything is sent (`Stopped`), and then no
message of it arrives. Two faults are found out too late (`RaisedLate`), when the server has seen
the request. The pattern of a rule is looked at only when there is a response, although whether it
is any good does not depend on that (`Rule.extract_eq_configuration_iff`). And a redirect is checked
when it comes. There is nothing else (`configuration_raised`), neither for a request by itself nor
for one in a chain.
-/

set_option autoImplicit false

namespace Vigil

namespace Client

variable {server : Server} {d : Deadline} {left : Option Nat} {m : Message} {j : Journal}

/-- An exchange fails on the wire or for want of time. -/
theorem failure_of_exchange {f : Failure} (failed : (j.exchange server d m).1 = .error f) :
    f.isTransport = true := by
  have within : ∀ (j : Journal) (delay : Nat) (r : Except Failure Answer),
      (∀ f, r = .error f → f.isTransport = true) → ∀ f, (j.within d delay r).1 = .error f →
        f.isTransport = true := by
    intro j delay r wire f failed
    unfold Journal.within at failed
    split at failed
    · exact wire f failed
    · cases failed
      rfl
  unfold Journal.exchange at failed
  cases reply : server j.now j.arrived m with
  | unreachable delay words | lost delay words =>
    rw [reply] at failed
    exact within _ delay _ (fun f eq => by cases eq; rfl) f failed
  | silence =>
    rw [reply] at failed
    cases failed
    rfl
  | answer delay a =>
    rw [reply] at failed
    exact within _ delay _ (fun f eq => by cases eq) f failed

/-- Unless it fails on the wire or for want of time, a message has arrived when something comes of
it. -/
theorem arrived_of_pursue
    (usable : ∀ f, (pursue server d left m j).1 = .error f → f.isTransport = false) :
    j.arrived ++ [m] <+: (pursue server d left m j).2.arrived := by
  cases got : (j.exchange server d m).1 with
  | error f =>
    have wire := failure_of_exchange got
    rw [pursue_of_error got] at usable
    rw [usable f got] at wire
    cases wire
  | ok a =>
    have here := arrived_of_exchange got
    by_cases last : left = none ∨ a.redirect? = none ∨ a.target? m.url = none
    · rw [pursue_last got last]
      exact ⟨[], (List.append_nil _).trans here.symm⟩
    · simp only [not_or, Option.ne_none_iff_exists'] at last
      obtain ⟨⟨count, rfl⟩, ⟨kind, redirects⟩, ⟨next, target⟩⟩ := last
      cases count with
      | zero =>
        rw [pursue_tooMany got redirects target] at usable
        have wire := usable _ rfl
        cases wire
      | succ more =>
        rw [pursue_on got redirects target, ← here]
        split
        · exact (follow_leads server d more _ _).arrived
        · exact List.prefix_rfl

end Client

namespace RequestSpec

/-- A request is given up before it is sent. -/
inductive Stopped (s : RequestSpec) (client : Client) (store : Store) :
    Misconfiguration → Prop where
  /-- The time allowed is malformed or zero. -/
  | timeLimit {cause : Misconfiguration}
      (bad : s.timeLimit client.defaultTimeout = .error cause) : Stopped s client store cause
  /-- What the templates become is no URL with a host, or no header. -/
  | building {allowed : Duration} {cause : Misconfiguration}
      (timeLimit : s.timeLimit client.defaultTimeout = .ok allowed)
      (bad : s.build store = .error cause) : Stopped s client store cause
  /-- The client cannot send the message. -/
  | check {allowed : Duration} {m : Message} {cause : Misconfiguration}
      (timeLimit : s.timeLimit client.defaultTimeout = .ok allowed)
      (built : s.build store = .ok m) (refused : Client.refusal? m.url = some cause) :
      Stopped s client store cause

/-- A request is given up after the server has seen it, for a fault that is its own or that of the
place it is sent to. -/
inductive RaisedLate (s : RequestSpec) (client : Client) (server : Server) (store : Store)
    (j : Journal) : Misconfiguration → Prop where
  /-- The response is there, and the first rule that fails does so for its pattern. -/
  | pattern {a : Answer} {before after : List Rule} {rule : Rule} {cause : Misconfiguration}
      (received : s.Received client server store j a) (rules : s.rules = before ++ rule :: after)
      (fault : rule.patternFault? = some cause)
      (earlier : ∀ e ∈ before, ∃ v, e.extract a.response = .ok v) :
      RaisedLate s client server store j cause
  /-- A redirect leads away from HTTP. -/
  | redirect {allowed : Duration} {m : Message} {cause : Misconfiguration}
      (passes : s.Passes client store allowed m)
      (away : client.LedAway server j m (j.now + allowed.nanos)) :
      RaisedLate s client server store j cause

variable {s : RequestSpec} {client : Client} {server : Server} {store : Store} {j : Journal}
  {allowed : Duration} {m : Message} {cause : Misconfiguration}

/-- What is given up before it is sent is a configuration error, and nothing of it arrives. -/
theorem Stopped.execute (stopped : s.Stopped client store cause) (server : Server) (j : Journal) :
    (s.execute client server store j).1 = .error (.configuration cause) ∧
      (s.execute client server store j).2.arrived = j.arrived := by
  cases stopped with
  | timeLimit bad =>
    rw [execute_of_unprepared (prepare_of_timeLimit bad)]
    exact ⟨rfl, rfl⟩
  | building timeLimit bad =>
    rw [execute_of_unprepared (prepare_of_build timeLimit bad)]
    exact ⟨rfl, rfl⟩
  | check timeLimit built refused =>
    exact execute_of_refused (prepare_eq timeLimit built) refused

/-- After sending, a request only adds to the journal. -/
theorem sending_leads (passes : s.Passes client store allowed m) :
    (s.sending client server j allowed m).2.Leads (s.execute client server store j).2 := by
  unfold execute
  rw [prepare_eq passes.timeLimit passes.built]
  simp only [respond_of_passes passes]
  generalize s.sending client server j allowed m = got
  obtain ⟨result, after⟩ := got
  cases result with
  | error f => exact .refl after
  | ok a =>
    simp only
    have taken := s.receive_leads (.starting j.now allowed) a after
    generalize s.receive (.starting j.now allowed) a after = response at taken ⊢
    obtain ⟨result, after'⟩ := response
    cases result with
    | error f => exact taken
    | ok r => exact taken.trans (Journal.leads_report after' _)

/-- What is found out too late is found out when the message has arrived. -/
theorem RaisedLate.arrived (late : s.RaisedLate client server store j cause) :
    ∃ allowed m, s.Passes client store allowed m ∧
      j.arrived ++ [client.dress m] <+: (s.execute client server store j).2.arrived := by
  have sent : ∀ {allowed m}, s.Passes client store allowed m →
      (∀ f, (s.sending client server j allowed m).1 = .error f → f.isTransport = false) →
      j.arrived ++ [client.dress m] <+: (s.execute client server store j).2.arrived := by
    intro allowed m passes usable
    exact (Client.arrived_of_pursue usable).trans (sending_leads passes).arrived
  cases late with
  | pattern received rules fault earlier =>
    obtain ⟨allowed, ends, ⟨m, passes, answers, inTime⟩, -, -⟩ := received
    refine ⟨allowed, m, passes, sent passes fun f failed => ?_⟩
    rw [(sending_of_answers answers inTime).1] at failed
    cases failed
  | @redirect allowed m _ passes away =>
    refine ⟨allowed, m, passes, sent passes fun f failed => ?_⟩
    obtain ⟨cause, refused⟩ := sending_of_ledAway (s := s) away
    rw [refused] at failed
    cases failed
    rfl

/-- **Early or late.** A configuration error is raised before the request is sent, or it is one of
the two that are raised too late. -/
theorem stopped_or_raisedLate
    (failed : (s.execute client server store j).1 = .error (.configuration cause)) :
    s.Stopped client store cause ∨ s.RaisedLate client server store j cause := by
  by_cases away : ∃ allowed m, s.Passes client store allowed m ∧
      client.LedAway server j m (j.now + allowed.nanos)
  · obtain ⟨allowed, m, passes, away⟩ := away
    exact .inr (.redirect passes away)
  · have stays : ∀ allowed m, s.Passes client store allowed m →
        ¬ client.LedAway server j m (j.now + allowed.nanos) :=
      fun allowed m passes leads => away ⟨allowed, m, passes, leads⟩
    cases (execute_eq_iff (.inr stays)).1 failed with
    | timeLimit bad => exact .inl (.timeLimit bad)
    | building timeLimit bad => exact .inl (.building timeLimit bad)
    | check timeLimit built refused => exact .inl (.check timeLimit built refused)
    | rule received complete rules fails earlier =>
      exact .inr (.pattern received rules (Rule.extract_eq_configuration_iff.1 fails) earlier)

/-- What a configuration error says of the messages that have arrived, when carrying out a request
led from the journal `j` to the journal `after`. -/
structure Raised (s : RequestSpec) (client : Client) (server : Server) (store : Store)
    (j after : Journal) (cause : Misconfiguration) : Prop where
  /-- It was raised before the request was sent, and no message of it has arrived; or it was raised
  too late, and its message has arrived. -/
  earlyOrLate :
    s.Stopped client store cause ∧ after.arrived = j.arrived ∨
    s.RaisedLate client server store j cause ∧ ∃ allowed m, s.Passes client store allowed m ∧
      j.arrived ++ [client.dress m] <+: after.arrived
  /-- So nothing has arrived if the patterns of the rules are good and no redirect leads away from
  HTTP. -/
  unsent : (∀ rule ∈ s.rules, rule.patternFault? = none) →
    (∀ allowed m, s.Passes client store allowed m →
      ¬ client.LedAway server j m (j.now + allowed.nanos)) → after.arrived = j.arrived

theorem raised (failed : (s.execute client server store j).1 = .error (.configuration cause)) :
    s.Raised client server store j (s.execute client server store j).2 cause := by
  constructor
  case earlyOrLate =>
    rcases stopped_or_raisedLate failed with stopped | late
    · exact .inl ⟨stopped, (stopped.execute server j).2⟩
    · exact .inr ⟨late, late.arrived⟩
  case unsent =>
    intro good stays
    rcases stopped_or_raisedLate failed with stopped | late
    · exact (stopped.execute server j).2
    · cases late with
      | @pattern a before after rule _ received rules fault earlier =>
        have none := good rule (by rw [rules]; exact List.mem_append_right _ List.mem_cons_self)
        rw [none] at fault
        cases fault
      | redirect passes away => exact absurd away (stays _ _ passes)

end RequestSpec

/-- **When configuration errors are raised**, of requests by themselves and of those in chains. -/
theorem configuration_raised (client : Client) (server : Server) :
    (∀ (s : RequestSpec) (store : Store) (j : Journal) (cause : Misconfiguration),
      (s.execute client server store j).1 = .error (.configuration cause) →
        s.Raised client server store j (s.execute client server store j).2 cause) ∧
    (∀ (s : RequestSpec) (store : Store) (j : Journal) (cause : Misconfiguration),
      s.Stopped client store cause →
        (s.execute client server store j).1 = .error (.configuration cause)) ∧
    ∀ (kind : ChainKind) (specs : List RequestSpec) (store : Store) (j : Journal) (i : Nat)
      (a : Attempt) (cause : Misconfiguration),
      (kind.attempts client server specs store j)[i]? = some a →
      a.result = .error (.configuration cause) →
        a.spec.Raised client server a.given
          ((j.afterAttempts kind ((kind.attempts client server specs store j).take i)).report
            (.executing kind a.spec.name)) a.after cause := by
  refine ⟨fun s store j cause failed => RequestSpec.raised failed,
    fun s store j cause stopped => (stopped.execute server j).1, ?_⟩
  intro kind specs store j i a cause here failed
  have carried := (ChainKind.carriedOut_attempts specs store j i a here).2
  have ended : (a.spec.execute client server a.given
      ((j.afterAttempts kind ((kind.attempts client server specs store j).take i)).report
        (.executing kind a.spec.name))).1 = .error (.configuration cause) := by
    rw [carried]
    exact failed
  have raised := RequestSpec.raised ended
  rwa [carried] at raised

/-- A request with a rule whose pattern is malformed. -/
def RequestSpec.unclosed : RequestSpec where
  name := "unclosed"
  method := .post
  url := "http://[::1]/orders"
  rules := [{ name := "id", source := .regex "(" }]

/-- The request is answered, and only then its pattern is looked at. The server has seen it. -/
theorem RequestSpec.execute_unclosed :
    (unclosed.execute {} (fun _ _ _ => .answer 0 {}) .empty {}).1 =
      .error (.configuration (.invalidPattern "id")) ∧
    ((unclosed.execute {} (fun _ _ _ => .answer 0 {}) .empty {}).2.arrived.map fun m =>
      (m.method, m.url.text)) = [(.post, "http://[::1]/orders")] := by
  have failure : (match (unclosed.execute {} (fun _ _ _ => .answer 0 {}) .empty {}).1 with
      | .error f => some f
      | .ok _ => none) = some (.configuration (.invalidPattern "id")) := by decide +kernel
  refine ⟨?_, by decide +kernel⟩
  split at failure
  · next f failed => rw [failed, Option.some.inj failure]
  · cases failure

end Vigil

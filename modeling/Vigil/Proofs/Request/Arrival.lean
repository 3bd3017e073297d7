import Vigil.Proofs.Http.Naming
import Vigil.Proofs.Request.Outcome

/-!
# What arrives of a request

Of the messages that carrying out a request sends, the first is the one that is built, with the
default headers of the client, and the others are what redirects make of it
(`RequestSpec.arrived_execute`). What a redirect makes of a message says the same under all names
but those that redirects are about (`Message.Echo`). Nothing is reported while a message is sent
(`RequestSpec.sends_respond`).
-/

set_option autoImplicit false

namespace Vigil

namespace Message

open Header

/-- The headers that redirects are about: the one they tell where the client comes from with, those
that describe a body, and those for one host only. -/
def redirectNames : List String := "referer" :: bodyHeaders ++ hostHeaders

/-- A message says what another one does, except under the names that redirects are about. -/
def Echo (m m' : Message) : Prop :=
  ∀ name, (∀ n ∈ redirectNames, sameName n name = false) →
    under name m'.headers = under name m.headers

theorem Echo.refl (m : Message) : m.Echo m := fun _ _ => rfl

theorem Echo.trans {m m' m'' : Message} (first : m.Echo m') (second : m'.Echo m'') : m.Echo m'' :=
  fun name other => (second name other).trans (first name other)

theorem echo_withoutHeaders (m : Message) {names : List String}
    (listed : names ⊆ redirectNames) : m.Echo (m.withoutHeaders names) := by
  intro name other
  apply under_filter
  intro h _ same
  rw [Bool.not_eq_true', ← Bool.not_eq_true, List.contains_iff_mem]
  intro named
  rw [other h.name (listed named)] at same
  cases same

theorem echo_withReferer (m : Message) {current next : Url} {h : Header}
    (referred : referer? current next = some h) : m.Echo (m.withHeader h) := by
  have own : h.name = "referer" := by
    unfold referer? at referred
    split at referred
    · cases referred
    · cases referred
      rfl
  have first : ["referer"] ⊆ redirectNames := by decide
  intro name other
  have kept := echo_withoutHeaders m first name other
  unfold withHeader
  rw [own, under_append, kept, under_cons, own, other "referer" List.mem_cons_self]
  exact List.append_nil _

/-- The last step to the message for another place. -/
theorem echo_moved (m : Message) (moved : Bool) (next : Url) :
    m.Echo { (if moved then m.withoutHeaders hostHeaders else m) with url := next } := by
  cases moved with
  | true => exact echo_withoutHeaders m (by decide)
  | false => exact .refl m

/-- What a redirect makes of a message. -/
theorem echo_redirected (m : Message) (kind : Answer.Redirect) (next : Url) :
    m.Echo (m.redirected kind next) := by
  have listed : bodyHeaders ⊆ redirectNames := by decide
  have bodiless : m.Echo m.dropBody := echo_withoutHeaders m listed
  unfold redirected
  cases referred : referer? m.url next with
  | none =>
    cases kind with
    | withoutBody => exact bodiless.trans (echo_moved m.dropBody _ next)
    | withBody => exact echo_moved m _ next
  | some h =>
    cases kind with
    | withoutBody =>
      exact bodiless.trans ((echo_withReferer m.dropBody referred).trans (echo_moved _ _ next))
    | withBody => exact (echo_withReferer m referred).trans (echo_moved _ _ next)

end Message

/-- Messages of which all but the first are what redirects make of it: `m` is the first, unless
there is none. -/
inductive Message.Trail (m : Message) : List Message → Prop where
  | none : Trail m []
  | some {rest : List Message} (echoes : ∀ m' ∈ rest, m.Echo m') : Trail m (m :: rest)

/-- Sending a message turns a journal into another one: what arrives is the message and what
redirects make of it, and nothing is reported. -/
structure Journal.Sends (j : Journal) (m : Message) (j' : Journal) : Prop where
  arrived : ∃ sent, j'.arrived = j.arrived ++ sent ∧ m.Trail sent
  entries : j'.entries = j.entries

namespace Client

variable {server : Server} {d : Deadline} {left : Option Nat} {m : Message} {j j' : Journal}

theorem arrived_within {α : Type} (j : Journal) (d : Deadline) (span : Nat)
    (r : Except Failure α) : (j.within d span r).2.arrived = j.arrived := by
  unfold Journal.within
  split <;> rfl

theorem entries_within {α : Type} (j : Journal) (d : Deadline) (span : Nat)
    (r : Except Failure α) : (j.within d span r).2.entries = j.entries := by
  unfold Journal.within
  split <;> rfl

/-- Nothing arrives. -/
theorem sends_none (m : Message) (arrived : j'.arrived = j.arrived)
    (entries : j'.entries = j.entries) : j.Sends m j' where
  arrived := ⟨[], arrived.trans (List.append_nil _).symm, .none⟩
  entries := entries

/-- One message arrives. -/
theorem sends_one (arrived : j'.arrived = j.arrived ++ [m]) (entries : j'.entries = j.entries) :
    j.Sends m j' where
  arrived := ⟨[m], arrived, .some (List.forall_mem_nil _)⟩
  entries := entries

theorem sends_exchange (server : Server) (d : Deadline) (m : Message) (j : Journal) :
    j.Sends m (j.exchange server d m).2 := by
  unfold Journal.exchange
  cases server j.now j.arrived m with
  | unreachable delay words =>
    exact sends_none m (arrived_within j d delay _) (entries_within j d delay _)
  | lost delay words =>
    exact sends_one (arrived_within (j.deliver m) d delay _)
      (entries_within (j.deliver m) d delay _)
  | silence => exact sends_none m rfl rfl
  | answer delay a =>
    exact sends_one (arrived_within (j.deliver m) d delay _)
      (entries_within (j.deliver m) d delay _)

/-- A message arrives, and it is redirected. -/
theorem sends_redirected {j'' : Journal} {kind : Answer.Redirect} {next : Url}
    (here : j'.arrived = j.arrived ++ [m]) (quiet : j'.entries = j.entries)
    (further : j'.Sends (m.redirected kind next) j'') : j.Sends m j'' := by
  obtain ⟨⟨sent, arrived, trail⟩, entries⟩ := further
  refine ⟨⟨m :: sent, ?_, .some fun m' mem => ?_⟩, entries.trans quiet⟩
  · rw [arrived, here, List.append_assoc]
    rfl
  · have first := Message.echo_redirected m kind next
    cases trail with
    | none => cases mem
    | some echoes =>
      rcases List.mem_cons.1 mem with rfl | mem
      · exact first
      · exact first.trans (echoes m' mem)

theorem sends_follow (server : Server) (d : Deadline) (left : Nat) (m : Message) (j : Journal) :
    j.Sends m (follow server d left m j).2 := by
  induction left generalizing m j with
  | zero =>
    rw [follow]
    have first := sends_exchange server d m j
    generalize j.exchange server d m = got at first ⊢
    obtain ⟨result, after⟩ := got
    cases result with
    | error f => exact first
    | ok a =>
      simp only
      split <;> exact first
  | succ left ih =>
    rw [follow]
    have first := sends_exchange server d m j
    have answered : ∀ a, (j.exchange server d m).1 = .ok a →
        (j.exchange server d m).2.arrived = j.arrived ++ [m] := fun _ => arrived_of_exchange
    generalize j.exchange server d m = got at first answered ⊢
    obtain ⟨result, after⟩ := got
    cases result with
    | error f => exact first
    | ok a =>
      simp only
      split
      · split
        · exact sends_redirected (answered a rfl) first.entries (ih _ after)
        · exact first
      · exact first

/-- What arrives of a message that a client sends: the message with the default headers first. -/
theorem sends_send (c : Client) (server : Server) (d : Deadline) (m : Message) (j : Journal) :
    j.Sends (c.dress m) (c.send server d m j).2 := by
  unfold send
  split
  · exact sends_none _ rfl rfl
  · split
    · exact sends_exchange server d _ j
    · exact sends_follow server d _ _ j

end Client

namespace RequestSpec

variable {s : RequestSpec} {client : Client} {server : Server} {store : Store} {j : Journal}
  {m : Message}

theorem receive_quiet (s : RequestSpec) (d : Deadline) (a : Answer) (j : Journal) :
    (s.receive d a j).2.arrived = j.arrived ∧ (s.receive d a j).2.entries = j.entries := by
  unfold receive
  split
  · exact ⟨Client.arrived_within j d _ _, Client.entries_within j d _ _⟩
  · exact ⟨rfl, rfl⟩

theorem sends_respond (s : RequestSpec) (client : Client) (server : Server) (allowed : Duration)
    (m : Message) (j : Journal) :
    j.Sends (client.dress m) (s.respond client server allowed m j).2 := by
  unfold respond
  have sending := Client.sends_send client server (.starting j.now allowed) m j
  simp only
  generalize client.send server (.starting j.now allowed) m j = got at sending ⊢
  obtain ⟨result, after⟩ := got
  cases result with
  | error f => exact sending
  | ok a =>
    simp only
    have quiet := s.receive_quiet (.starting j.now allowed) a after
    constructor
    · rw [quiet.1]
      exact sending.arrived
    · rw [quiet.2]
      exact sending.entries

/-- **What arrives of a request** is its message with the default headers of the client, and then
what redirects make of it; or nothing. -/
theorem arrived_execute (s : RequestSpec) (client : Client) (server : Server) (store : Store)
    (j : Journal) : ∃ sent, (s.execute client server store j).2.arrived = j.arrived ++ sent ∧
      (sent = [] ∨ ∃ m, s.build store = .ok m ∧ (client.dress m).Trail sent) := by
  unfold execute
  cases prepared : s.prepare client store with
  | error cause => exact ⟨[], (List.append_nil _).symm, .inl rfl⟩
  | ok p =>
    obtain ⟨allowed, m⟩ := p
    obtain ⟨sent, arrived, trail⟩ := (s.sends_respond client server allowed m
      (j.report (.sending s.name s.method.name m.url.text allowed))).arrived
    refine ⟨sent, ?_, .inr ⟨m, (prepare_eq_ok_iff.1 prepared).2, trail⟩⟩
    simp only
    generalize s.respond client server allowed m
      (j.report (.sending s.name s.method.name m.url.text allowed)) = got at arrived ⊢
    obtain ⟨result, after⟩ := got
    cases result <;> exact arrived

end RequestSpec

end Vigil

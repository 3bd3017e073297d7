import Vigil.Http.Client

/-!
# The client that a process shares

Calls for the shared client come one after the other, with settings or without. What a call makes by
itself is the client for its settings (`Call.own`). After some calls the process shares what the
first of them that makes a client by itself has made (`client_after`); a call is answered with that
(`answer_of_some`), and as long as there is none, with what it makes by itself
(`answer_of_none`). So the client is set once (`set_once`).
-/

set_option autoImplicit false

namespace Vigil

namespace SharedClient

/-- A call for the shared client. -/
inductive Call where
  | init (settings : ClientSettings)
  | get

/-- What a call makes by itself: the client for its settings, and without settings that of a client
that nothing is said about. -/
def Call.own : Call → Except Unusable Client
  | .init settings => Client.ofSettings settings
  | .get => .ok {}

/-- A call: its answer, and what the process shares after it. -/
def call (s : SharedClient) : Call → Except Unusable Client × SharedClient
  | .init settings => s.init settings
  | .get => (.ok s.get.1, s.get.2)

/-- What a process shares after some calls, the first that it has seen. -/
def after (calls : List Call) : SharedClient := calls.foldl (fun s c => (s.call c).2) {}

/-- The answer to a call after some others. -/
def answer (before : List Call) (c : Call) : Except Unusable Client := ((after before).call c).1

/-- What the first of some calls that makes a client by itself makes. -/
def firstMade (calls : List Call) : Option Client := calls.findSome? fun c => c.own.toOption

variable {s : SharedClient} {c : Call} {calls before : List Call} {client : Client}

/-! ## One call -/

theorem call_of_some (set : s.client = some client) : s.call c = (.ok client, s) := by
  cases c with
  | init settings => rw [call, init, set]
  | get => rw [call, get, set]

theorem call_of_none (unset : s.client = none) : s.call c = (c.own, ⟨c.own.toOption⟩) := by
  obtain ⟨shared⟩ := s
  obtain rfl := unset
  cases c with
  | get => rfl
  | init settings =>
    rw [call, init, Call.own]
    cases Client.ofSettings settings <;> rfl

/-- A call sets the client if it is not set and the call makes one by itself. -/
theorem client_call (s : SharedClient) (c : Call) :
    (s.call c).2.client = s.client.or c.own.toOption := by
  cases set : s.client with
  | some client => rw [call_of_some set, set, Option.some_or]
  | none => rw [call_of_none set, Option.none_or]

/-! ## Calls one after the other -/

theorem client_foldl (s : SharedClient) (calls : List Call) :
    (calls.foldl (fun s c => (s.call c).2) s).client = s.client.or (firstMade calls) := by
  induction calls generalizing s with
  | nil => exact (Option.or_none).symm
  | cons c calls ih =>
    have first : firstMade (c :: calls) = c.own.toOption.or (firstMade calls) := by
      unfold firstMade
      rw [List.findSome?_cons]
      cases c.own.toOption <;> rfl
    rw [List.foldl_cons, ih, client_call, first, Option.or_assoc]

/-- After some calls a process shares what the first of them that makes a client has made. -/
theorem client_after (calls : List Call) : (after calls).client = firstMade calls := by
  unfold after
  rw [client_foldl]
  exact Option.none_or

theorem after_eq (calls : List Call) : after calls = ⟨firstMade calls⟩ := by
  rw [← client_after]

/-- A call is answered with the client that is shared. -/
theorem answer_of_some (made : firstMade before = some client) (c : Call) :
    answer before c = .ok client := by
  unfold answer
  rw [call_of_some ((client_after before).trans made)]

/-- Without one it is answered with what it makes by itself. -/
theorem answer_of_none (unmade : firstMade before = none) (c : Call) :
    answer before c = c.own := by
  unfold answer
  rw [call_of_none ((client_after before).trans unmade)]

theorem toOption_eq_none_iff {made : Except Unusable Client} :
    made.toOption = none ↔ ∃ reason, made = .error reason := by
  cases made with
  | error reason => exact iff_of_true rfl ⟨reason, rfl⟩
  | ok client => exact iff_of_false nofun nofun

theorem firstMade_eq_none_iff :
    firstMade calls = none ↔ ∀ c ∈ calls, ∃ reason, c.own = .error reason := by
  unfold firstMade
  simp only [List.findSome?_eq_none_iff, toOption_eq_none_iff]

theorem firstMade_append (before calls : List Call) :
    firstMade (before ++ calls) = (firstMade before).or (firstMade calls) :=
  List.findSome?_append

/-- A call that is answered with a client leaves it as what is first made. -/
theorem firstMade_of_answer (answered : answer before c = .ok client) (more : List Call) :
    firstMade (before ++ c :: more) = some client := by
  rw [firstMade_append]
  cases made : firstMade before with
  | some other =>
    rw [answer_of_some made] at answered
    rw [Option.some_or, Except.ok.inj answered]
  | none =>
    rw [answer_of_none made] at answered
    rw [Option.none_or]
    unfold firstMade
    rw [List.findSome?_cons, answered]
    rfl

/-- The shared client is set once, by the first call that does not fail. -/
structure SetOnce : Prop where
  /-- A call that fails does so for its own settings, and so did all calls before it. Nothing is set
  by it, and the next call can still set the client. -/
  failing : ∀ before c reason, answer before c = .error reason →
    (∃ settings, c = .init settings ∧ Client.ofSettings settings = .error reason) ∧
      (∀ b ∈ before, ∃ reason, b.own = .error reason) ∧
      (after (before ++ [c])).client = none ∧ ∀ d, answer (before ++ [c]) d = d.own
  /-- As long as all calls have failed, a call that makes a client by itself is answered with it and
  sets it. -/
  first : ∀ before c client, (∀ b ∈ before, ∃ reason, b.own = .error reason) →
    c.own = .ok client → answer before c = .ok client ∧ after (before ++ [c]) = ⟨some client⟩
  /-- Once a call has been answered with a client, every call is, whatever its settings are, and
  nothing else is ever shared. -/
  settled : ∀ before c client, answer before c = .ok client → ∀ more d,
    answer (before ++ c :: more) d = .ok client ∧ after (before ++ c :: more) = ⟨some client⟩
  /-- All calls of a sequence that are answered with a client are answered with the one that the
  first call to make one by itself has made. -/
  same : ∀ (calls : List Call) (i : Nat) (c : Call) (client : Client), calls[i]? = some c →
    answer (calls.take i) c = .ok client → firstMade calls = some client

/-- **The shared client is set once.** -/
theorem set_once : SetOnce where
  failing before c reason failed := by
    cases made : firstMade before with
    | some client =>
      rw [answer_of_some made] at failed
      cases failed
    | none =>
      rw [answer_of_none made] at failed
      have all : ∀ b ∈ before ++ [c], ∃ reason, b.own = .error reason := by
        intro b mem
        rcases List.mem_append.1 mem with mem | mem
        · exact firstMade_eq_none_iff.1 made b mem
        · exact ⟨reason, by rw [List.mem_singleton.1 mem, failed]⟩
      have unmade : firstMade (before ++ [c]) = none := firstMade_eq_none_iff.2 all
      refine ⟨?_, firstMade_eq_none_iff.1 made, (client_after _).trans unmade,
        answer_of_none unmade⟩
      cases c with
      | init settings => exact ⟨settings, rfl, failed⟩
      | get => cases failed
  first before c client failed made := by
    have answered : answer before c = .ok client := by
      rw [answer_of_none (firstMade_eq_none_iff.2 failed), made]
    exact ⟨answered, by rw [after_eq, firstMade_of_answer answered []]⟩
  settled before c client answered more d := by
    have made := firstMade_of_answer answered more
    exact ⟨answer_of_some made d, by rw [after_eq, made]⟩
  same calls i c client here answered := by
    obtain ⟨within, rfl⟩ := List.getElem?_eq_some_iff.1 here
    have made := firstMade_of_answer answered (calls.drop (i + 1))
    rwa [← List.drop_eq_getElem_cons within, List.take_append_drop] at made

end SharedClient

end Vigil

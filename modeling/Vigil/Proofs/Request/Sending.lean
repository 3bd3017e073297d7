import Vigil.Http.Exchange

/-!
# Sending without a limit and with one

`Client.Delivers` says what comes of a message if nobody minds how long it takes, and when that is.
If the server is silent, nothing ever does. With a deadline it is the same if it comes in time
(`Delivers.pursue`), and otherwise the time allowed goes by (`pursue_of_late`), unless a redirect
leads away from HTTP before (`Strays`).
-/

set_option autoImplicit false

namespace Vigil

/-- What a message with this method gets by a reply, and after what time; nothing if there is no
reply. -/
def Reply.outcome? (method : Method) : Reply → Option (Except Failure Answer × Nat)
  | .unreachable delay words | .lost delay words => some (.error (.transport words), delay)
  | .silence => none
  | .answer delay a => some (.ok (a.forMethod method), delay)

namespace Client

variable {server : Server} {d : Deadline} {left : Option Nat} {m : Message} {j : Journal}
  {now ends delay : Nat} {arrived : List Message} {r : Except Failure Answer}

/-- What comes of sending a message at the moment `now`, and when, if there is no limit. `left` more
redirects are followed; if it is absent, an answer is the last one in any case. -/
inductive Delivers (server : Server) :
    Option Nat → Message → Nat → List Message → Except Failure Answer → Nat → Prop where
  | failure {left : Option Nat} {m : Message} {now : Nat} {arrived : List Message} {delay : Nat}
      {f : Failure}
      (reply : (server now arrived m).outcome? m.method = some (.error f, delay)) :
      Delivers server left m now arrived (.error f) (now + delay)
  | answer {left : Option Nat} {m : Message} {now : Nat} {arrived : List Message} {delay : Nat}
      {a : Answer} (reply : (server now arrived m).outcome? m.method = some (.ok a, delay))
      (last : left = none ∨ a.redirect? = none ∨ a.target? m.url = none) :
      Delivers server left m now arrived (.ok a) (now + delay)
  | redirect {left : Nat} {m : Message} {now : Nat} {arrived : List Message} {delay : Nat}
      {a : Answer} {kind : Answer.Redirect} {next : Url} {r : Except Failure Answer} {ends : Nat}
      (reply : (server now arrived m).outcome? m.method = some (.ok a, delay))
      (redirects : a.redirect? = some kind) (target : a.target? m.url = some next)
      (http : next.isHttp = true)
      (later : Delivers server (some left) (m.redirected kind next) (now + delay) (arrived ++ [m])
        r ends) :
      Delivers server (some (left + 1)) m now arrived r ends
  | tooMany {m : Message} {now : Nat} {arrived : List Message} {delay : Nat} {a : Answer}
      {kind : Answer.Redirect} {next : Url}
      (reply : (server now arrived m).outcome? m.method = some (.ok a, delay))
      (redirects : a.redirect? = some kind) (target : a.target? m.url = some next) :
      Delivers server (some 0) m now arrived (.error (.transport "too many redirects"))
        (now + delay)

/-- A redirect that would be followed leads away from HTTP, at `latest` at the latest. -/
inductive Strays (server : Server) (latest : Nat) :
    Option Nat → Message → Nat → List Message → Prop where
  | here {left : Nat} {m : Message} {now : Nat} {arrived : List Message} {delay : Nat}
      {a : Answer} {kind : Answer.Redirect} {next : Url}
      (reply : (server now arrived m).outcome? m.method = some (.ok a, delay))
      (redirects : a.redirect? = some kind) (target : a.target? m.url = some next)
      (other : next.isHttp = false) (inTime : now + delay ≤ latest) :
      Strays server latest (some (left + 1)) m now arrived
  | later {left : Nat} {m : Message} {now : Nat} {arrived : List Message} {delay : Nat}
      {a : Answer} {kind : Answer.Redirect} {next : Url}
      (reply : (server now arrived m).outcome? m.method = some (.ok a, delay))
      (redirects : a.redirect? = some kind) (target : a.target? m.url = some next)
      (http : next.isHttp = true)
      (later : Strays server latest (some left) (m.redirected kind next) (now + delay)
        (arrived ++ [m])) : Strays server latest (some (left + 1)) m now arrived

theorem Delivers.le (delivers : Delivers server left m now arrived r ends) : now ≤ ends := by
  induction delivers with
  | failure | answer | tooMany => exact Nat.le_add_right _ _
  | redirect _ _ _ _ _ ih => exact Nat.le_trans (Nat.le_add_right _ _) ih

theorem Strays.le {latest : Nat} (strays : Strays server latest left m now arrived) :
    now ≤ latest := by
  induction strays with
  | here _ _ _ _ inTime => exact Nat.le_trans (Nat.le_add_right _ _) inTime
  | later _ _ _ _ _ ih => exact Nat.le_trans (Nat.le_add_right _ _) ih

/-- What fails without a limit fails on the wire. -/
theorem Delivers.transport {f : Failure}
    (delivers : Delivers server left m now arrived (.error f) ends) :
    ∃ words, f = .transport words := by
  generalize failed : (Except.error f : Except Failure Answer) = r at delivers
  induction delivers with
  | @failure _ m now arrived _ _ reply =>
    cases failed
    unfold Reply.outcome? at reply
    split at reply
    all_goals cases reply
    all_goals exact ⟨_, rfl⟩
  | answer => cases failed
  | redirect _ _ _ _ _ ih => exact ih failed
  | tooMany =>
    cases failed
    exact ⟨_, rfl⟩

/-! ## One exchange -/

theorem exchange_of_le
    (reply : (server j.now j.arrived m).outcome? m.method = some (r, delay))
    (le : j.now + delay ≤ d.moment) :
    (j.exchange server d m).1 = r ∧ (j.exchange server d m).2.now = j.now + delay ∧
      (∀ a, r = .ok a → (j.exchange server d m).2.arrived = j.arrived ++ [m]) := by
  unfold Journal.exchange
  cases said : server j.now j.arrived m with
  | silence =>
    rw [said] at reply
    cases reply
  | unreachable delay' words | lost delay' words | answer delay' a =>
    rw [said] at reply
    cases reply
    simp only [Journal.within]
    rw [if_pos (by exact le)]
    refine ⟨rfl, rfl, fun a ok => ?_⟩
    cases ok
    try rfl

theorem exchange_of_late (late : ∀ r delay,
    (server j.now j.arrived m).outcome? m.method = some (r, delay) → d.moment < j.now + delay) :
    (j.exchange server d m).1 = .error (.timeout d.allowed) := by
  unfold Journal.exchange
  cases said : server j.now j.arrived m with
  | silence => rfl
  | unreachable delay words | lost delay words | answer delay a =>
    rw [said] at late
    have past := late _ _ rfl
    simp only [Journal.within]
    rw [if_neg (by exact Nat.not_le.2 past)]

/-- A message that is answered has arrived. -/
theorem arrived_of_exchange {a : Answer} (answered : (j.exchange server d m).1 = .ok a) :
    (j.exchange server d m).2.arrived = j.arrived ++ [m] := by
  unfold Journal.exchange Journal.within at answered ⊢
  cases reply : server j.now j.arrived m with
  | unreachable delay words | lost delay words =>
    rw [reply] at answered
    simp only at answered
    split at answered <;> cases answered
  | silence =>
    rw [reply] at answered
    cases answered
  | answer delay a' =>
    simp only
    split <;> rfl

/-! ## With a deadline -/

/-- Sends a message; `left` more redirects are followed, or none at all. -/
def pursue (server : Server) (d : Deadline) (left : Option Nat) (m : Message) (j : Journal) :
    Except Failure Answer × Journal :=
  match left with
  | none => j.exchange server d m
  | some left => follow server d left m j

/-- How many redirects are followed before one is refused, if any are. -/
def redirectsLeft (c : Client) : Option Nat := c.redirectLimit.map (· - 1)

theorem send_eq (c : Client) (server : Server) (d : Deadline) (m : Message) (j : Journal) :
    c.send server d m j =
      match refusal? m.url with
      | some cause => (.error (.configuration cause), j)
      | none => pursue server d c.redirectsLeft (c.dress m) j := by
  unfold send redirectsLeft
  cases refusal? m.url with
  | some cause => rfl
  | none => cases c.redirectLimit <;> rfl

theorem pursue_of_error {f : Failure} (failed : (j.exchange server d m).1 = .error f) :
    pursue server d left m j = j.exchange server d m := by
  cases left with
  | none => rfl
  | some left =>
    unfold pursue
    simp only
    unfold follow
    generalize j.exchange server d m = got at failed
    obtain ⟨result, after⟩ := got
    cases failed
    rfl

theorem pursue_last {a : Answer} (got : (j.exchange server d m).1 = .ok a)
    (last : left = none ∨ a.redirect? = none ∨ a.target? m.url = none) :
    pursue server d left m j = j.exchange server d m := by
  cases left with
  | none => rfl
  | some left =>
    unfold pursue
    simp only
    unfold follow
    generalize j.exchange server d m = answered at got
    obtain ⟨result, after⟩ := answered
    cases got
    rcases last with none | none | none
    · cases none
    · simp only [none]
    · simp only [none]
      cases a.redirect? <;> rfl

section Redirect

variable {a : Answer} {kind : Answer.Redirect} {next : Url} {more : Nat}

theorem pursue_tooMany (got : (j.exchange server d m).1 = .ok a)
    (redirects : a.redirect? = some kind) (target : a.target? m.url = some next) :
    pursue server d (some 0) m j =
      (.error (.transport "too many redirects"), (j.exchange server d m).2) := by
  unfold pursue
  simp only
  unfold follow
  generalize j.exchange server d m = answered at got
  obtain ⟨result, after⟩ := answered
  cases got
  simp only [redirects, target]

theorem pursue_on (got : (j.exchange server d m).1 = .ok a)
    (redirects : a.redirect? = some kind) (target : a.target? m.url = some next) :
    pursue server d (some (more + 1)) m j =
      if next.isHttp then
        pursue server d (some more) (m.redirected kind next) (j.exchange server d m).2
      else (.error (.configuration (.schemeNotAllowed next.text)), (j.exchange server d m).2) := by
  unfold pursue
  simp only
  rw [follow]
  generalize j.exchange server d m = answered at got
  obtain ⟨result, after⟩ := answered
  cases got
  simp only [redirects, target]

end Redirect

/-- What comes of a message in time is what comes of it without a limit. -/
theorem Delivers.pursue (delivers : Delivers server left m now arrived r ends)
    (le : ends ≤ d.moment) (j : Journal) (at_now : j.now = now) (so_far : j.arrived = arrived) :
    (pursue server d left m j).1 = r ∧ (pursue server d left m j).2.now = ends := by
  induction delivers generalizing j with
  | failure reply =>
    subst at_now so_far
    obtain ⟨result, after, -⟩ := exchange_of_le reply le
    rw [pursue_of_error result]
    exact ⟨result, after⟩
  | answer reply last =>
    subst at_now so_far
    obtain ⟨result, after, -⟩ := exchange_of_le reply le
    rw [pursue_last result last]
    exact ⟨result, after⟩
  | redirect reply redirects target http later ih =>
    subst at_now so_far
    obtain ⟨result, after, more⟩ := exchange_of_le reply (Nat.le_trans later.le le)
    rw [pursue_on result redirects target, if_pos http]
    exact ih le _ after (more _ rfl)
  | tooMany reply redirects target =>
    subst at_now so_far
    obtain ⟨result, after, -⟩ := exchange_of_le reply le
    rw [pursue_tooMany result redirects target]
    exact ⟨rfl, after⟩

theorem Strays.pursue (strays : Strays server d.moment left m now arrived) (j : Journal)
    (at_now : j.now = now) (so_far : j.arrived = arrived) :
    ∃ cause, (pursue server d left m j).1 = .error (.configuration cause) := by
  induction strays generalizing j with
  | here reply redirects target other inTime =>
    subst at_now so_far
    obtain ⟨result, -, -⟩ := exchange_of_le reply inTime
    rw [pursue_on result redirects target, if_neg (by rw [other]; exact Bool.false_ne_true)]
    exact ⟨_, rfl⟩
  | later reply redirects target http later ih =>
    subst at_now so_far
    obtain ⟨result, after, more⟩ := exchange_of_le reply later.le
    rw [pursue_on result redirects target, if_pos http]
    exact ih _ after (more _ rfl)

/-- A reply in time that nothing comes of in time is a redirect to be followed. -/
theorem exists_redirect_of_late
    (reply : (server j.now j.arrived m).outcome? m.method = some (r, delay))
    (inTime : j.now + delay ≤ d.moment)
    (late : ∀ r ends, Delivers server left m j.now j.arrived r ends → d.moment < ends)
    (stays : ¬ Strays server d.moment left m j.now j.arrived) :
    ∃ a kind next more, r = .ok a ∧ a.redirect? = some kind ∧ a.target? m.url = some next ∧
      next.isHttp = true ∧ left = some (more + 1) := by
  cases r with
  | error f => exact absurd inTime (Nat.not_le.2 (late _ _ (.failure reply)))
  | ok a =>
    have goes_on : ¬ (left = none ∨ a.redirect? = none ∨ a.target? m.url = none) :=
      fun last => absurd inTime (Nat.not_le.2 (late _ _ (.answer reply last)))
    simp only [not_or, Option.ne_none_iff_exists'] at goes_on
    obtain ⟨⟨count, rfl⟩, ⟨kind, redirects⟩, ⟨next, target⟩⟩ := goes_on
    cases count with
    | zero => exact absurd inTime (Nat.not_le.2 (late _ _ (.tooMany reply redirects target)))
    | succ more =>
      cases http : next.isHttp with
      | true => exact ⟨a, kind, next, more, rfl, redirects, target, http, rfl⟩
      | false => exact absurd (.here reply redirects target http inTime) stays

/-- **The deadline.** If nothing comes of a message in time, the time allowed goes by. -/
theorem pursue_of_late (left : Option Nat) (m : Message) (j : Journal)
    (late : ∀ r ends, Delivers server left m j.now j.arrived r ends → d.moment < ends)
    (stays : ¬ Strays server d.moment left m j.now j.arrived) :
    (pursue server d left m j).1 = .error (.timeout d.allowed) := by
  by_cases replied : ∃ r delay,
      (server j.now j.arrived m).outcome? m.method = some (r, delay) ∧ j.now + delay ≤ d.moment
  · obtain ⟨r, delay, reply, inTime⟩ := replied
    obtain ⟨a, kind, next, more, rfl, redirects, target, http, size⟩ :=
      exists_redirect_of_late reply inTime late stays
    obtain ⟨result, after, arrived⟩ := exchange_of_le reply inTime
    rw [size] at late stays
    rw [size, pursue_on result redirects target, if_pos http]
    apply pursue_of_late (some more)
    · intro r ends delivers
      rw [after, arrived a rfl] at delivers
      exact late r ends (.redirect reply redirects target http delivers)
    · intro strays
      rw [after, arrived a rfl] at strays
      exact stays (.later reply redirects target http strays)
  · have timeout : (j.exchange server d m).1 = .error (.timeout d.allowed) := by
      apply exchange_of_late
      intro r delay reply
      apply Nat.lt_of_not_le
      intro le
      exact replied ⟨r, delay, reply, le⟩
    rw [pursue_of_error timeout, timeout]
termination_by left.elim 0 (· + 1)
decreasing_by
  rw [size]
  exact Nat.lt_succ_self _

end Client

end Vigil

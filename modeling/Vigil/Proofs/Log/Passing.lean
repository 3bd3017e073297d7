import Vigil.Chain.Tick

/-!
# What a journal goes through

Whatever is done with a journal, time only goes on, messages and entries are only added, and what
is added was reported in the meantime. `Journal.Leads` says so of a journal and what has become of
it, first for each thing that can happen (`report`, `within`, `exchange`), and from there for
sending a message, for carrying out a request, for a chain, and for a whole run of a monitor
(`Monitor.tick_leads`).
-/

set_option autoImplicit false

namespace Vigil

/-- A journal becomes another one as time goes by. -/
structure Journal.Leads (j j' : Journal) : Prop where
  le : j.now ≤ j'.now
  arrived : j.arrived <+: j'.arrived
  /-- The entries that are added are of moments in between. -/
  reported : ∃ more, j'.entries = j.entries ++ more ∧
    ∀ e ∈ more, j.now ≤ e.moment ∧ e.moment ≤ j'.now

namespace Journal

variable {j j' j'' : Journal}

theorem Leads.refl (j : Journal) : j.Leads j where
  le := Nat.le_refl _
  arrived := List.prefix_rfl
  reported := ⟨[], by simp, by simp⟩

theorem Leads.trans (first : j.Leads j') (second : j'.Leads j'') : j.Leads j'' where
  le := Nat.le_trans first.le second.le
  arrived := first.arrived.trans second.arrived
  reported := by
    obtain ⟨early, eq, of_early⟩ := first.reported
    obtain ⟨late, eq', of_late⟩ := second.reported
    have le := first.le
    have le' := second.le
    refine ⟨early ++ late, by rw [eq', eq, List.append_assoc], fun e mem => ?_⟩
    rcases List.mem_append.1 mem with mem | mem
    · have := of_early e mem
      omega
    · have := of_late e mem
      omega

theorem leads_report (j : Journal) (e : Event) : j.Leads (j.report e) where
  le := Nat.le_refl _
  arrived := List.prefix_rfl
  reported := ⟨[⟨j.now, e⟩], rfl, by simp [report]⟩

/-- Only time goes by. -/
theorem leads_of_le {moment : Nat} (le : j.now ≤ moment) : j.Leads { j with now := moment } where
  le := le
  arrived := List.prefix_rfl
  reported := ⟨[], by simp, by simp⟩

theorem leads_wait (j : Journal) (span : Nat) : j.Leads (j.wait span) :=
  leads_of_le (Nat.le_add_right _ _)

theorem leads_waitUntil (j : Journal) (moment : Nat) : j.Leads (j.waitUntil moment) :=
  leads_of_le (Nat.le_max_left _ _)

theorem leads_deliver (j : Journal) (m : Message) : j.Leads (j.deliver m) where
  le := Nat.le_refl _
  arrived := List.prefix_append _ _
  reported := ⟨[], by simp [deliver], by simp⟩

theorem leads_within {α : Type} (j : Journal) (d : Deadline) (span : Nat)
    (result : Except Failure α) : j.Leads (j.within d span result).2 := by
  unfold within
  split
  · exact leads_wait j span
  · exact leads_waitUntil j d.moment

theorem leads_exchange (j : Journal) (server : Server) (d : Deadline) (m : Message) :
    j.Leads (j.exchange server d m).2 := by
  unfold exchange
  cases server j.now j.arrived m with
  | unreachable delay words => exact leads_within j d delay _
  | lost delay words => exact (leads_deliver j m).trans (leads_within _ d delay _)
  | silence => exact leads_waitUntil j d.moment
  | answer delay a => exact (leads_deliver j m).trans (leads_within _ d delay _)

end Journal

open Journal

theorem Client.follow_leads (server : Server) (d : Deadline) (left : Nat) (m : Message)
    (j : Journal) : j.Leads (follow server d left m j).2 := by
  induction left generalizing m j with
  | zero =>
    rw [follow]
    have sent := leads_exchange j server d m
    generalize j.exchange server d m = got at sent ⊢
    obtain ⟨result, after⟩ := got
    cases result with
    | error f => exact sent
    | ok a =>
      simp only
      split <;> exact sent
  | succ left ih =>
    rw [follow]
    have sent := leads_exchange j server d m
    generalize j.exchange server d m = got at sent ⊢
    obtain ⟨result, after⟩ := got
    cases result with
    | error f => exact sent
    | ok a =>
      simp only
      split
      · split
        · exact sent.trans (ih _ _)
        · exact sent
      · exact sent

theorem Client.send_leads (c : Client) (server : Server) (d : Deadline) (m : Message)
    (j : Journal) : j.Leads (c.send server d m j).2 := by
  unfold send
  split
  · exact .refl j
  · split
    · exact leads_exchange j server d _
    · exact follow_leads server d _ _ j

namespace RequestSpec

theorem receive_leads (s : RequestSpec) (d : Deadline) (a : Answer) (j : Journal) :
    j.Leads (s.receive d a j).2 := by
  unfold receive
  split
  · exact leads_within j d _ _
  · exact .refl j

theorem respond_leads (s : RequestSpec) (client : Client) (server : Server) (allowed : Duration)
    (m : Message) (j : Journal) : j.Leads (s.respond client server allowed m j).2 := by
  unfold respond
  have sent := client.send_leads server (.starting j.now allowed) m j
  simp only
  generalize client.send server (.starting j.now allowed) m j = got at sent ⊢
  obtain ⟨result, after⟩ := got
  cases result with
  | error f => exact sent
  | ok a => exact sent.trans (s.receive_leads _ a after)

theorem execute_leads (s : RequestSpec) (client : Client) (server : Server) (store : Store)
    (j : Journal) : j.Leads (s.execute client server store j).2 := by
  unfold execute
  cases s.prepare client store with
  | error cause => exact .refl j
  | ok prepared =>
    obtain ⟨allowed, m⟩ := prepared
    simp only
    have sending := leads_report j (.sending s.name s.method.name m.url.text allowed)
    generalize j.report (.sending s.name s.method.name m.url.text allowed) = j' at sending ⊢
    have got := sending.trans (s.respond_leads client server allowed m j')
    generalize s.respond client server allowed m j' = response at got ⊢
    obtain ⟨result, after⟩ := response
    cases result with
    | error f => exact got
    | ok r => exact got.trans (leads_report after _)

end RequestSpec

namespace ChainKind

theorem steps_leads (kind : ChainKind) (client : Client) (server : Server)
    (specs : List RequestSpec) (o : Outcome) (j : Journal) :
    j.Leads (kind.steps client server specs o j).2 := by
  induction specs generalizing o j with
  | nil => exact .refl j
  | cons s rest ih =>
    rw [steps]
    have done := (leads_report j (.executing kind s.name)).trans
      (s.execute_leads client server o.store _)
    generalize s.execute client server o.store (j.report (.executing kind s.name)) = step at done ⊢
    obtain ⟨result, after⟩ := step
    cases result with
    | ok vs => exact (done.trans (leads_report after _)).trans (ih _ _)
    | error f =>
      simp only
      split
      · exact done.trans (leads_report after _)
      · exact (done.trans (leads_report after _)).trans (ih _ _)

theorem run_leads (kind : ChainKind) (client : Client) (server : Server)
    (specs : List RequestSpec) (store : Store) (j : Journal) :
    j.Leads (kind.run client server specs store j).2 := by
  unfold run
  have steps := kind.steps_leads client server specs { store } j
  simp only
  split
  · exact steps.trans (leads_report _ _)
  · exact steps

end ChainKind

/-- A run of a monitor only adds to the journal. -/
theorem Monitor.tick_leads (m : Monitor) (client : Client) (server : Server) (b : Builtins)
    (j : Journal) : j.Leads (m.tick client server b j).2 := by
  unfold tick
  exact ((ChainKind.monitoring.run_leads client server _ _ j).trans
    (ChainKind.cleanup.run_leads client server _ _ _)).trans (leads_report _ _)

end Vigil

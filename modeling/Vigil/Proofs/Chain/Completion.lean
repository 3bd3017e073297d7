import Vigil.Proofs.Chain.Recount
import Vigil.Proofs.Log.Passing
import Vigil.Schedule.Worker

/-!
# A run from its beginning to its end

A run of a monitor that has begun is over when its requests, up to the first that fails, and after
them all its cleanup requests have been carried out (`Monitor.RunsThrough`). What it reports, what
it logs and how long it takes is all read off these.
-/

set_option autoImplicit false

namespace Vigil.Monitor

/-- `t` is a run of a monitor from the moment `start` on, and it goes to its end. -/
structure RunsThrough (m : Monitor) (client : Client) (server : Server) (b : Builtins)
    (start : Nat) (t : Tick) : Prop where
  /-- It reports what running the monitor once reports. -/
  report : t.report = (m.tick client server b { now := start }).1
  entries : t.entries = (m.tick client server b { now := start }).2.entries
  /-- It ends when running the monitor once ends. -/
  ends : start + t.span = (m.tick client server b { now := start }).2.now
  /-- It is made of the attempts at its requests, up to the first that fails, and after them of
  those at all its cleanup requests. -/
  made : m.MadeOf client server b { now := start } t.report
    (m.tick client server b { now := start }).2
  /-- Its report counts all of them, -/
  executed : t.report.monitoring.executed =
      (m.requestAttempts client server b { now := start }).length ∧
    t.report.cleanup.executed = m.cleanup.length
  /-- and has the variables that they leave. -/
  stores : t.report.monitoring.store = (Store.seed b m.provided).extend
      ((m.requestAttempts client server b { now := start }).flatMap Attempt.yield) ∧
    t.report.cleanup.store = t.report.monitoring.store.extend
      ((m.cleanupAttempts client server b { now := start }).flatMap Attempt.yield)
  /-- The cleanup begins when the last attempt at its requests is done, -/
  cleanup_begins : (m.cleanupStart client server b { now := start }).now =
    (Journal.afterAttempts .monitoring { now := start }
      (m.requestAttempts client server b { now := start })).now
  /-- and when the last cleanup request is done, the run is over. -/
  cleanup_ends : start + t.span =
    ((m.cleanupStart client server b { now := start }).afterAttempts .cleanup
      (m.cleanupAttempts client server b { now := start })).now
  cleanup_within : start ≤ (m.cleanupStart client server b { now := start }).now ∧
    (m.cleanupStart client server b { now := start }).now ≤ start + t.span
  /-- All that is reported is of moments in between. -/
  within : ∀ e ∈ t.entries, start ≤ e.moment ∧ e.moment ≤ start + t.span

theorem leads_cleanupStart (m : Monitor) (client : Client) (server : Server) (b : Builtins)
    (j : Journal) : j.Leads (m.cleanupStart client server b j) :=
  ChainKind.monitoring.run_leads client server _ _ j

theorem cleanupStart_leads (m : Monitor) (client : Client) (server : Server) (b : Builtins)
    (j : Journal) : (m.cleanupStart client server b j).Leads (m.tick client server b j).2 :=
  (ChainKind.cleanup.run_leads client server _ _ _).trans (Journal.leads_report _ _)

/-- **Every run goes to its end.** -/
theorem tickAt_runsThrough (client : Client) (server : Server) (builtins : Nat → Builtins)
    (m : Monitor) (start : Nat) :
    m.RunsThrough client server (builtins start) start
      (m.tickAt client server builtins start) := by
  have whole := m.tick_leads client server (builtins start) { now := start }
  have made := m.tick_madeOf client server (builtins start) { now := start }
  have ends : start + (m.tickAt client server builtins start).span =
      (m.tick client server (builtins start) { now := start }).2.now :=
    Nat.add_sub_of_le whole.le
  constructor
  case report => rfl
  case entries => rfl
  case ends => exact ends
  case made => exact made
  case executed => exact ⟨made.requests.executed, made.cleanup_all.2.1⟩
  case stores => exact ⟨store_monitoring, store_cleanup⟩
  case cleanup_begins => exact made.requests.now
  case cleanup_ends => exact ends.trans made.now
  case cleanup_within =>
    have before := m.leads_cleanupStart client server (builtins start) { now := start }
    have after := m.cleanupStart_leads client server (builtins start) { now := start }
    rw [ends]
    exact ⟨before.le, after.le⟩
  case within =>
    obtain ⟨more, eq, between⟩ := whole.reported
    intro e mem
    rw [ends]
    apply between e
    rw [List.nil_append] at eq
    rw [← eq]
    exact mem

end Vigil.Monitor

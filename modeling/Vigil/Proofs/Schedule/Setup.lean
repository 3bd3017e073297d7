import Vigil.Proofs.Sequence
import Vigil.Schedule.Roster

/-!
# Setting up a station

A station can be set up for some monitors exactly when none of their periods is zero
(`Station.exists_ofMonitors_iff`). Then it has a watch for each of them, in their order, and nobody
works there (`Station.ofMonitors_eq`).
-/

set_option autoImplicit false

namespace Vigil

namespace Watch

variable {m : Monitor} {w : Watch}

theorem ofMonitor_eq_ok_iff : ofMonitor m = .ok w ↔ ∃ pos, w = ⟨m, pos, none⟩ := by
  unfold ofMonitor
  split
  · next pos =>
    constructor
    · intro eq
      exact ⟨pos, (Except.ok.inj eq).symm⟩
    · rintro ⟨_, rfl⟩
      rfl
  · next none => exact iff_of_false nofun fun ⟨pos, _⟩ => none pos

theorem worker_ofMonitor (ok : ofMonitor m = .ok w) : w.worker = none := by
  obtain ⟨_, rfl⟩ := ofMonitor_eq_ok_iff.1 ok
  rfl

theorem monitor_ofMonitor (ok : ofMonitor m = .ok w) : w.monitor = m := by
  obtain ⟨_, rfl⟩ := ofMonitor_eq_ok_iff.1 ok
  rfl

end Watch

namespace Station

variable {ms : List Monitor} {ws : List Watch} {now i : Nat} {s : Station} {w : Watch}

/-- A station that has been set up has a watch for each monitor. -/
theorem ofMonitors_eq (setUp : ofMonitors now ms = .ok s) :
    ∃ ws, List.Forall₂ (fun m w => Watch.ofMonitor m = .ok w) ms ws ∧
      s = { now, watches := ws.map some } := by
  unfold ofMonitors at setUp
  cases made : ms.mapM Watch.ofMonitor with
  | error reason =>
    rw [made] at setUp
    cases setUp
  | ok ws =>
    rw [made] at setUp
    cases setUp
    exact ⟨ws, mapM_eq_ok_iff.1 made, rfl⟩

theorem exists_ofMonitors_iff :
    (∃ s, ofMonitors now ms = .ok s) ↔ ∀ m ∈ ms, 0 < m.period.nanos := by
  have each : (∃ ws, ms.mapM Watch.ofMonitor = .ok ws) ↔ ∀ m ∈ ms, 0 < m.period.nanos := by
    rw [exists_mapM_eq_ok_iff]
    refine forall₂_congr fun m _ => ?_
    simp only [Watch.ofMonitor_eq_ok_iff]
    exact ⟨fun ⟨_, pos, _⟩ => pos, fun pos => ⟨_, pos, rfl⟩⟩
  rw [← each]
  unfold ofMonitors
  cases ms.mapM Watch.ofMonitor with
  | error reason => exact iff_of_false nofun nofun
  | ok ws => exact iff_of_true ⟨_, rfl⟩ ⟨ws, rfl⟩

theorem watch?_ofMonitors
    (each : List.Forall₂ (fun m w => Watch.ofMonitor m = .ok w) ms ws)
    (here : ({ now, watches := ws.map some } : Station).watch? i = some w) :
    ws[i]? = some w ∧ ∃ m, ms[i]? = some m ∧ Watch.ofMonitor m = .ok w := by
  have at_i : ws[i]? = some w := by
    unfold watch? at here
    rw [List.getElem?_map] at here
    cases at_i : ws[i]? with
    | none =>
      rw [at_i] at here
      cases here
    | some w' =>
      rw [at_i] at here
      exact here
  refine ⟨at_i, ?_⟩
  obtain ⟨lt, get⟩ := List.getElem?_eq_some_iff.1 at_i
  have lt' : i < ms.length := each.length_eq ▸ lt
  have made := each.get lt' lt
  rw [List.get_eq_getElem, List.get_eq_getElem, get] at made
  exact ⟨ms[i], List.getElem?_eq_getElem lt', made⟩

/-- Periods are all that a station asks for. -/
theorem exists_ofMonitors (now : Nat) (periods : ∀ m ∈ ms, 0 < m.period.nanos) :
    ∃ s, ofMonitors now ms = .ok s := exists_ofMonitors_iff.2 periods

theorem runningCount_ofMonitors (setUp : ofMonitors now ms = .ok s) : s.runningCount = 0 := by
  obtain ⟨ws, each, rfl⟩ := ofMonitors_eq setUp
  refine List.countP_eq_zero.2 fun w mem running => ?_
  obtain ⟨i, here⟩ := List.mem_iff_getElem?.1 mem
  cases w with
  | none => cases running
  | some w =>
    have watched : ({ now, watches := ws.map some } : Station).watch? i = some w := by
      unfold watch?
      rw [here]
      rfl
    obtain ⟨-, m, -, made⟩ := watch?_ofMonitors each watched
    have resting : w.isRunning = false := by
      unfold Watch.isRunning
      rw [Watch.worker_ofMonitor made]
      rfl
    exact Bool.false_ne_true (resting.symm.trans running)

/-! ## The monitors of a station -/

/-- A station has a watch for each of these monitors, in their order. -/
def Of (ms : List Monitor) (s : Station) : Prop :=
  s.watches.map (Option.map Watch.monitor) = ms.map some

theorem of_ofMonitors (setUp : ofMonitors now ms = .ok s) : s.Of ms := by
  obtain ⟨ws, each, rfl⟩ := ofMonitors_eq setUp
  unfold Of
  clear setUp
  induction each with
  | nil => rfl
  | cons first _ ih =>
    simp only [List.map_cons, Option.map_some, Watch.monitor_ofMonitor first] at ih ⊢
    rw [ih]

theorem Of.size_eq (staffed : s.Of ms) : s.size = ms.length := by
  have lengths := congrArg List.length staffed
  rwa [List.length_map, List.length_map] at lengths

theorem Of.names_eq (staffed : s.Of ms) : s.names = ms.map (·.name) := by
  have named : s.names =
      (s.watches.map (Option.map Watch.monitor)).filterMap (Option.map (·.name)) := by
    rw [List.filterMap_map]
    refine List.filterMap_congr fun w _ => ?_
    cases w <;> rfl
  rw [named, staffed, List.filterMap_map]
  show List.filterMap (some ∘ fun m : Monitor => m.name) ms = _
  rw [List.filterMap_eq_map]

end Station

end Vigil

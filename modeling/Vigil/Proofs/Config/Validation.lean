import Vigil.Config.Loading
import Vigil.Proofs.Schedule.Setup

/-!
# Checking a configuration

What a configuration has to meet is a list of demands in the order in which they are looked at
(`ServiceConfig.demands`): the default timeout; and then for each monitor its name, that no monitor
before it has the name, its period, its requests, and its cleanup requests. A check goes through
such a list up to the first demand that is not met (`Checked`). The checks of requests, of monitors
and of a whole configuration each have a lemma that says they do so, and from these
`ServiceConfig.validate_exact` is put together. A configuration that passes has no period that keeps
a station from being set up.
-/

set_option autoImplicit false

namespace Vigil

/-- Something that a configuration has to meet, and why it is unusable if it does not. -/
structure Demand where
  met : Prop
  reason : Unusable

/-- Checking demands in their order ends with this result. -/
inductive Checked : List Demand → Except Unusable Unit → Prop where
  | nil : Checked [] (.ok ())
  | met {d : Demand} {ds : List Demand} {r : Except Unusable Unit} (met : d.met)
      (rest : Checked ds r) : Checked (d :: ds) r
  | unmet {d : Demand} {ds : List Demand} (unmet : ¬ d.met) : Checked (d :: ds) (.error d.reason)

namespace Checked

variable {d : Demand} {ds es : List Demand} {r r' : Except Unusable Unit}

/-- The code of a check: a test for what must not be. -/
theorem ite {c : Prop} [Decidable c] (iff : d.met ↔ ¬ c) (rest : Checked ds r) :
    Checked (d :: ds) (if c then .error d.reason else r) := by
  split
  · next holds => exact .unmet fun met => iff.1 met holds
  · next fails => exact .met (iff.2 fails) rest

theorem append (first : Checked ds r) (second : Checked es r') :
    Checked (ds ++ es) (do r; r') := by
  induction first with
  | nil => exact second
  | met met _ ih => exact .met met ih
  | unmet unmet => exact .unmet unmet

theorem flatMap {α : Type} {f : α → List Demand} {check : α → Except Unusable Unit} (l : List α)
    (each : ∀ a ∈ l, Checked (f a) (check a)) : Checked (l.flatMap f) (l.forM check) := by
  induction l with
  | nil => exact .nil
  | cons a l ih =>
    rw [List.flatMap_cons]
    exact (each a List.mem_cons_self).append (ih fun b mem => each b (List.mem_cons_of_mem _ mem))

/-- A check succeeds exactly when all demands are met. -/
theorem ok_iff (checked : Checked ds r) : r = .ok () ↔ ∀ d ∈ ds, d.met := by
  induction checked with
  | nil => exact iff_of_true rfl nofun
  | met met _ ih => rw [ih, List.forall_mem_cons, and_iff_right met]
  | unmet unmet => exact iff_of_false nofun fun all => unmet (all _ List.mem_cons_self)

/-- Otherwise it gives the reason of the first demand that is not met. -/
theorem error_iff {e : Unusable} (checked : Checked ds r) :
    r = .error e ↔ ∃ before d after, ds = before ++ d :: after ∧ (∀ x ∈ before, x.met) ∧
      ¬ d.met ∧ d.reason = e := by
  induction checked with
  | nil =>
    refine iff_of_false nofun ?_
    rintro ⟨before, d, after, eq, -⟩
    simp at eq
  | @met d ds r met _ ih =>
    rw [ih]
    constructor
    · rintro ⟨before, x, after, rfl, all, unmet, reason⟩
      exact ⟨d :: before, x, after, rfl, List.forall_mem_cons.2 ⟨met, all⟩, unmet, reason⟩
    · rintro ⟨before, x, after, eq, all, unmet, reason⟩
      cases before with
      | nil =>
        cases eq
        exact absurd met unmet
      | cons y before =>
        cases eq
        exact ⟨before, x, after, rfl, (List.forall_mem_cons.1 all).2, unmet, reason⟩
  | @unmet d ds unmet =>
    constructor
    · intro eq
      exact ⟨[], d, ds, rfl, nofun, unmet, Except.error.inj eq⟩
    · rintro ⟨before, x, after, eq, all, -, reason⟩
      cases before with
      | nil =>
        cases eq
        rw [reason]
      | cons y before =>
        cases eq
        exact absurd (all _ List.mem_cons_self) unmet

end Checked

/-- A text that says something: not all of its characters are blank. -/
def Text.Telling (s : String) : Prop := ∃ c ∈ s.toList, Text.isBlank c = false

theorem Text.telling_iff {s : String} : Telling s ↔ ¬ allBlank s = true := by
  unfold Telling allBlank
  rw [List.all_eq_true]
  push Not
  simp only [Bool.not_eq_true]

theorem isStatusCode_iff {c : UInt16} : isStatusCode c = true ↔ 100 ≤ c.toNat ∧ c.toNat ≤ 599 := by
  unfold isStatusCode
  rw [Bool.and_eq_true, decide_eq_true_eq, decide_eq_true_eq]
  exact Iff.rfl

namespace RequestSpec

/-- What a request of the monitor called `monitor` has to meet. -/
def demands (monitor : String) (s : RequestSpec) : List Demand :=
  ⟨Text.Telling s.name, .blankRequestName monitor⟩ ::
  ⟨s.accepted.codes ≠ [], .noStatusCodes monitor s.name⟩ ::
  s.accepted.codes.map fun c =>
    ⟨100 ≤ c.toNat ∧ c.toNat ≤ 599, .invalidStatusCode monitor s.name c⟩

theorem checked_codes (monitor request : String) (codes : List UInt16) :
    Checked (codes.map fun c =>
        ⟨100 ≤ c.toNat ∧ c.toNat ≤ 599, .invalidStatusCode monitor request c⟩)
      (match codes.find? fun c => !isStatusCode c with
        | some c => .error (.invalidStatusCode monitor request c)
        | none => .ok ()) := by
  induction codes with
  | nil => exact .nil
  | cons c codes ih =>
    rw [List.map_cons, List.find?_cons]
    by_cases good : isStatusCode c = true
    · rw [good]
      exact .met (isStatusCode_iff.1 good) ih
    · rw [Bool.not_eq_true] at good
      rw [good]
      refine .unmet (d := ⟨_, .invalidStatusCode monitor request c⟩) fun met => ?_
      rw [isStatusCode_iff.2 met] at good
      cases good

theorem checked_validate (monitor : String) (s : RequestSpec) :
    Checked (s.demands monitor) (s.validate monitor) := by
  unfold validate demands
  refine .ite (d := ⟨_, .blankRequestName monitor⟩) Text.telling_iff ?_
  refine .ite (d := ⟨_, .noStatusCodes monitor s.name⟩) ?_ ?_
  · exact (not_congr List.isEmpty_iff).symm
  · exact checked_codes monitor s.name s.accepted.codes

end RequestSpec

namespace Monitor

/-- What a monitor that comes after some others has to meet. -/
def demands (earlier : List Monitor) (m : Monitor) : List Demand :=
  ⟨Text.Telling m.name, .blankMonitorName⟩ ::
  ⟨∀ e ∈ earlier, e.name ≠ m.name, .duplicateMonitorName m.name⟩ ::
  ⟨0 < m.period.nanos, .zeroPeriod m.name⟩ ::
  (m.requests ++ m.cleanup).flatMap (RequestSpec.demands m.name)

theorem checked_validate {names : List String} {earlier : List Monitor}
    (same : ∀ n, n ∈ names ↔ ∃ e ∈ earlier, e.name = n) (m : Monitor) :
    Checked (m.demands earlier) (m.validate names) := by
  unfold validate demands
  refine .ite (d := ⟨_, .blankMonitorName⟩) Text.telling_iff ?_
  refine .ite (d := ⟨_, .duplicateMonitorName m.name⟩) ?_ ?_
  · rw [List.contains_iff_mem, same]
    push Not
    exact Iff.rfl
  refine .ite (d := ⟨_, .zeroPeriod m.name⟩) ?_ ?_
  · show 0 < m.period.nanos ↔ ¬ (m.period.nanos == 0) = true
    rw [beq_iff_eq, Nat.pos_iff_ne_zero]
  · exact .flatMap _ fun s _ => s.checked_validate m.name

/-- The names of the monitors that were looked at are remembered in any order. -/
theorem checked_validateAll {names : List String} {earlier : List Monitor}
    (same : ∀ n, n ∈ names ↔ ∃ e ∈ earlier, e.name = n) (ms : List Monitor) :
    Checked
      ((ms.zipIdx earlier.length).flatMap fun p => p.1.demands ((earlier ++ ms).take p.2))
      (validateAll names ms) := by
  induction ms generalizing names earlier with
  | nil => exact .nil
  | cons m ms ih =>
    rw [List.zipIdx_cons, List.flatMap_cons, List.take_left]
    refine (m.checked_validate same).append ?_
    have next : ∀ n, n ∈ m.name :: names ↔ ∃ e ∈ earlier ++ [m], e.name = n := by
      intro n
      simp only [List.mem_cons, same, List.mem_append, List.not_mem_nil, or_false]
      constructor
      · rintro (rfl | ⟨e, mem, rfl⟩)
        · exact ⟨m, .inr rfl, rfl⟩
        · exact ⟨e, .inl mem, rfl⟩
      · rintro ⟨e, mem | rfl, rfl⟩
        · exact .inr ⟨e, mem, rfl⟩
        · exact .inl rfl
    have rest := ih next
    rw [List.length_append, List.length_singleton, List.append_assoc] at rest
    exact rest

end Monitor

namespace ServiceConfig

/-- What a configuration has to meet, in the order in which it is looked at. -/
def demands (c : ServiceConfig) : List Demand :=
  ⟨0 < c.client.defaultTimeout.nanos, .zeroDefaultTimeout⟩ ::
  c.monitors.zipIdx.flatMap fun p => p.1.demands (c.monitors.take p.2)

theorem checked_validate (c : ServiceConfig) : Checked c.demands c.validate := by
  unfold validate demands
  refine .ite (d := ⟨_, .zeroDefaultTimeout⟩) ?_ ?_
  · show 0 < c.client.defaultTimeout.nanos ↔ ¬ (c.client.defaultTimeout.nanos == 0) = true
    rw [beq_iff_eq, Nat.pos_iff_ne_zero]
  · have none : ∀ n, n ∈ ([] : List String) ↔ ∃ e ∈ ([] : List Monitor), e.name = n :=
      fun n => iff_of_false nofun nofun
    exact Monitor.checked_validateAll none c.monitors

end ServiceConfig

/-! ## What a usable configuration is -/

/-- A request that a monitor can make. -/
structure RequestSpec.Usable (s : RequestSpec) : Prop where
  name : Text.Telling s.name
  codes : s.accepted.codes ≠ []
  codes_range : ∀ c ∈ s.accepted.codes, 100 ≤ c.toNat ∧ c.toNat ≤ 599

/-- A configuration with which the service can start. -/
structure ServiceConfig.Usable (c : ServiceConfig) : Prop where
  defaultTimeout : 0 < c.client.defaultTimeout.nanos
  names : ∀ m ∈ c.monitors, Text.Telling m.name
  names_nodup : (c.monitors.map (·.name)).Nodup
  periods : ∀ m ∈ c.monitors, 0 < m.period.nanos
  requests : ∀ m ∈ c.monitors, ∀ s ∈ m.requests, s.Usable
  cleanup : ∀ m ∈ c.monitors, ∀ s ∈ m.cleanup, s.Usable

theorem RequestSpec.usable_iff {s : RequestSpec} (monitor : String) :
    s.Usable ↔ ∀ d ∈ s.demands monitor, d.met := by
  unfold demands
  simp only [List.forall_mem_cons, List.forall_mem_map]
  exact ⟨fun ⟨name, codes, range⟩ => ⟨name, codes, range⟩,
    fun ⟨name, codes, range⟩ => ⟨name, codes, range⟩⟩

namespace ServiceConfig

variable {c : ServiceConfig}

/-- Names differ if each differs from those before it. -/
theorem nodup_names_iff (ms : List Monitor) :
    (ms.map (·.name)).Nodup ↔
      ∀ m i, ms[i]? = some m → ∀ e ∈ ms.take i, e.name ≠ m.name := by
  rw [List.nodup_iff_pairwise_ne, List.pairwise_map, List.pairwise_iff_getElem]
  constructor
  · intro apart m i here e mem
    obtain ⟨j, lt, rfl⟩ := List.mem_take_iff_getElem.1 mem
    obtain ⟨within, rfl⟩ := List.getElem?_eq_some_iff.1 here
    exact apart j i (by omega) within (by omega)
  · intro apart i j _ within lt
    refine apart ms[j] j (List.getElem?_eq_getElem within) ms[i] ?_
    exact List.mem_take_iff_getElem.2 ⟨i, by omega, rfl⟩

/-- A configuration is usable exactly when it meets all demands. -/
theorem usable_iff : c.Usable ↔ ∀ d ∈ c.demands, d.met := by
  have each : (∀ d ∈ c.demands, d.met) ↔ 0 < c.client.defaultTimeout.nanos ∧
      ∀ m i, c.monitors[i]? = some m → Text.Telling m.name ∧
        (∀ e ∈ c.monitors.take i, e.name ≠ m.name) ∧ 0 < m.period.nanos ∧
        (∀ s ∈ m.requests, s.Usable) ∧ ∀ s ∈ m.cleanup, s.Usable := by
    unfold demands Monitor.demands
    simp only [List.forall_mem_cons, List.forall_mem_flatMap, List.mem_zipIdx_iff_getElem?,
      Prod.forall, List.forall_mem_append, ← RequestSpec.usable_iff]
  rw [each]
  constructor
  · intro usable
    refine ⟨usable.defaultTimeout, fun m i here => ?_⟩
    have mem := List.mem_of_getElem? here
    exact ⟨usable.names m mem, (nodup_names_iff _).1 usable.names_nodup m i here,
      usable.periods m mem, usable.requests m mem, usable.cleanup m mem⟩
  · rintro ⟨timeout, all⟩
    have of_mem : ∀ m ∈ c.monitors, ∃ i, c.monitors[i]? = some m := fun m mem =>
      List.mem_iff_getElem?.1 mem
    constructor
    case defaultTimeout => exact timeout
    case names_nodup => exact (nodup_names_iff _).2 fun m i here => (all m i here).2.1
    case names =>
      intro m mem
      obtain ⟨i, here⟩ := of_mem m mem
      exact (all m i here).1
    case periods =>
      intro m mem
      obtain ⟨i, here⟩ := of_mem m mem
      exact (all m i here).2.2.1
    case requests =>
      intro m mem
      obtain ⟨i, here⟩ := of_mem m mem
      exact (all m i here).2.2.2.1
    case cleanup =>
      intro m mem
      obtain ⟨i, here⟩ := of_mem m mem
      exact (all m i here).2.2.2.2

theorem validate_of_ofText {text : String} (read : ofText text = .ok c) : c.validate = .ok () := by
  unfold ofText at read
  split at read
  · cases read
  · split at read
    · cases read
    · next passed =>
      cases read
      exact passed

/-- The check of a configuration is exact. -/
structure Exact (c : ServiceConfig) : Prop where
  ok_iff : c.validate = .ok () ↔ c.Usable
  /-- What is wrong is told by the first demand that is not met. -/
  error_iff : ∀ e, c.validate = .error e ↔
    ∃ before d after, c.demands = before ++ d :: after ∧ (∀ x ∈ before, x.met) ∧ ¬ d.met ∧
      d.reason = e
  /-- If the configuration was read from a text, a station can be set up for its monitors, in their
  order, and none of them is running. -/
  starts : ∀ text now, ofText text = .ok c →
    ∃ s, Station.ofMonitors now c.monitors = .ok s ∧ s.names = c.monitors.map (·.name) ∧
      s.size = c.monitors.length ∧ s.runningCount = 0

/-- **The check of a configuration is exact**, and enough for the monitors to be started. -/
theorem validate_exact (c : ServiceConfig) : c.Exact where
  ok_iff := c.checked_validate.ok_iff.trans usable_iff.symm
  error_iff _ := c.checked_validate.error_iff
  starts text now read := by
    have usable : c.Usable :=
      usable_iff.2 (c.checked_validate.ok_iff.1 (validate_of_ofText read))
    obtain ⟨s, setUp⟩ := Station.exists_ofMonitors now usable.periods
    have staffed := Station.of_ofMonitors setUp
    exact ⟨s, setUp, staffed.names_eq, staffed.size_eq, Station.runningCount_ofMonitors setUp⟩

end ServiceConfig

end Vigil

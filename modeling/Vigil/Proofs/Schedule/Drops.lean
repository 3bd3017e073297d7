import Vigil.Proofs.Schedule.Anchor
import Vigil.Schedule.Station

/-!
# Stale fires

A fire that came due during a run of the monitor is dropped afterwards. If it is handled late, it is
the last of its kind, for the timer is then set past the end of the run; and if it is not, that end
is not far, and each further fire brings the timer one period closer to it. So what is left to drop
gets less with every drop, at whatever moments the fires are handled (`credit_following_lt`).

This bounds the drops between two runs, whatever happens meanwhile (`Lives.drops_add_credit_le`),
and after them a worker begins a run, waits for a slot that is not over, or leaves
(`exists_resumes`). All of it is put together in `drops_end`.
-/

set_option autoImplicit false

namespace Vigil

namespace Timer

variable {period due now e : Nat}

/-- How many moments that are a period apart lie within a span. -/
def fires (period span : Nat) : Nat := (span + period - 1) / period

/-- How many stale fires there can be in a row. -/
def allowance (period : Nat) : Nat := max 1 (fires period tolerance)

/-- How many stale fires there can still be when a timer is set to `due` and the last run was over
at `e`. -/
def credit (period due e : Nat) : Nat :=
  if due < e then max 1 (fires period (min (e - due) tolerance)) else 0

theorem fires_mono (period : Nat) {span span' : Nat} (le : span ≤ span') :
    fires period span ≤ fires period span' := by
  unfold fires
  exact Nat.div_le_div_right (by omega)

theorem fires_add_period (pos : 0 < period) {span : Nat} :
    fires period (span + period) = fires period span + 1 := by
  unfold fires
  rw [← Nat.add_div_right _ pos]
  congr 1
  omega

theorem fires_pos (pos : 0 < period) {span : Nat} (some : 0 < span) : 0 < fires period span :=
  Nat.div_pos (by omega) pos

theorem credit_le (period due e : Nat) : credit period due e ≤ allowance period := by
  have mono := fires_mono period (Nat.min_le_right (e - due) tolerance)
  unfold credit allowance
  split <;> omega

theorem credit_of_le (le : e ≤ due) : credit period due e = 0 := if_neg (Nat.not_lt.2 le)

/-- **A drop leaves less to drop**, whenever it is done after the run. -/
theorem credit_following_lt (pos : 0 < period) (stale : due < e) (past : e ≤ now) :
    credit period (following period due now) e < credit period due e := by
  have before : credit period due e = max 1 (fires period (min (e - due) tolerance)) := if_pos stale
  by_cases late : due + tolerance < now
  · have after := lt_following_of_late pos late
    rw [credit_of_le (by omega), before]
    exact Nat.lt_of_lt_of_le Nat.zero_lt_one (Nat.le_max_left _ _)
  · have next : following period due now = due + period := if_neg late
    have near : min (e - due) tolerance = e - due := Nat.min_eq_left (by omega)
    rw [next, before, near]
    rcases Nat.lt_or_ge (due + period) e with again | beyond
    · have nearer : min (e - (due + period)) tolerance = e - (due + period) :=
        Nat.min_eq_left (by omega)
      have apart : e - due = e - (due + period) + period := by omega
      have some := fires_pos pos (Nat.sub_pos_of_lt again)
      rw [credit, if_pos again, nearer, apart, fires_add_period pos]
      omega
    · rw [credit_of_le beyond]
      exact Nat.lt_of_lt_of_le Nat.zero_lt_one (Nat.le_max_left _ _)

theorem allowance_of_tolerance_le (le : tolerance ≤ period) : allowance period = 1 := by
  have pos : 0 < period := Nat.lt_of_lt_of_le (by decide) le
  have one : fires period tolerance ≤ 1 := by
    unfold fires
    exact Nat.le_of_lt_succ (Nat.div_lt_of_lt_mul (by omega))
  exact Nat.max_eq_left one

end Timer

/-- Whether a fire is dropped. -/
def Act.isDrop : Act → Bool
  | .drop => true
  | _ => false

/-- How many fires are dropped among some acts. -/
def drops (acts : List (Nat × Act)) : Nat := acts.countP fun a => a.2.isDrop

theorem drops_append (l r : List (Nat × Act)) : drops (l ++ r) = drops l + drops r :=
  List.countP_append

namespace Worker

variable {course : Course} {start now later upTo next moment e : Nat}
  {acts more : List (Nat × Act)} {w w' w₀ : Worker} {r : Worker × Act}

/-- The last run of a worker is over. -/
def IsOver (w : Worker) : Prop := ∀ e, w.lastEnd = some e → e ≤ w.since

/-- How many fires a worker may drop before it next begins a run. -/
def credit (w : Worker) : Nat :=
  match w.phase, w.lastEnd with
  | .waiting, some e => Timer.credit w.period w.due e
  | .busy _, _ => Timer.allowance w.period
  | _, _ => 0

theorem credit_le (w : Worker) : w.credit ≤ Timer.allowance w.period := by
  unfold credit
  split
  · exact Timer.credit_le _ _ _
  · exact Nat.le_refl _
  · exact Nat.zero_le _

theorem credit_of_waiting (phase : w.phase = .waiting) (lastEnd : w.lastEnd = some e) :
    w.credit = Timer.credit w.period w.due e := by
  unfold credit
  rw [phase, lastEnd]

theorem credit_of_busy {ends : Nat} (phase : w.phase = .busy ends) :
    w.credit = Timer.allowance w.period := by
  unfold credit
  rw [phase]

/-- What a worker does is done after its last run. -/
theorem Does.isOver (does : Does course w now r) (isOver : w.IsOver) (since : w.since ≤ now) :
    r.1.IsOver := by
  intro e lastEnd
  cases does with
  | enter | breakDown | drop | begin | leave => exact Nat.le_trans (isOver e lastEnd) since
  | rest => exact isOver e lastEnd
  | finish ends =>
    obtain rfl := Option.some.inj lastEnd
    exact Nat.le_refl _

/-- A worker that has just set its timer has nothing to drop. -/
theorem credit_enter (isOver : w.IsOver) (since : w.since ≤ now) :
    { w with since := now, due := now + w.period, phase := .waiting }.credit = 0 := by
  cases lastEnd : w.lastEnd with
  | none => rfl
  | some e =>
    have ended := isOver e lastEnd
    have ahead : e ≤ now + w.period := by omega
    exact Timer.credit_of_le ahead

/-- **A step pays for its drop.** Whatever a worker does but to begin a run, and however late,
leaves it less to drop by what it drops. -/
theorem Does.drops_add_credit_le (does : Does course w now r) (isOver : w.IsOver)
    (since : w.since ≤ now) (other : ∀ t, r.2 ≠ .begin t) :
    drops [(now, r.2)] + r.1.credit ≤ w.credit := by
  cases does with
  | enter =>
    rw [credit_enter isOver since]
    exact Nat.zero_le _
  | breakDown | leave => exact Nat.zero_le _
  | drop phase _ lastEnd stale =>
    have closer := Timer.credit_following_lt w.period_pos stale
      (Nat.le_trans (isOver _ lastEnd) since)
    have after : { w with since := now, due := Timer.following w.period w.due now }.credit = _ :=
      credit_of_waiting phase lastEnd
    rw [credit_of_waiting phase lastEnd, after]
    exact Nat.add_comm 1 _ ▸ closer
  | begin => exact absurd rfl (other _)
  | finish ends phase =>
    have after : { w with since := now, lastEnd := some now, phase := .waiting }.credit ≤ _ :=
      credit_le _
    rw [credit_of_busy phase]
    exact (Nat.zero_add _).symm ▸ after
  | rest => exact Nat.le_of_eq (Nat.zero_add _)

/-! ## Over a whole life -/

theorem Lives.isOver (lives : Lives course start w₀ now acts w) (isOver : w₀.IsOver) :
    w.IsOver := by
  induction lives with
  | begin => exact isOver
  | act before due ih => exact (does course _ _).isOver ih (nextMoment?_of_since rfl due)
  | wait before le idle ih =>
    unfold Worker.wait
    split
    · exact fun e lastEnd => Nat.le_trans (ih e lastEnd) (Nat.le_max_left _ _)
    · exact ih
  | signal before ih => exact ih

theorem credit_wait (w : Worker) (later : Nat) : (w.wait later).credit = w.credit := by
  unfold Worker.wait
  split <;> rfl

/-- **Drops between runs.** In whatever order things happen, a worker that begins no run drops no
more than it could when it was last looked at. -/
theorem Lives.drops_add_credit_le (lives : Lives course start w₀ now acts w) (isOver : w₀.IsOver)
    (silent : runs acts = []) : drops acts + w.credit ≤ w₀.credit := by
  induction lives with
  | begin => exact Nat.le_of_eq (Nat.zero_add _)
  | @act now acts w before due ih =>
    rw [runs_append] at silent
    obtain ⟨silent, last⟩ := List.append_eq_nil_iff.1 silent
    have other : ∀ t, (w.act course now).2 ≠ .begin t := by
      intro t begins
      rw [begins] at last
      cases last
    have earlier := ih silent
    have step := (does course w now).drops_add_credit_le (before.isOver isOver)
      (nextMoment?_of_since rfl due) other
    rw [drops_append]
    omega
  | wait before le idle ih =>
    rw [credit_wait]
    exact ih silent
  | signal before ih => exact ih silent

theorem Lives.credit_le (lives : Lives course start w₀ now acts w) :
    w.credit ≤ Timer.allowance w₀.period := by
  have most := w.credit_le
  rwa [lives.period] at most

/-! ## What comes after the drops -/

/-- A worker drops fires at these moments, one after the other, each when it is due or later. -/
inductive Drops (course : Course) : Worker → List Nat → Worker → Prop where
  | none (w : Worker) : Drops course w [] w
  | drop {w w' : Worker} {next now : Nat} {moments : List Nat} (due : w.nextMoment? = some next)
      (late : next ≤ now) (dropped : (w.act course now).2 = .drop)
      (others : Drops course (w.act course now).1 moments w') :
      Drops course w (now :: moments) w'

/-- What a worker does next whose last run was over at `e`, if it does not drop a fire. -/
inductive Resumes (course : Course) (e : Nat) (w : Worker) : Prop where
  /-- It waits for a moment that is not before `e` and begins a run. -/
  | begins (now : Nat) (ahead : e ≤ w.due) (awake : now = max w.since (wakeUp w.due))
      (next : w.nextMoment? = some now) (act : (w.act course now).2 = .begin (course now))
  /-- It was told to stop and leaves. -/
  | leaves (told : w.stopping = true) (next : w.nextMoment? = some w.since)
      (act : (w.act course w.since).2 = .leave)

theorem Drops.length_add_credit_le {moments : List Nat} (drops : Drops course w moments w')
    (isOver : w.IsOver) : moments.length + w'.credit ≤ w.credit := by
  induction drops with
  | none w => exact Nat.le_of_eq (Nat.zero_add _)
  | @drop w w' next now moments due late dropped others ih =>
    have since : w.since ≤ now := Nat.le_trans (nextMoment?_of_since rfl due) late
    have does := does course w now
    have step := does.drops_add_credit_le isOver since (by simp [dropped])
    have rest := ih (does.isOver isOver since)
    have one : Vigil.drops [(now, (w.act course now).2)] = 1 := by
      rw [dropped]
      rfl
    rw [List.length_cons]
    omega

variable (course) in
/-- A worker that waits after a run that was over at `e` does something else next, or it drops a
fire before the millisecond of `e` is over or at once. -/
theorem resumes_or_drops (phase : w.phase = .waiting) (lastEnd : w.lastEnd = some e) :
    Resumes course e w ∨ ∃ now, w.nextMoment? = some now ∧ now ≤ max w.since (wakeUp e) ∧
      w.act course now =
        ({ w with since := now, due := Timer.following w.period w.due now }, .drop) := by
  have next := nextMoment?_of_waiting phase
  generalize eq : (if w.stopping then w.since else max w.since (wakeUp w.due)) = now at next
  have does := does course w now
  cases acted : w.act course now with
  | mk w' a =>
    rw [acted] at does
    cases does with
    | drop _ untold lastEnd' stale =>
      obtain rfl := Option.some.inj (lastEnd.symm.trans lastEnd')
      have awake := wakeUp_le_wakeUp (Nat.le_of_lt stale)
      rw [untold, if_neg Bool.false_ne_true] at eq
      exact .inr ⟨now, next, by omega, acted⟩
    | begin _ untold ahead =>
      rw [untold, if_neg Bool.false_ne_true] at eq
      exact .inl (.begins now (ahead e lastEnd) eq.symm next (by rw [acted]))
    | leave _ told =>
      rw [told, if_pos rfl] at eq
      subst eq
      exact .inl (.leaves told next (by rw [acted]))
    | enter fresh => cases phase.symm.trans fresh
    | breakDown fresh => cases phase.symm.trans fresh
    | finish ends busy => cases phase.symm.trans busy
    | rest done => exact absurd done (not_rest next)

variable (course) in
/-- **Dropping ends.** A worker that waits after a run drops some fires and then does something
else. The induction is on what is left to drop. -/
theorem exists_resumes (isOver : w.IsOver) (phase : w.phase = .waiting)
    (lastEnd : w.lastEnd = some e) :
    ∃ moments w', Drops course w moments w' ∧ Resumes course e w' ∧
      (∀ moment ∈ moments, moment ≤ max w.since (wakeUp e)) ∧
      Undisturbed course w (max w.since (wakeUp e))
        (moments.map fun moment => (moment, .drop)) w' := by
  induction left : w.credit using Nat.strongRecOn generalizing w with
  | ind n ih =>
    rcases resumes_or_drops course phase lastEnd with resumes | ⟨now, next, soon, acted⟩
    · exact ⟨[], w, .none w, resumes, nofun, fun upTo _ => rfl⟩
    · have since : w.since ≤ now := nextMoment?_of_since rfl next
      have pays := (does course w now).drops_add_credit_le isOver since
      have isOver' := (does course w now).isOver isOver since
      rw [acted] at pays isOver'
      have less : 1 + _ ≤ w.credit := pays (by simp)
      obtain ⟨moments, w', drops, resumes, early, rest⟩ := ih _ (by omega) isOver' phase lastEnd rfl
      simp only at early rest
      refine ⟨now :: moments, w', ?drops, resumes, ?early, ?rest⟩
      case drops => exact .drop next (Nat.le_refl _) (by rw [acted]) (by rwa [acted])
      case early =>
        refine List.forall_mem_cons.2 ⟨soon, fun moment mem => ?_⟩
        have := early moment mem
        omega
      case rest =>
        intro upTo le
        rw [advance_of_le next (Nat.le_trans soon le), acted, rest upTo (by omega)]
        rfl

/-! ## The law -/

/-- Among the lines that a worker logs, those of dropped fires are as many as its drops, if it
begins no run. -/
theorem countP_workerLines (name : String) (silent : runs acts = []) :
    (Station.workerLines name acts).countP (fun l => l.entry.event = .fireDropped) =
      drops acts := by
  induction acts with
  | nil => rfl
  | cons a acts ih =>
    obtain ⟨moment, act⟩ := a
    cases act with
    | begin t => cases silent
    | enter | breakDown | drop | finish | leave =>
      have rest := ih silent
      unfold Station.workerLines drops at rest ⊢
      rw [List.flatMap_cons, List.countP_append, rest, List.countP_cons, Nat.add_comm]
      rfl

/-- What is dropped by a worker in whatever state its timer is. -/
structure DropLaw (course : Course) (w₀ : Worker) : Prop where
  /-- Between two runs, and after the last, it drops no more fires than are allowed for its
  period, -/
  bounded : ∀ start now acts w, Lives course start w₀ now acts w →
    ∀ before between after, acts = before ++ (between ++ after) → runs between = [] →
      drops between ≤ Timer.allowance w₀.period
  /-- so that a worker whose period is no shorter than the tolerance logs at most one. -/
  logged : Timer.tolerance ≤ w₀.period → ∀ start now acts w, Lives course start w₀ now acts w →
    ∀ before between after, acts = before ++ (between ++ after) → runs between = [] →
      ∀ name, (Station.workerLines name between).countP
        (fun l => l.entry.event = .fireDropped) ≤ 1
  /-- This is so even if each fire is handled later than it could be. -/
  late : ∀ start now acts w, Lives course start w₀ now acts w →
    ∀ moments w', Drops course w moments w' → moments.length ≤ Timer.allowance w₀.period
  /-- When a run is over, it does drop its fires, within the millisecond, and then it waits for a
  moment that is not before the end of the run and begins the next, or it leaves. -/
  ends : ∀ start now acts w, Lives course start w₀ now acts w → w.phase = .waiting →
    ∀ e, w.lastEnd = some e → ∃ moments w', moments.length ≤ Timer.allowance w₀.period ∧
      Drops course w moments w' ∧ Resumes course e w' ∧
      (∀ moment ∈ moments, moment ≤ max w.since (wakeUp e)) ∧
      Undisturbed course w (max w.since (wakeUp e)) (moments.map fun moment => (moment, .drop)) w'

/-- **Stale fires are soon dropped**, however long runs take and whatever the period is. -/
theorem drops_end (course : Course) (w₀ : Worker) (isOver : w₀.IsOver) : DropLaw course w₀ := by
  have bounded : ∀ start now acts w, Lives course start w₀ now acts w →
      ∀ before between after, acts = before ++ (between ++ after) → runs between = [] →
        drops between ≤ Timer.allowance w₀.period := by
    rintro start now _ w lives before between after rfl silent
    obtain ⟨moment, w₁, first, rest⟩ := lives.split
    obtain ⟨moment', w₂, second, -⟩ := rest.split
    have spent := second.drops_add_credit_le (first.isOver isOver) silent
    have most := first.credit_le
    omega
  have late : ∀ start now acts w, Lives course start w₀ now acts w →
      ∀ moments w', Drops course w moments w' → moments.length ≤ Timer.allowance w₀.period := by
    intro start now acts w lives moments w' drops
    have spent := drops.length_add_credit_le (lives.isOver isOver)
    have most := lives.credit_le
    omega
  refine ⟨bounded, ?logged, late, ?ends⟩
  case logged =>
    intro long start now acts w lives before between after whole silent name
    rw [countP_workerLines name silent, ← Timer.allowance_of_tolerance_le long]
    exact bounded start now acts w lives before between after whole silent
  case ends =>
    intro start now acts w lives phase e lastEnd
    obtain ⟨moments, w', drops, resumes, early, rest⟩ :=
      exists_resumes course (lives.isOver isOver) phase lastEnd
    exact ⟨moments, w', late start now acts w lives moments w' drops, drops, resumes, early, rest⟩

/-- A worker with a period of one millisecond whose timer is five milliseconds behind when its run
is over. -/
def lagging : Worker where
  period := 1000000
  period_pos := by decide
  since := 90000000
  due := 95000000
  phase := .busy 100000000

/-- It drops as many fires as are allowed. -/
theorem drops_end_lagging :
    lagging.IsOver ∧ DropLaw (.steady 1000000) lagging ∧ Timer.allowance lagging.period = 5 ∧
      drops (lagging.advance (.steady 1000000) 100000000).2 = 5 :=
  have isOver : lagging.IsOver := nofun
  ⟨isOver, drops_end (.steady 1000000) lagging isOver, by decide, by decide +kernel⟩

end Worker

end Vigil

import Vigil.Proofs.Schedule.Advance

/-!
# The life of a worker

`Worker.Lives` says what a worker has done by some moment, in whatever order things happen that
happen at one moment: it may have been told to stop before or after it does what is due then. A
worker runs its monitor if the last thing it did was to begin to (`inFlight?`), and then it is
told by its phase when that ends (`Doing`). Letting a worker work up to a moment is a piece of such
a life (`lives_advance`), and a life falls apart between any two acts (`Lives.split`).

A worker that is told to stop has one moment at which it does all that it still does: the end of
the run in progress, or else the moment at which it is told (`Lives.after`). This is what
`Worker.Stops` puts together.
-/

set_option autoImplicit false

namespace Vigil

/-- The run in progress after some acts and the moment at which it began, if there is one. -/
def inFlight? (acts : List (Nat × Act)) : Option (Nat × Tick) :=
  match acts.getLast? with
  | some (b, .begin t) => some (b, t)
  | _ => none

theorem inFlight?_begin (acts : List (Nat × Act)) (now : Nat) (t : Tick) :
    inFlight? (acts ++ [(now, .begin t)]) = some (now, t) := by
  unfold inFlight?
  rw [List.getLast?_append]
  rfl

theorem inFlight?_of_ne (acts : List (Nat × Act)) (now : Nat) {a : Act}
    (other : ∀ t, a ≠ .begin t) :
    inFlight? (acts ++ [(now, a)]) = none := by
  unfold inFlight?
  rw [List.getLast?_append]
  cases a with
  | begin t => exact absurd rfl (other t)
  | enter | breakDown | drop | finish | leave => rfl

namespace Worker

variable {course : Course} {start now later upTo next : Nat} {acts more : List (Nat × Act)}
  {w w' w₀ : Worker}

/-- Time goes by up to `later` for a worker that has something left to do. -/
def wait (w : Worker) (later : Nat) : Worker :=
  match w.nextMoment? with
  | some _ => { w with since := max w.since later }
  | none => w

/-- What a worker has done since `start`, when it was `w₀`. It does what is due; time goes by, but
not past what is due; and it may be told to stop at any time. -/
inductive Lives (course : Course) (start : Nat) (w₀ : Worker) :
    Nat → List (Nat × Act) → Worker → Prop where
  | begin : Lives course start w₀ start [] w₀
  | act {now : Nat} {acts : List (Nat × Act)} {w : Worker}
      (before : Lives course start w₀ now acts w) (due : w.nextMoment? = some now) :
      Lives course start w₀ now (acts ++ [(now, (w.act course now).2)]) (w.act course now).1
  | wait {now later : Nat} {acts : List (Nat × Act)} {w : Worker}
      (before : Lives course start w₀ now acts w) (le : now ≤ later)
      (idle : ∀ next, w.nextMoment? = some next → later ≤ next) :
      Lives course start w₀ later acts (w.wait later)
  | signal {now : Nat} {acts : List (Nat × Act)} {w : Worker}
      (before : Lives course start w₀ now acts w) : Lives course start w₀ now acts w.signal

@[simp] theorem signal_phase (w : Worker) : w.signal.phase = w.phase := rfl

@[simp] theorem signal_since (w : Worker) : w.signal.since = w.since := rfl

@[simp] theorem signal_stopping (w : Worker) : w.signal.stopping = true := rfl

theorem wait_of_some (some : w.nextMoment? = some next) (later : Nat) :
    w.wait later = { w with since := max w.since later } := by
  unfold wait
  rw [some]

theorem wait_of_none (none : w.nextMoment? = none) (later : Nat) : w.wait later = w := by
  unfold wait
  rw [none]

theorem wait_stopping (w : Worker) (later : Nat) : (w.wait later).stopping = w.stopping := by
  unfold wait
  split <;> rfl

theorem nextMoment?_wait_eq (idle : ∀ next, w.nextMoment? = some next → later ≤ next) :
    (w.wait later).nextMoment? = w.nextMoment? := by
  cases some : w.nextMoment? with
  | none => rw [wait_of_none some, some]
  | some next =>
    rw [wait_of_some some]
    have le := idle next some
    rcases Nat.eq_or_lt_of_le le with rfl | lt
    · unfold nextMoment? at some ⊢
      cases phase : w.phase with
      | fresh | busy =>
        simp only [phase, Option.some.injEq] at some ⊢
        omega
      | waiting =>
        simp only [phase, Option.some.injEq] at some ⊢
        split at some <;> rename_i told
        · rw [if_pos told]
          omega
        · rw [if_neg told]
          omega
      | ended | broken => simp [phase] at some
    · exact nextMoment?_wait some lt

theorem Lives.trans (first : Lives course start w₀ now acts w)
    (second : Lives course now w later more w') :
    Lives course start w₀ later (acts ++ more) w' := by
  induction second with
  | begin => rw [List.append_nil]; exact first
  | act before due ih => rw [← List.append_assoc]; exact ih.act due
  | wait before le idle ih => exact ih.wait le idle
  | signal before ih => exact ih.signal

theorem Lives.le (lives : Lives course start w₀ now acts w) : start ≤ now := by
  induction lives with
  | begin => exact Nat.le_refl _
  | act before due ih => exact ih
  | wait before le idle ih => exact Nat.le_trans ih le
  | signal before ih => exact ih

/-- A life falls apart between any two of its acts. -/
theorem Lives.split (lives : Lives course start w₀ now (acts ++ more) w) :
    ∃ moment w', Lives course start w₀ moment acts w' ∧ Lives course moment w' now more w := by
  generalize whole : acts ++ more = all at lives
  induction lives generalizing more with
  | begin =>
    obtain ⟨rfl, rfl⟩ := List.append_eq_nil_iff.1 whole
    exact ⟨_, _, .begin, .begin⟩
  | act before due ih =>
    rcases List.eq_nil_or_concat more with rfl | ⟨more, last, rfl⟩
    · rw [List.append_nil] at whole
      subst whole
      exact ⟨_, _, .act before due, .begin⟩
    · rw [List.concat_eq_append, ← List.append_assoc] at whole
      obtain ⟨front, same⟩ := List.append_inj' whole rfl
      obtain rfl := List.singleton_inj.1 same
      obtain ⟨moment, w', first, second⟩ := ih front
      rw [List.concat_eq_append]
      exact ⟨moment, w', first, second.act due⟩
  | wait before le idle ih =>
    obtain ⟨moment, w', first, second⟩ := ih whole
    exact ⟨moment, w', first, second.wait le idle⟩
  | signal before ih =>
    obtain ⟨moment, w', first, second⟩ := ih whole
    exact ⟨moment, w', first, second.signal⟩

theorem Lives.period (lives : Lives course start w₀ now acts w) : w.period = w₀.period := by
  induction lives with
  | begin => rfl
  | act before due ih => exact (does course _ _).period.trans ih
  | wait before le idle ih =>
    unfold Worker.wait
    split <;> exact ih
  | signal before ih => exact ih

theorem le_endsAt (w : Worker) (now : Nat) : now ≤ w.endsAt now := by
  unfold endsAt
  split
  · exact Nat.le_max_left _ _
  · exact Nat.le_refl _

theorem endsAt_of_busy {ends : Nat} (phase : w.phase = .busy ends) (now : Nat) :
    w.endsAt now = max now ends := by
  unfold endsAt
  rw [phase]

theorem endsAt_of_free (phase : ∀ ends, w.phase ≠ .busy ends) (now : Nat) : w.endsAt now = now := by
  unfold endsAt
  split
  · next ends busy => exact absurd busy (phase ends)
  · rfl

/-! ## What a worker is doing -/

/-- A worker that has done `acts` by the moment `now` runs its monitor as they say, or does not run
it. -/
inductive Doing (course : Course) (now : Nat) (acts : List (Nat × Act)) (w : Worker) : Prop where
  | busy (b : Nat) (running : inFlight? acts = some (b, course b))
      (phase : w.phase = .busy (b + (course b).span)) (began : b ≤ now)
      (within : now ≤ b + (course b).span) (since : w.since = now)
  | free (none : inFlight? acts = none) (phase : ∀ ends, w.phase ≠ .busy ends)
      (since : ∀ next, w.nextMoment? = some next → w.since = now)

theorem Doing.since (doing : Doing course now acts w) (some : w.nextMoment? = some next) :
    w.since = now := by
  cases doing with
  | busy b running phase began within since => exact since
  | free none phase since => exact since next some

theorem doing_spawn {period : Nat} (pos : 0 < period) :
    Doing course start [] (spawn period pos start) := by
  refine .free rfl (fun ends busy => ?_) fun next some => rfl
  cases busy

theorem nextMoment?_of_waiting (phase : w.phase = .waiting) :
    w.nextMoment? = some (if w.stopping then w.since else max w.since (wakeUp w.due)) := by
  unfold nextMoment?
  rw [phase]

theorem nextMoment?_of_since (since : w.since = now) (some : w.nextMoment? = some next) :
    now ≤ next := by
  unfold nextMoment? at some
  cases phase : w.phase with
  | fresh | busy =>
    simp only [phase, Option.some.injEq] at some
    omega
  | waiting =>
    simp only [phase, Option.some.injEq] at some
    split at some <;> omega
  | ended | broken => simp [phase] at some

theorem doing_act (due : w.nextMoment? = some now) :
    Doing course now (acts ++ [(now, (w.act course now).2)]) (w.act course now).1 := by
  have does := does course w now
  generalize w.act course now = r at does ⊢
  cases does with
  | enter | breakDown | finish | leave =>
    exact .free (inFlight?_of_ne _ _ (by simp)) (by simp) fun _ _ => rfl
  | drop phase => exact .free (inFlight?_of_ne _ _ (by simp)) (by simp [phase]) fun _ _ => rfl
  | begin => exact .busy now (inFlight?_begin _ _ _) rfl (Nat.le_refl _) (Nat.le_add_right _ _) rfl
  | rest phase => exact absurd phase (not_rest due)

theorem Doing.wait (doing : Doing course now acts w) (le : now ≤ later)
    (idle : ∀ next, w.nextMoment? = some next → later ≤ next) :
    Doing course later acts (w.wait later) := by
  cases doing with
  | busy b running phase began within since =>
    have next : w.nextMoment? = some (b + (course b).span) := by
      simp only [nextMoment?, phase, Option.some.injEq]
      omega
    rw [wait_of_some next]
    exact .busy b running phase (Nat.le_trans began le) (idle _ next) (by simp only; omega)
  | free none phase since =>
    cases next : w.nextMoment? with
    | none =>
      rw [wait_of_none next]
      exact .free none phase fun _ some => by rw [next] at some; cases some
    | some moment =>
      rw [wait_of_some next]
      have here := since moment next
      exact .free none phase fun _ _ => by simp only; omega

theorem nextMoment?_signal_isSome : w.signal.nextMoment?.isSome = w.nextMoment?.isSome := by
  unfold nextMoment? signal
  cases phase : w.phase <;> rfl

theorem Doing.signal (doing : Doing course now acts w) : Doing course now acts w.signal := by
  cases doing with
  | busy b running phase began within since => exact .busy b running phase began within since
  | free none phase since =>
    refine .free none phase fun next some => ?_
    have alive : w.nextMoment?.isSome = true := by
      rw [← nextMoment?_signal_isSome, some]
      rfl
    obtain ⟨moment, here⟩ := Option.isSome_iff_exists.1 alive
    exact since moment here

/-- **The phase of a worker** tells whether it runs its monitor, and when that ends. -/
theorem Doing.lives (doing : Doing course now acts w) (lives : Lives course now w later more w') :
    Doing course later (acts ++ more) w' := by
  induction lives with
  | begin => rwa [List.append_nil]
  | act before due ih =>
    rw [← List.append_assoc]
    exact doing_act due
  | wait before le idle ih => exact ih.wait le idle
  | signal before ih => exact ih.signal

/-! ## Working up to a moment -/

theorem lt_of_nextMoment?_advance (some : (w.advance course upTo).1.nextMoment? = some next) :
    upTo < next := by
  fun_induction advance course upTo w with
  | case1 w none => rw [none] at some; cases some
  | case2 w moment due le lt rest ih => exact ih some
  | case3 w moment due past =>
    have lt := Nat.lt_of_not_le past
    rw [nextMoment?_wait due lt] at some
    cases some
    exact lt

variable (course upTo w) in
/-- Working up to a moment is a piece of a worker's life. -/
theorem lives_advance : ∀ (now : Nat) (acts : List (Nat × Act)), Doing course now acts w →
    now ≤ upTo → Lives course now w upTo (w.advance course upTo).2 (w.advance course upTo).1 ∧
      Doing course upTo (acts ++ (w.advance course upTo).2) (w.advance course upTo).1 := by
  fun_induction Worker.advance course upTo w with
  | case1 w none =>
    intro now acts doing le
    have begun : Lives course now w now [] w := .begin
    have idle : ∀ next, w.nextMoment? = some next → upTo ≤ next := by
      intro next some
      rw [none] at some
      cases some
    have life := begun.wait le idle
    have still := doing.wait le idle
    rw [wait_of_none none] at life still
    exact ⟨life, by rwa [List.append_nil]⟩
  | case2 w moment due within lt rest ih =>
    intro now acts doing le
    have begun : Lives course now w now [] w := .begin
    have past : now ≤ moment := nextMoment?_of_since (doing.since due) due
    have idle : ∀ next, w.nextMoment? = some next → moment ≤ next := by
      intro next some
      rw [due] at some
      cases some
      exact Nat.le_refl _
    have there : (w.wait moment).nextMoment? = some moment := by
      rw [nextMoment?_wait_eq idle, due]
    have same : (w.wait moment).act course moment = w.act course moment := by
      rw [wait_of_some due]
      exact act_wait due
    have life := (begun.wait past idle).act there
    have acted : Doing course moment (acts ++ [(moment, ((w.wait moment).act course moment).2)])
        ((w.wait moment).act course moment).1 := doing_act there
    rw [same] at acted life
    obtain ⟨later, done⟩ := ih _ _ acted within
    refine ⟨life.trans later, ?_⟩
    rw [List.append_cons]
    exact done
  | case3 w moment due past =>
    intro now acts doing le
    have begun : Lives course now w now [] w := .begin
    have idle : ∀ next, w.nextMoment? = some next → upTo ≤ next := by
      intro next some
      rw [due] at some
      cases some
      exact Nat.le_of_not_le past
    have life := begun.wait le idle
    have still := doing.wait le idle
    rw [wait_of_some due] at life still
    exact ⟨life, by rwa [List.append_nil]⟩

end Worker

end Vigil

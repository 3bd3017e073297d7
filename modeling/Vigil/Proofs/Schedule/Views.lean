import Mathlib.Data.List.Nodup
import Vigil.Proofs.Schedule.Moves
import Vigil.Proofs.Schedule.Shutdown

/-!
# What concerns one position

Of a chronicle, a `View` has what concerns one position: its watch, the worker that was left over
there, and what workers have done for it. A move at a position changes its view in a way that
depends on nothing else (`Chronicle.Happens.view_of`), and no other view
(`Chronicle.Happens.view_of_ne`). When time goes by, each view changes by itself
(`Chronicle.Happens.view_pass`, `Chronicle.Happens.view_wait`).

This is so for a chronicle that is in order (`Chronicle.InOrder`), and it stays so
(`Chronicle.Happens.inOrder`).
-/

set_option autoImplicit false

namespace Vigil

namespace Station

variable {s s' : Station} {i j : Nat} {w : Watch}

/-- Reports outside of workers are none of theirs. -/
theorem filter_outside (entries : List Entry) :
    (entries.map (Line.mk none)).filter (·.worker.isSome) = [] := by
  rw [List.filter_map, List.filter_eq_nil_iff.2 (by simp), List.map_nil]

theorem filter_report (s : Station) (events : List Event) :
    (s.report events).lines.filter (·.worker.isSome) = s.lines.filter (·.worker.isSome) := by
  have nobody := filter_outside (events.map (Entry.mk s.now))
  rw [List.map_map] at nobody
  unfold report
  rw [List.filter_append]
  exact (congrArg (_ ++ ·) nobody).trans (List.append_nil _)

theorem filter_workerLines (name : String) (acts : List (Nat × Act)) :
    (workerLines name acts).filter (·.worker.isSome) = workerLines name acts := by
  refine List.filter_eq_self.2 fun l mem => ?_
  obtain ⟨a, -, mem⟩ := List.mem_flatMap.1 mem
  obtain ⟨e, -, rfl⟩ := List.mem_map.1 mem
  rfl

end Station

namespace Chronicle

variable {course : Monitor → Course} {c c' : Chronicle} {move : Move} {deal : Deal}
  {i j later upTo : Nat} {m : Monitor} {w : Watch} {k : Worker} {ms : List Monitor}

/-! ## In order -/

/-- A chronicle of these monitors is in order. -/
structure InOrder (ms : List Monitor) (c : Chronicle) : Prop where
  homes_length : c.homes.length = c.station.leftovers.length
  homes_nodup : c.homes.Nodup
  /-- A watch that was given up is gone. -/
  gone : ∀ i ∈ c.homes, c.station.watch? i = none
  watch : ∀ i w, c.station.watch? i = some w → ms[i]? = some w.monitor
  leftover : ∀ i m k, c.leftover? i = some (m, k) → ms[i]? = some m
  named : ∀ d ∈ c.deeds, ∃ m, ms[d.place]? = some m ∧ m.name = d.name
  /-- What workers have logged is what is logged of their deeds. -/
  logged : c.station.lines.filter (·.worker.isSome) = c.deeds.flatMap Deed.lines

theorem mem_homes_of_leftover? (inOrder : c.InOrder ms) (here : c.leftover? i = some (m, k)) :
    i ∈ c.homes := by
  have lt := (List.getElem?_eq_some_iff.1 here).1
  rw [← inOrder.homes_length] at lt
  exact List.idxOf_lt_length_iff.1 lt

theorem leftover?_eq_none_of_watch? (inOrder : c.InOrder ms)
    (here : c.station.watch? i = some w) : c.leftover? i = none := by
  cases left : c.leftover? i with
  | none => rfl
  | some l =>
    have gone := inOrder.gone i (mem_homes_of_leftover? inOrder left)
    rw [here] at gone
    cases gone

end Chronicle

/-- What concerns one position of a station. -/
structure View where
  now : Nat
  watch : Option Watch
  /-- The worker that was left over, and its monitor. -/
  leftover : Option (Monitor × Worker)
  /-- What workers have done for this position, and when. -/
  acts : List (Nat × Act)

/-- What concerns the position `i`. -/
def Chronicle.view (c : Chronicle) (i : Nat) : View where
  now := c.station.now
  watch := c.station.watch? i
  leftover := c.leftover? i
  acts := Deed.actsAt i c.deeds

namespace View

/-- What is done at the position. -/
inductive Happens (course : Course) (v : View) : Deal → View → Prop where
  | turn {w : Watch} {k : Worker} (here : v.watch = some w) (running : w.worker = some k)
      (due : k.nextMoment? = some v.now) :
      Happens course v .turn
        { v with
          watch := some { w with worker := some (k.act course v.now).1 }
          acts := v.acts ++ [(v.now, (k.act course v.now).2)] }
  | turnLeftover {m : Monitor} {k : Worker} (here : v.leftover = some (m, k))
      (due : k.nextMoment? = some v.now) :
      Happens course v .turn
        { v with
          leftover := some (m, (k.act course v.now).1)
          acts := v.acts ++ [(v.now, (k.act course v.now).2)] }
  | start {w : Watch} (here : v.watch = some w) (resting : w.worker = none) :
      Happens course v .start
        { v with
          watch := some { w with
            worker := some (.spawn w.monitor.period.nanos w.period_pos v.now) } }
  | tell {w : Watch} (here : v.watch = some w) :
      Happens course v .tell { v with watch := some w.signal }
  | release {w : Watch} (here : v.watch = some w)
      (done : ∀ k, w.worker = some k → k.nextMoment? = none) :
      Happens course v .release { v with watch := some w.release }
  | drop {w : Watch} (here : v.watch = some w) :
      Happens course v .drop
        { v with watch := none, leftover := w.worker.map fun k => (w.monitor, k.signal) }

/-- Time goes by, and nothing is done. -/
def pass (later : Nat) (v : View) : View where
  now := later
  watch := v.watch.map fun w => { w with worker := w.worker.map (·.wait later) }
  leftover := v.leftover.map fun l => (l.1, l.2.wait later)
  acts := v.acts

/-- Time goes by, and the worker does what it has to do. -/
def wait (course : Course) (upTo : Nat) (v : View) : View where
  now := max v.now upTo
  watch := v.watch.map fun w =>
    { w with worker := w.worker.map fun k => (k.advance course upTo).1 }
  leftover := v.leftover.map fun l => (l.1, (l.2.advance course upTo).1)
  acts := v.acts ++ ((v.watch.bind (·.worker)).map fun k => (k.advance course upTo).2).getD [] ++
    (v.leftover.map fun l => (l.2.advance course upTo).2).getD []

/-- Nothing is due before a moment. -/
structure Idle (later : Nat) (v : View) : Prop where
  watch : ∀ w k next, v.watch = some w → w.worker = some k → k.nextMoment? = some next →
    later ≤ next
  leftover : ∀ m k next, v.leftover = some (m, k) → k.nextMoment? = some next → later ≤ next

theorem Happens.of_eq {course : Course} {v v' v'' : View} {deal : Deal}
    (happens : v.Happens course deal v') (eq : v'' = v') : v.Happens course deal v'' :=
  eq ▸ happens

/-- What is done leaves no choice. -/
theorem Happens.unique {course : Course} {v v₁ v₂ : View} {deal : Deal}
    (apart : ∀ w, v.watch = some w → v.leftover = none) (first : v.Happens course deal v₁)
    (second : v.Happens course deal v₂) : v₁ = v₂ := by
  have same : ∀ {w w' : Watch}, v.watch = some w → v.watch = some w' → w = w' := fun here there =>
    Option.some.inj (here.symm.trans there)
  cases first with
  | turn here running due =>
    cases second with
    | turn there running' due' =>
      obtain rfl := same here there
      obtain rfl := Option.some.inj (running.symm.trans running')
      rfl
    | turnLeftover there due' =>
      rw [apart _ here] at there
      cases there
  | turnLeftover here due =>
    cases second with
    | turn there running' due' =>
      rw [apart _ there] at here
      cases here
    | turnLeftover there due' =>
      obtain ⟨rfl, rfl⟩ := Prod.mk.inj (Option.some.inj (here.symm.trans there))
      rfl
  | start here resting =>
    cases second with
    | start there resting' =>
      obtain rfl := same here there
      rfl
  | tell here =>
    cases second with
    | tell there =>
      obtain rfl := same here there
      rfl
  | release here done =>
    cases second with
    | release there done' =>
      obtain rfl := same here there
      rfl
  | drop here =>
    cases second with
    | drop there =>
      obtain rfl := same here there
      rfl

/-- Whatever is done, the position keeps its monitor. -/
theorem Happens.belongs {course : Course} {v v' : View} {deal : Deal} {m : Monitor}
    (happens : v.Happens course deal v') (watch : ∀ w, v.watch = some w → w.monitor = m)
    (leftover : ∀ m' k, v.leftover = some (m', k) → m' = m) :
    (∀ w, v'.watch = some w → w.monitor = m) ∧ ∀ m' k, v'.leftover = some (m', k) → m' = m := by
  cases happens with
  | turn here | start here | tell here | release here =>
    have kept := watch _ here
    refine ⟨fun w eq => ?_, leftover⟩
    cases eq
    exact kept
  | turnLeftover here =>
    have kept := leftover _ _ here
    refine ⟨watch, fun m' k eq => ?_⟩
    cases eq
    exact kept
  | drop here =>
    have kept := watch _ here
    refine ⟨fun w eq => (nomatch eq), fun m' k eq => ?_⟩
    obtain ⟨k', -, same⟩ := Option.map_eq_some_iff.1 eq
    cases same
    exact kept

end View

namespace Chronicle

variable {course : Monitor → Course} {c c' : Chronicle} {move : Move} {deal : Deal}
  {i j later upTo : Nat} {m : Monitor} {w : Watch} {k : Worker} {ms : List Monitor}

theorem view_eq {v : View} (now : c.station.now = v.now) (watch : c.station.watch? i = v.watch)
    (leftover : c.leftover? i = v.leftover) (acts : Deed.actsAt i c.deeds = v.acts) :
    c.view i = v := by
  unfold view
  rw [now, watch, leftover, acts]

/-! ### One position -/

theorem actsAt_self (i : Nat) (name : String) (acts : List (Nat × Act)) (ds : List Deed) :
    Deed.actsAt i (ds ++ Deed.ofActs i name acts) = Deed.actsAt i ds ++ acts := by
  rw [Deed.actsAt_append, Deed.actsAt_ofActs, if_pos rfl]

theorem actsAt_of_ne (ne : i ≠ j) (name : String) (acts : List (Nat × Act)) (ds : List Deed) :
    Deed.actsAt j (ds ++ Deed.ofActs i name acts) = Deed.actsAt j ds := by
  rw [Deed.actsAt_append, Deed.actsAt_ofActs, if_neg ne, List.append_nil]

/-- The worker that was left over at a position is replaced. -/
theorem leftovers_set (here : c.leftover? i = some (m, k)) (l : Monitor × Worker) (j : Nat) :
    (c.station.leftovers.set (c.homes.idxOf i) l)[c.homes.idxOf j]? =
      if c.homes.idxOf i = c.homes.idxOf j then some l else c.leftover? j := by
  rw [List.getElem?_set, if_pos (List.getElem?_eq_some_iff.1 here).1]
  rfl

/-- The worker of a watch that is given up is left over at its position. -/
theorem leftovers_append (inOrder : c.InOrder ms) (here : c.station.watch? i = some w)
    (l : Monitor × Worker) (j : Nat) :
    (c.station.leftovers ++ [l])[(c.homes ++ [i]).idxOf j]? =
      if i = j then some l else c.leftover? j := by
  have new : i ∉ c.homes := by
    intro mem
    have gone := inOrder.gone i mem
    rw [here] at gone
    cases gone
  unfold leftover?
  by_cases same : i = j
  · subst same
    rw [if_pos rfl, List.idxOf_append_of_notMem new, inOrder.homes_length]
    simp
  · rw [if_neg same]
    by_cases old : j ∈ c.homes
    · have lt := List.idxOf_lt_length_iff.2 old
      rw [inOrder.homes_length] at lt
      rw [List.idxOf_append_of_mem old, List.getElem?_append_left lt]
    · have neither : j ∉ c.homes ++ [i] := by simp [old, Ne.symm same]
      rw [List.idxOf_of_notMem neither, List.idxOf_of_notMem old, List.length_append,
        inOrder.homes_length, List.getElem?_eq_none (Nat.le_refl _),
        List.getElem?_eq_none (by simp)]

theorem leftover?_drop (inOrder : c.InOrder ms) (here : c.station.watch? i = some w) (j : Nat) :
    { c with
      station := c.station.drop i w
      homes := if w.isRunning then c.homes ++ [i] else c.homes : Chronicle }.leftover? j =
      if i = j then w.worker.map fun k => (w.monitor, k.signal) else c.leftover? j := by
  obtain ⟨m, pos, worker⟩ := w
  rw [leftover?, Station.drop_eq]
  cases worker with
  | some k => exact leftovers_append inOrder here _ j
  | none =>
    simp only [Option.map_none, Option.toList_none, List.append_nil, Watch.isRunning,
      Option.isSome_none, Bool.false_eq_true, if_false]
    show c.leftover? j = _
    split
    · next same =>
      subst same
      exact leftover?_eq_none_of_watch? inOrder here
    · rfl

/-- A move at a position changes what concerns that position. -/
theorem Happens.view_of (happens : Happens course c (.of i deal) c') (inOrder : c.InOrder ms)
    (here : ms[i]? = some m) : (c.view i).Happens (course m) deal (c'.view i) := by
  cases happens with
  | @turn i w k at_i running due =>
    obtain rfl := Option.some.inj ((inOrder.watch i w at_i).symm.trans here)
    refine View.Happens.of_eq (.turn at_i running due) ?_
    exact view_eq rfl (Station.watch?_setWatch_self at_i _) rfl (actsAt_self _ _ _ _)
  | @turnLeftover i m' k left due =>
    obtain rfl := Option.some.inj ((inOrder.leftover i m' k left).symm.trans here)
    refine View.Happens.of_eq (.turnLeftover left due) ?_
    exact view_eq rfl rfl ((leftovers_set left _ _).trans (if_pos rfl)) (actsAt_self _ _ _ _)
  | @start i w s at_i started =>
    obtain ⟨resting, rfl⟩ := Station.eq_of_start started
    refine View.Happens.of_eq (.start at_i resting) ?_
    exact view_eq rfl (Station.watch?_setWatch_self at_i _) rfl rfl
  | tell at_i =>
    refine View.Happens.of_eq (.tell at_i) ?_
    exact view_eq rfl (Station.watch?_setWatch_self at_i _) rfl rfl
  | release at_i done =>
    refine View.Happens.of_eq (.release at_i done) ?_
    exact view_eq rfl (Station.watch?_setWatch_self at_i _) rfl rfl
  | drop at_i =>
    refine View.Happens.of_eq (.drop at_i) ?_
    exact view_eq (Station.now_drop _ _ _) (Station.watch?_drop_self at_i)
      ((leftover?_drop inOrder at_i _).trans (if_pos rfl)) rfl

/-- It changes nothing that concerns another position. -/
theorem Happens.view_of_ne (happens : Happens course c (.of i deal) c') (inOrder : c.InOrder ms)
    (ne : i ≠ j) : c'.view j = c.view j := by
  cases happens with
  | turn at_i running due =>
    exact view_eq rfl (Station.watch?_setWatch_of_ne ne _) rfl (actsAt_of_ne ne _ _ _)
  | turnLeftover left due =>
    have apart : ¬ c.homes.idxOf i = c.homes.idxOf j := fun same =>
      ne ((List.idxOf_inj (mem_homes_of_leftover? inOrder left)).1 same)
    exact view_eq rfl rfl ((leftovers_set left _ _).trans (if_neg apart)) (actsAt_of_ne ne _ _ _)
  | start at_i started =>
    obtain ⟨-, rfl⟩ := Station.eq_of_start started
    exact view_eq rfl (Station.watch?_setWatch_of_ne ne _) rfl rfl
  | tell at_i => exact view_eq rfl (Station.watch?_setWatch_of_ne ne _) rfl rfl
  | release at_i done => exact view_eq rfl (Station.watch?_setWatch_of_ne ne _) rfl rfl
  | drop at_i =>
    exact view_eq (Station.now_drop _ _ _) (Station.watch?_drop_of_ne ne)
      ((leftover?_drop inOrder at_i _).trans (if_neg ne)) rfl

/-! ### All positions -/

theorem Happens.view_pass (happens : Happens course c (.pass later) c') (j : Nat) :
    c'.view j = (c.view j).pass later ∧ (c.view j).now ≤ later ∧ (c.view j).Idle later := by
  cases happens with
  | pass le idle =>
    refine ⟨?_, le, ?_⟩
    · exact view_eq rfl (Station.watch?_pass c.station later j) List.getElem?_map rfl
    · constructor
      · exact fun w k next at_j running => idle _ k (.watch at_j rfl running) next
      · exact fun m k next left => idle m k (.leftover left) next

/-- Of what is listed with its position, the part for one position. -/
theorem flatMap_zipIdx {α β : Type} (f : α → List β) (l : List α) (n j : Nat) :
    ((l.zipIdx n).flatMap fun p => if p.2 = j then f p.1 else []) =
      if n ≤ j then ((l[j - n]?).map f).getD [] else [] := by
  induction l generalizing n with
  | nil => simp
  | cons a l ih =>
    rw [List.zipIdx_cons, List.flatMap_cons, ih]
    rcases Nat.lt_trichotomy n j with lt | rfl | gt
    · have next : j - n = j - (n + 1) + 1 := by omega
      rw [if_neg (Nat.ne_of_lt lt), if_pos (Nat.succ_le_of_lt lt), if_pos (Nat.le_of_lt lt), next,
        List.getElem?_cons_succ, List.nil_append]
    · rw [if_pos rfl, if_neg (by omega), if_pos (Nat.le_refl _), Nat.sub_self]
      simp
    · rw [if_neg (Nat.ne_of_gt gt), if_neg (by omega), if_neg (by omega)]
      rfl

/-- Of what is listed with homes that differ, the part for one home. -/
theorem flatMap_zip {α β : Type} (f : α → List β) (l : List α) (homes : List Nat)
    (nodup : homes.Nodup) (length : homes.length = l.length) (j : Nat) :
    ((l.zip homes).flatMap fun p => if p.2 = j then f p.1 else []) =
      ((l[homes.idxOf j]?).map f).getD [] := by
  induction homes generalizing l with
  | nil =>
    obtain rfl := List.length_eq_zero_iff.1 length.symm
    rfl
  | cons h homes ih =>
    cases l with
    | nil => cases length
    | cons a l =>
      obtain ⟨new, nodup⟩ := List.nodup_cons.1 nodup
      have rest := ih l nodup (Nat.succ.inj length)
      rw [List.zip_cons_cons, List.flatMap_cons, rest]
      by_cases same : h = j
      · subst same
        have length' : homes.length = l.length := Nat.succ.inj length
        rw [if_pos rfl, List.idxOf_of_notMem new, length', List.idxOf_cons_self]
        simp
      · rw [if_neg same, List.idxOf_cons_ne homes same, List.getElem?_cons_succ, List.nil_append]

/-- What workers do for one position when they are let work. -/
theorem actsAt_work (inOrder : c.InOrder ms) (upTo j : Nat) :
    Deed.actsAt j (c.work course upTo) =
      ((c.station.watch? j).map fun w => (w.advance course upTo).2).getD [] ++
        ((c.leftover? j).map fun l => (l.2.advance (course l.1) upTo).2).getD [] := by
  have watches : ∀ p : Option Watch × Nat, Deed.actsAt j (Deed.ofWatch course upTo p) =
      if p.2 = j then (p.1.map fun w => (w.advance course upTo).2).getD [] else [] := by
    rintro ⟨w, n⟩
    cases w with
    | none => simp [Deed.actsAt, Deed.ofWatch]
    | some w => exact Deed.actsAt_ofActs j n w.name _
  have leftovers : ∀ p : (Monitor × Worker) × Nat,
      Deed.actsAt j (Deed.ofLeftover course upTo p) =
        if p.2 = j then (p.1.2.advance (course p.1.1) upTo).2 else [] := fun p =>
    Deed.actsAt_ofActs j p.2 p.1.1.name _
  unfold work leftover? Station.watch?
  rw [Deed.actsAt_append, Deed.actsAt_flatMap, Deed.actsAt_flatMap]
  simp only [watches, leftovers]
  rw [flatMap_zipIdx (fun w : Option Watch => (w.map fun w => (w.advance course upTo).2).getD []),
    if_pos (Nat.zero_le j), Nat.sub_zero,
    flatMap_zip (fun l : Monitor × Worker => (l.2.advance (course l.1) upTo).2) _ _
      inOrder.homes_nodup inOrder.homes_length]
  congr 1
  cases c.station.watches[j]? with
  | none => rfl
  | some w => rfl

/-- What is done for a position is done in the name of its monitor. -/
theorem named_ofActs (here : ms[i]? = some m) {acts : List (Nat × Act)} {d : Deed}
    (mem : d ∈ Deed.ofActs i m.name acts) : ∃ m, ms[d.place]? = some m ∧ m.name = d.name := by
  obtain ⟨a, -, rfl⟩ := List.mem_map.1 mem
  exact ⟨m, here, rfl⟩

/-- What workers do when they are let work is done for their monitors. -/
theorem named_work (inOrder : c.InOrder ms) {d : Deed} (mem : d ∈ c.work course upTo) :
    ∃ m, ms[d.place]? = some m ∧ m.name = d.name := by
  rcases List.mem_append.1 mem with mem | mem
  · obtain ⟨⟨w, n⟩, listed, mem⟩ := List.mem_flatMap.1 mem
    cases w with
    | none => exact absurd mem List.not_mem_nil
    | some w =>
      have here : c.station.watch? n = some w := by
        unfold Station.watch?
        rw [List.mem_zipIdx_iff_getElem?.1 listed]
        rfl
      exact named_ofActs (inOrder.watch n w here) mem
  · obtain ⟨⟨⟨m, k⟩, home⟩, listed, mem⟩ := List.mem_flatMap.1 mem
    obtain ⟨n, at_n⟩ := List.mem_iff_getElem?.1 listed
    obtain ⟨left, there⟩ := List.getElem?_zip_eq_some.1 at_n
    obtain ⟨lt, rfl⟩ := List.getElem?_eq_some_iff.1 there
    have here : c.leftover? c.homes[n] = some (m, k) := by
      unfold leftover?
      rw [inOrder.homes_nodup.idxOf_getElem n lt]
      exact left
    exact named_ofActs (inOrder.leftover _ _ _ here) mem

/-- What is logged of it. -/
theorem lines_work (inOrder : c.InOrder ms) (upTo : Nat) :
    (c.work course upTo).flatMap Deed.lines =
      (c.station.watches.map (Station.advanceWatch course upTo)).flatMap (·.2) ++
        (c.station.leftovers.map (Station.advanceLeftover course upTo)).flatMap (·.2) := by
  have watches : ∀ p : Option Watch × Nat, (Deed.ofWatch course upTo p).flatMap Deed.lines =
      (Station.advanceWatch course upTo p.1).2 := by
    rintro ⟨w, n⟩
    cases w with
    | none => rfl
    | some w => exact Deed.flatMap_lines_ofActs n w.name _
  have leftovers : ∀ p : (Monitor × Worker) × Nat,
      (Deed.ofLeftover course upTo p).flatMap Deed.lines =
        (Station.advanceLeftover course upTo p.1).2 := fun p =>
    Deed.flatMap_lines_ofActs p.2 p.1.1.name _
  unfold work
  rw [List.flatMap_append, List.flatMap_assoc, List.flatMap_assoc]
  simp only [watches, leftovers]
  rw [← List.flatMap_map Prod.fst fun w => (Station.advanceWatch course upTo w).2,
    List.zipIdx_map_fst,
    ← List.flatMap_map Prod.fst fun l => (Station.advanceLeftover course upTo l).2,
    List.map_fst_zip (Nat.le_of_eq inOrder.homes_length.symm), List.flatMap_map, List.flatMap_map]

theorem Happens.view_wait (happens : Happens course c (.wait upTo) c') (inOrder : c.InOrder ms)
    (here : ms[j]? = some m) :
    c'.view j = (c.view j).wait (course m) upTo ∧ (c.view j).now ≤ upTo := by
  cases happens with
  | wait le =>
    have own : ∀ w, c.station.watch? j = some w → w.monitor = m := fun w at_j =>
      Option.some.inj ((inOrder.watch j w at_j).symm.trans here)
    have own' : ∀ l, c.leftover? j = some l → l.1 = m := fun l left =>
      Option.some.inj ((inOrder.leftover j l.1 l.2 left).symm.trans here)
    refine ⟨view_eq rfl ?_ ?_ ?_, le⟩
    · refine (Station.watch?_advance course upTo c.station j).trans (Option.map_congr ?_)
      intro w at_j
      obtain rfl := own w at_j
      exact Watch.advance_eq course upTo w
    · refine (Station.leftover_advance course upTo c.station _).trans (Option.map_congr ?_)
      intro l left
      obtain rfl := own' l left
      rfl
    · rw [Deed.actsAt_append, actsAt_work inOrder, ← List.append_assoc]
      have left : ((c.leftover? j).map fun l => (l.2.advance (course l.1) upTo).2) =
          (c.leftover? j).map fun l => (l.2.advance (course m) upTo).2 :=
        Option.map_congr fun l at_j => by rw [own' l at_j]
      have watched : ((c.station.watch? j).map fun w => (w.advance course upTo).2).getD [] =
          (((c.station.watch? j).bind (·.worker)).map fun k =>
            (k.advance (course m) upTo).2).getD [] := by
        cases at_j : c.station.watch? j with
        | none => rfl
        | some w =>
          rw [← own w at_j]
          simp only [Option.map_some, Option.bind_some, Option.getD_some, Watch.advance]
          cases w.worker with
          | none => rfl
          | some k => rfl
      rw [left, watched]
      rfl

/-! ## Staying in order -/

/-- There is a monitor wherever something is done. -/
theorem Happens.place (happens : Happens course c (.of i deal) c') (inOrder : c.InOrder ms) :
    ∃ m, ms[i]? = some m := by
  cases happens with
  | turn here | start here | tell here | release here | drop here =>
    exact ⟨_, inOrder.watch _ _ here⟩
  | turnLeftover left => exact ⟨_, inOrder.leftover _ _ _ left⟩

/-- Homes stay those of the workers left over. -/
theorem Happens.homes (happens : Happens course c move c') (inOrder : c.InOrder ms) :
    c'.homes.length = c'.station.leftovers.length ∧ c'.homes.Nodup ∧
      ∀ i ∈ c'.homes, c'.station.watch? i = none := by
  have elsewhere : ∀ {i : Nat} {w : Watch}, c.station.watch? i = some w → i ∉ c.homes := by
    intro i w here mem
    rw [inOrder.gone i mem] at here
    cases here
  have set : ∀ {i : Nat} {w : Watch}, c.station.watch? i = some w → ∀ w', ∀ j ∈ c.homes,
      (c.station.setWatch i w').watch? j = none := by
    intro i w here w' j mem
    have ne : i ≠ j := by
      rintro rfl
      exact elsewhere here mem
    rw [Station.watch?_setWatch_of_ne ne]
    exact inOrder.gone j mem
  cases happens with
  | turn here running due => exact ⟨inOrder.homes_length, inOrder.homes_nodup, set here _⟩
  | turnLeftover left due =>
    refine ⟨?_, inOrder.homes_nodup, inOrder.gone⟩
    exact inOrder.homes_length.trans (List.length_set).symm
  | start here started =>
    obtain ⟨-, rfl⟩ := Station.eq_of_start started
    exact ⟨inOrder.homes_length, inOrder.homes_nodup, set here _⟩
  | tell here => exact ⟨inOrder.homes_length, inOrder.homes_nodup, set here _⟩
  | release here done => exact ⟨inOrder.homes_length, inOrder.homes_nodup, set here _⟩
  | @drop i w here =>
    have new := elsewhere here
    rw [Station.drop_eq, Watch.isRunning]
    cases w.worker with
    | none =>
      simp only [Option.map_none, Option.toList_none, List.append_nil]
      exact ⟨inOrder.homes_length, inOrder.homes_nodup, set here none⟩
    | some k =>
      refine ⟨?_, ?_, ?_⟩
      · simp [inOrder.homes_length]
      · exact List.Nodup.append inOrder.homes_nodup (List.nodup_singleton i) (by simpa using new)
      · intro j mem
        rcases List.mem_append.1 mem with mem | mem
        · exact set here none j mem
        · obtain rfl := List.mem_singleton.1 mem
          exact Station.watch?_setWatch_self here none
  | @pass later le idle =>
    refine ⟨?_, inOrder.homes_nodup, fun j mem => ?_⟩
    · exact inOrder.homes_length.trans (List.length_map _).symm
    · refine (Station.watch?_pass c.station later j).trans ?_
      rw [inOrder.gone j mem]
      rfl
  | @wait upTo le =>
    refine ⟨?_, inOrder.homes_nodup, fun j mem => ?_⟩
    · unfold Station.advance
      simp only [List.length_map]
      exact inOrder.homes_length
    · refine (Station.watch?_advance course upTo c.station j).trans ?_
      rw [inOrder.gone j mem]
      rfl

/-- What is done for a position is done for its monitor. -/
theorem Happens.belongs (happens : Happens course c move c') (inOrder : c.InOrder ms) (j : Nat) :
    (∀ w, c'.station.watch? j = some w → ms[j]? = some w.monitor) ∧
      ∀ m k, c'.leftover? j = some (m, k) → ms[j]? = some m := by
  cases move with
  | of i deal =>
    by_cases same : i = j
    · subst same
      obtain ⟨m, here⟩ := happens.place inOrder
      have belongs := (happens.view_of inOrder here).belongs
        (fun w at_i => Option.some.inj ((inOrder.watch i w at_i).symm.trans here))
        (fun m' k left => Option.some.inj ((inOrder.leftover i m' k left).symm.trans here))
      exact ⟨fun w at_i => by rw [belongs.1 w at_i]; exact here,
        fun m' k left => by rw [belongs.2 m' k left]; exact here⟩
    · have view := happens.view_of_ne inOrder same
      exact ⟨fun w at_j => inOrder.watch j w ((congrArg View.watch view).symm.trans at_j),
        fun m k left => inOrder.leftover j m k ((congrArg View.leftover view).symm.trans left)⟩
  | pass later =>
    have view := (happens.view_pass j).1
    constructor
    · intro w at_j
      obtain ⟨w, was, rfl⟩ :=
        Option.map_eq_some_iff.1 ((congrArg View.watch view).symm.trans at_j)
      exact inOrder.watch j w was
    · intro m k left
      obtain ⟨l, was, eq⟩ :=
        Option.map_eq_some_iff.1 ((congrArg View.leftover view).symm.trans left)
      cases eq
      exact inOrder.leftover j _ _ was
  | wait upTo =>
    cases happens with
    | wait le =>
      constructor
      · intro w at_j
        obtain ⟨w, was, rfl⟩ := Option.map_eq_some_iff.1
          ((Station.watch?_advance course upTo c.station j).symm.trans at_j)
        rw [Watch.advance_eq]
        exact inOrder.watch j w was
      · intro m k left
        obtain ⟨l, was, eq⟩ := Option.map_eq_some_iff.1
          ((Station.leftover_advance course upTo c.station _).symm.trans left)
        cases eq
        exact inOrder.leftover j _ _ was

/-- What workers do is put down as it is logged. -/
theorem Happens.records (happens : Happens course c move c') (inOrder : c.InOrder ms) :
    ∃ new, c'.deeds = c.deeds ++ new ∧
      c'.station.lines.filter (·.worker.isSome) =
        c.station.lines.filter (·.worker.isSome) ++ new.flatMap Deed.lines ∧
      ∀ d ∈ new, ∃ m, ms[d.place]? = some m ∧ m.name = d.name := by
  have nothing : c'.deeds = c.deeds →
      c'.station.lines.filter (·.worker.isSome) = c.station.lines.filter (·.worker.isSome) →
      ∃ new, c'.deeds = c.deeds ++ new ∧
        c'.station.lines.filter (·.worker.isSome) =
          c.station.lines.filter (·.worker.isSome) ++ new.flatMap Deed.lines ∧
        ∀ d ∈ new, ∃ m, ms[d.place]? = some m ∧ m.name = d.name := fun deeds lines =>
    ⟨[], by rw [deeds, List.append_nil], by rw [lines, List.flatMap_nil, List.append_nil],
      fun d mem => absurd mem List.not_mem_nil⟩
  cases happens with
  | @turn i w k here running due =>
    refine ⟨_, rfl, ?_, fun d mem => named_ofActs (inOrder.watch i w here) mem⟩
    rw [Deed.flatMap_lines_ofActs, ← Station.filter_workerLines, ← List.filter_append]
    rfl
  | @turnLeftover i m k left due =>
    refine ⟨_, rfl, ?_, fun d mem => named_ofActs (inOrder.leftover i m k left) mem⟩
    rw [Deed.flatMap_lines_ofActs, ← Station.filter_workerLines, ← List.filter_append]
    rfl
  | start here started =>
    obtain ⟨-, rfl⟩ := Station.eq_of_start started
    exact nothing rfl (Station.filter_report _ _)
  | tell here => exact nothing rfl rfl
  | release here done => exact nothing rfl (Station.filter_report _ _)
  | drop here => exact nothing rfl (by rw [Station.drop_eq]; rfl)
  | pass le idle => exact nothing rfl rfl
  | @wait upTo le =>
    refine ⟨_, rfl, ?_, fun d mem => named_work inOrder mem⟩
    have mine : ((c.work course upTo).flatMap Deed.lines).filter (·.worker.isSome) =
        (c.work course upTo).flatMap Deed.lines := by
      rw [List.filter_flatMap]
      exact List.flatMap_congr fun d _ => Station.filter_workerLines _ _
    rw [← mine, ← List.filter_append, lines_work inOrder, ← List.append_assoc]
    rfl

/-- A chronicle stays in order. -/
theorem Happens.inOrder (happens : Happens course c move c') (inOrder : c.InOrder ms) :
    c'.InOrder ms := by
  obtain ⟨new, deeds, lines, named⟩ := happens.records inOrder
  obtain ⟨length, nodup, gone⟩ := happens.homes inOrder
  constructor
  case homes_length => exact length
  case homes_nodup => exact nodup
  case gone => exact gone
  case watch => exact fun i => (happens.belongs inOrder i).1
  case leftover => exact fun i => (happens.belongs inOrder i).2
  case named =>
    intro d mem
    rw [deeds] at mem
    rcases List.mem_append.1 mem with mem | mem
    · exact inOrder.named d mem
    · exact named d mem
  case logged => rw [lines, inOrder.logged, deeds, List.flatMap_append]

end Chronicle

end Vigil

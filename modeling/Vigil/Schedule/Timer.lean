import Vigil.Log.Journal

/-!
# Periodic timers

A timer is due at one moment after the other. A fire that is handled in time is followed by the
moment one period later. One that is handled late is followed by the next of those moments that
is still to come, and the others in between are skipped (`lt_following`, `lt_following_of_late`).
-/

set_option autoImplicit false

namespace Vigil.Timer

/-- How late a fire may be handled without skipping any: five milliseconds. -/
def tolerance : Nat := 5000000

/-- When a timer is due after the fire for the moment `due` is handled at `now`. -/
def following (period due now : Nat) : Nat :=
  if due + tolerance < now then now + period - (now - due) % period else due + period

/-- The last moment for which a timer can be set. There are later ones that can be told, but a timer
rounds up to whole milliseconds, and to do so it adds a nanosecond less than a millisecond. -/
def latest : Nat := 0x8000000000000000 * 1_000_000_000 - 1 - 999_999

theorem lt_following {period : Nat} (pos : 0 < period) (due now : Nat) :
    due < following period due now := by
  have := Nat.mod_lt (now - due) pos
  unfold following
  split <;> omega

theorem lt_following_of_late {period : Nat} (pos : 0 < period) {due now : Nat}
    (late : due + tolerance < now) : now < following period due now := by
  have := Nat.mod_lt (now - due) pos
  unfold following
  split <;> omega

end Vigil.Timer

namespace Vigil

theorem le_wakeUp (moment : Nat) : moment ≤ wakeUp moment := by
  unfold wakeUp
  omega

end Vigil

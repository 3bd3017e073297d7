/-!
# Durations

A span of time is a whole number of nanoseconds below 2^64 seconds. Seconds and the
nanoseconds within a second are read off that number (`seconds_add_subsec`), so a duration has
one representation only.
-/

set_option autoImplicit false

namespace Vigil

/-- A span of time in whole nanoseconds, shorter than 2^64 seconds. -/
structure Duration where
  nanos : Nat
  bound : nanos < 0x10000000000000000 * 1_000_000_000

namespace Duration

instance : DecidableEq Duration := fun a b =>
  if h : a.nanos = b.nanos then
    isTrue (by cases a; cases b; cases h; rfl)
  else
    isFalse fun e => h (by rw [e])

theorem ext {a b : Duration} (h : a.nanos = b.nanos) : a = b := by
  cases a; cases b; cases h; rfl

/-- The empty span. -/
def zero : Duration := ⟨0, by decide⟩

instance : Inhabited Duration := ⟨zero⟩

/-- The span of so many nanoseconds, if it is representable. -/
def ofNanos? (n : Nat) : Option Duration :=
  if h : n < 0x10000000000000000 * 1_000_000_000 then some ⟨n, h⟩ else none

/-- A whole number of seconds that fits 64 bits. -/
def ofSeconds (n : Nat) (h : n < 0x10000000000000000 := by decide) : Duration :=
  ⟨n * 1_000_000_000, Nat.mul_lt_mul_of_pos_right h (by decide)⟩

/-- The whole seconds. -/
def seconds (d : Duration) : Nat := d.nanos / 1_000_000_000

/-- The nanoseconds within the last second. -/
def subsec (d : Duration) : Nat := d.nanos % 1_000_000_000

/-- The whole milliseconds. -/
def millis (d : Duration) : Nat := d.nanos / 1_000_000

/-- Whether the span is empty. -/
def isZero (d : Duration) : Bool := d.nanos == 0

theorem seconds_add_subsec (d : Duration) : d.seconds * 1_000_000_000 + d.subsec = d.nanos := by
  simp only [seconds, subsec]
  omega

theorem subsec_lt (d : Duration) : d.subsec < 1_000_000_000 := Nat.mod_lt _ (by decide)

theorem isZero_iff {d : Duration} : d.isZero = true ↔ d = zero := by
  constructor
  · intro h
    exact ext (by simpa [isZero, zero] using h)
  · rintro rfl
    rfl

end Duration

end Vigil

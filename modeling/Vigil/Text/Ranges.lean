import Vigil.Text.Table

/-!
# Sets of characters as ranges

A property of characters is a sorted table of ranges of code points. In a written table a range
is its first and last code points with a hyphen between them, or a single one.
-/

set_option autoImplicit false

namespace Vigil.Text

/-- A set of code points as ranges `(first, last)`, ascending and apart from each other. -/
structure Ranges where
  bounds : Array (Nat × Nat)
  deriving Inhabited

namespace Ranges

/-- The range of an entry. -/
def ofEntry : Table.Entry → Nat × Nat
  | [(_, first), (_, last)] => (first, last)
  | [(_, only)] => (only, only)
  | _ => (1, 0)

/-- The set that a written table describes. -/
def ofText (text : String) : Ranges := ⟨(Table.entries text).map ofEntry⟩

/-- Whether a code point is in the set. -/
def has (r : Ranges) (n : Nat) : Bool :=
  (Table.find? r.bounds (·.1) n).any fun b => n ≤ b.2

/-- Whether a character is in the set. -/
def contains (r : Ranges) (c : Char) : Bool := r.has c.toNat

end Ranges

end Vigil.Text

/-!
# Tables of code points

Data about characters is written down as text: entries with blanks between them, each entry
some hexadecimal numbers with single marks between them, such as `41-5a` or `c4:41.308`.
Entries are in ascending order of their first numbers, so that `find?` can look for one by
halving.
-/

set_option autoImplicit false

namespace Vigil.Text.Table

/-- The numbers of an entry, each with the mark in front of it; the first has a blank. -/
abbrev Entry := List (Char × Nat)

/-- The value of a hexadecimal digit in lower case. -/
def hexValue? (c : Char) : Option Nat :=
  if c.isDigit then some (c.toNat - 48)
  else if 'a' ≤ c ∧ c ≤ 'f' then some (c.toNat - 87)
  else none

/-- A table being read: the entries so far, the numbers of the one being read, backwards, and
the mark and the digits of the last of these. -/
structure Reading where
  entries : Array Entry := #[]
  entry : Entry := []
  mark : Char := ' '
  number? : Option Nat := none

namespace Reading

/-- Ends a number. -/
def endNumber (r : Reading) : Reading :=
  match r.number? with
  | none => r
  | some n => { r with entry := (r.mark, n) :: r.entry, number? := none }

/-- Ends an entry. -/
def endEntry (r : Reading) : Reading :=
  let r := r.endNumber
  if r.entry.isEmpty then r
  else { entries := r.entries.push r.entry.reverse }

/-- Reads a character. -/
def step (r : Reading) (c : Char) : Reading :=
  match hexValue? c with
  | some d => { r with number? := some (r.number?.getD 0 * 16 + d) }
  | none => if c = ' ' ∨ c = '\n' then r.endEntry else { r.endNumber with mark := c }

end Reading

/-- The entries of a written table. -/
def entries (text : String) : Array Entry :=
  (text.toList.foldl Reading.step {}).endEntry.entries

/-- The last entry from index `lo` to before `hi` whose key is at most `n`, or else `best`. -/
def search {α : Type} (table : Array α) (key : α → Nat) (n : Nat) :
    Nat → Nat → Nat → Option α → Option α
  | 0, _, _, best => best
  | fuel + 1, lo, hi, best =>
    if lo < hi then
      let mid := (lo + hi) / 2
      match table[mid]? with
      | none => best
      | some e =>
        if key e ≤ n then search table key n fuel (mid + 1) hi (some e)
        else search table key n fuel lo mid best
    else best

/-- The last entry whose key is at most `n`. -/
def find? {α : Type} (table : Array α) (key : α → Nat) (n : Nat) : Option α :=
  search table key n (table.size.log2 + 2) 0 table.size none

end Vigil.Text.Table

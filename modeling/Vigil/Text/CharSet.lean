import Vigil.Text.CaseVariants
import Vigil.Text.Ranges

/-!
# Sets of characters

Sets are written as expressions over ranges and tables. Membership is computed from the
expression, so the laws of the operations hold by definition. A set may be closed under changes
of case: it then holds a character as soon as it holds one that differs from it in case only.
-/

set_option autoImplicit false

namespace Vigil.Text

/-- How far characters are the same up to case. -/
inductive CaseRule where
  | ascii | unicode
  deriving DecidableEq, Repr

/-- The characters that differ from `c` in case only. -/
def CaseRule.variants : CaseRule → Char → List Char
  | .ascii, c => asciiVariants c
  | .unicode, c => caseVariants c

/-- A set of characters. -/
inductive CharSet where
  /-- The code points from the first to the last. -/
  | span (first last : Nat)
  | table (ranges : Ranges)
  | union (a b : CharSet)
  | inter (a b : CharSet)
  | diff (a b : CharSet)
  | compl (a : CharSet)
  /-- The closure under changes of case. -/
  | anyCase (rule : CaseRule) (a : CharSet)
  deriving Inhabited

namespace CharSet

/-- The set without characters. -/
def empty : CharSet := .span 1 0

/-- The set of all characters. -/
def all : CharSet := .span 0 0x10FFFF

/-- The set of one character. -/
def single (c : Char) : CharSet := .span c.toNat c.toNat

/-- The union of some sets. -/
def unionAll : List CharSet → CharSet
  | [] => empty
  | s :: r => r.foldl .union s

/-- Whether a character is in a set. -/
def contains : CharSet → Char → Bool
  | .span first last, c => first ≤ c.toNat && c.toNat ≤ last
  | .table r, c => r.contains c
  | .union a b, c => a.contains c || b.contains c
  | .inter a b, c => a.contains c && b.contains c
  | .diff a b, c => a.contains c && !b.contains c
  | .compl a, c => !a.contains c
  | .anyCase rule a, c => a.contains c || (rule.variants c).any a.contains

end CharSet

end Vigil.Text

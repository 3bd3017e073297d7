import Vigil.Text.Property

/-!
# Patterns

What a pattern matches, as a tree over single characters. Alternatives are tried in order and
repetitions are greedy or not, so a text has one preferred match; groups mark parts of it.
-/

set_option autoImplicit false

namespace Vigil

open Text (CharSet)

/-- Conditions on a place between two characters. -/
inductive Boundary where
  | textStart | textEnd
  | lineStart | lineEnd
  /-- Lines that end in a carriage return, a line feed, or both. -/
  | anyLineStart | anyLineEnd
  /-- One of the neighbours is a word character of the set and the other is not. -/
  | word (inWord : CharSet)
  | notWord (inWord : CharSet)
  | wordStart (inWord : CharSet)
  | wordEnd (inWord : CharSet)
  | wordStartHalf (inWord : CharSet)
  | wordEndHalf (inWord : CharSet)

namespace Boundary

/-- Whether a neighbour is there and in the set. -/
def among (s : CharSet) : Option Char → Bool
  | none => false
  | some c => s.contains c

/-- Whether a condition holds between two neighbours. -/
def holds : Boundary → Option Char → Option Char → Bool
  | .textStart, before, _ => before.isNone
  | .textEnd, _, after => after.isNone
  | .lineStart, before, _ => before.isNone || before == some '\n'
  | .lineEnd, _, after => after.isNone || after == some '\n'
  | .anyLineStart, before, after =>
    before.isNone || before == some '\n' || (before == some '\r' && after != some '\n')
  | .anyLineEnd, before, after =>
    after.isNone || after == some '\r' || (after == some '\n' && before != some '\r')
  | .word s, before, after => among s before != among s after
  | .notWord s, before, after => among s before == among s after
  | .wordStart s, before, after => !among s before && among s after
  | .wordEnd s, before, after => among s before && !among s after
  | .wordStartHalf s, before, _ => !among s before
  | .wordEndHalf s, _, after => !among s after

end Boundary

/-- A pattern. -/
inductive Pattern where
  | empty
  | one (set : CharSet)
  | boundary (b : Boundary)
  /-- The part of a match that the inner pattern takes, under a number from one. -/
  | group (number : Nat) (inner : Pattern)
  | seq (first second : Pattern)
  | either (first second : Pattern)
  /-- From `least` up to `most` times, as often as possible if greedy, else as rarely. -/
  | repeated (least : Nat) (most : Option Nat) (greedy : Bool) (inner : Pattern)
  deriving Inhabited

namespace Pattern

/-- The patterns of a list, one after the other. -/
def seqAll : List Pattern → Pattern
  | [] => .empty
  | [p] => p
  | p :: q :: r => .seq p (seqAll (q :: r))

/-- The patterns of a list as alternatives. -/
def eitherAll : List Pattern → Pattern
  | [] => .empty
  | [p] => p
  | p :: q :: r => .either p (eitherAll (q :: r))

/-- Whether a pattern takes at least one character. -/
def takesSome : Pattern → Bool
  | .empty | .boundary _ => false
  | .one _ => true
  | .group _ p => p.takesSome
  | .seq p q => p.takesSome || q.takesSome
  | .either p q => p.takesSome && q.takesSome
  | .repeated least _ _ p => least != 0 && p.takesSome

/-- Whether a pattern never takes a character. -/
def takesNone : Pattern → Bool
  | .empty | .boundary _ => true
  | .one _ => false
  | .group _ p => p.takesNone
  | .seq p q => p.takesNone && q.takesNone
  | .either p q => p.takesNone && q.takesNone
  | .repeated _ _ _ p => p.takesNone

/-- The repetition of a pattern. One that never takes a character need not be repeated more
than once, no times is nothing, and once is the pattern itself. -/
def repeating (least : Nat) (most : Option Nat) (greedy : Bool) (p : Pattern) : Pattern :=
  let least := if p.takesNone then min least 1 else least
  let most := if p.takesNone then some (min (most.getD 1) 1) else most
  if most = some 0 then .empty
  else if least = 1 ∧ most = some 1 then p
  else .repeated least most greedy p

/-- The largest number of a group. -/
def groups : Pattern → Nat
  | .empty | .boundary _ | .one _ => 0
  | .group n p => max n p.groups
  | .seq p q | .either p q => max p.groups q.groups
  | .repeated _ _ _ p => p.groups

end Pattern

end Vigil

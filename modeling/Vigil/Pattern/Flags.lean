import Vigil.Pattern.Basic

/-!
# Flags of patterns

Flags change what the characters of a pattern mean. They hold up to the end of the group in
which they are set, or for one group only.
-/

set_option autoImplicit false

namespace Vigil.Pattern

open Text (CharSet)

/-- The flags that hold at a place of a pattern. -/
structure Flags where
  /-- Letters stand for themselves in either case. -/
  anyCase : Bool := false
  /-- `^` and `$` hold at the ends of lines. -/
  lines : Bool := false
  /-- `.` stands for line feeds too. -/
  dotAll : Bool := false
  /-- Repetitions are greedy with a question mark and not without. -/
  swapGreed : Bool := false
  /-- Classes and case are those of all characters, not of ASCII only. -/
  unicode : Bool := true
  /-- Lines may end in a carriage return. -/
  returns : Bool := false
  /-- Blanks and comments in the pattern mean nothing. -/
  spaced : Bool := false
  deriving DecidableEq, Repr, Inhabited

namespace Flags

/-- Sets the flag with this letter. -/
def set (f : Flags) (letter : Char) (value : Bool) : Flags :=
  if letter = 'i' then { f with anyCase := value }
  else if letter = 'm' then { f with lines := value }
  else if letter = 's' then { f with dotAll := value }
  else if letter = 'U' then { f with swapGreed := value }
  else if letter = 'u' then { f with unicode := value }
  else if letter = 'R' then { f with returns := value }
  else if letter = 'x' then { f with spaced := value }
  else f

/-- The letters of flags. -/
def letters : List Char := ['i', 'm', 's', 'U', 'u', 'R', 'x']

/-- Which characters differ in case only. -/
def caseRule (f : Flags) : Text.CaseRule := if f.unicode then .unicode else .ascii

/-- A set as it is meant where letters may stand for either case. -/
def cased (f : Flags) (s : CharSet) : CharSet := if f.anyCase then .anyCase f.caseRule s else s

/-- The complement of a set. Over ASCII only there is none, since it would hold parts of other
characters. -/
def complement? (f : Flags) (s : CharSet) : Option CharSet :=
  if f.unicode then some (.compl s) else none

/-- A set or its complement. -/
def negatedIf (f : Flags) (negated : Bool) (s : CharSet) : Option CharSet :=
  if negated then f.complement? s else some s

/-- Decimal digits. -/
def digitSet (f : Flags) : CharSet := if f.unicode then Text.digits else .span 48 57

/-- Blank characters. -/
def blankSet (f : Flags) : CharSet :=
  if f.unicode then Text.blanks else .union (.span 9 13) (.single ' ')

/-- Word characters. -/
def wordSet (f : Flags) : CharSet :=
  if f.unicode then Text.wordCharacters
  else .unionAll [.span 48 57, .span 65 90, .single '_', .span 97 122]

/-- What a dot stands for. -/
def dot? (f : Flags) : Option CharSet :=
  if !f.unicode then none
  else if f.dotAll then some .all
  else if f.returns then some (.compl (.union (.single '\n') (.single '\r')))
  else some (.compl (.single '\n'))

/-- What `^` stands for. -/
def startBoundary (f : Flags) : Boundary :=
  if !f.lines then .textStart else if f.returns then .anyLineStart else .lineStart

/-- What `$` stands for. -/
def endBoundary (f : Flags) : Boundary :=
  if !f.lines then .textEnd else if f.returns then .anyLineEnd else .lineEnd

end Flags

end Vigil.Pattern

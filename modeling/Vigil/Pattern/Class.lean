import Vigil.Pattern.Escape

/-!
# Classes in patterns

A class is a set of characters between brackets: single characters, ranges, escapes, named
classes and further classes, with intersection, difference and symmetric difference between
them, all of which bind alike and from the left. What is being read is kept on a stack, one
entry for each open bracket and each operation that waits for its second operand.
-/

set_option autoImplicit false

namespace Vigil.Pattern

open Text (CharSet)
open Scan

/-- Operations on classes. -/
inductive SetOp where
  | intersection | difference | symmetricDifference
  deriving DecidableEq, Repr

/-- The set that an operation makes. -/
def SetOp.apply : SetOp → CharSet → CharSet → CharSet
  | .intersection, a, b => .inter a b
  | .difference, a, b => .diff a b
  | .symmetricDifference, a, b => .union (.diff a b) (.diff b a)

/-- A set with how deep its notation nests. -/
structure Nested where
  set : CharSet
  depth : Nat

/-- The items of a class read so far: their union, how many there are, and how deep the
deepest nests. -/
structure Items where
  set : CharSet := .empty
  count : Nat := 0
  depth : Nat := 0

namespace Items

/-- Adds an item. -/
def add (i : Items) (n : Nested) : Items :=
  ⟨if i.count = 0 then n.set else .union i.set n.set, i.count + 1, max i.depth n.depth⟩

/-- The items as one set. -/
def toNested (i : Items) : Nested := ⟨i.set, if i.count ≥ 2 then i.depth + 1 else i.depth⟩

end Items

/-- What waits while a class is read. -/
inductive Waiting where
  /-- An open bracket, and the items before it. -/
  | bracket (before : Items) (negated : Bool)
  /-- An operation, and its first operand. -/
  | operand (op : SetOp) (first : Nested)

/-- Applies an operation that waits for the operand that is now complete. -/
def settle : List Waiting → Nested → List Waiting × Nested
  | .operand op a :: stack, b => (stack, ⟨op.apply a.set b.set, max a.depth b.depth + 1⟩)
  | stack, b => (stack, b)

/-- The named classes of ASCII characters. -/
def asciiClass? (name : String) : Option CharSet :=
  let lower : CharSet := .span 97 122
  let upper : CharSet := .span 65 90
  let digit : CharSet := .span 48 57
  let alpha : CharSet := .union upper lower
  let alnum : CharSet := .union digit alpha
  if name = "alnum" then some alnum
  else if name = "alpha" then some alpha
  else if name = "ascii" then some (.span 0 127)
  else if name = "blank" then some (.union (.single '\t') (.single ' '))
  else if name = "cntrl" then some (.union (.span 0 31) (.span 127 127))
  else if name = "digit" then some digit
  else if name = "graph" then some (.span 33 126)
  else if name = "lower" then some lower
  else if name = "print" then some (.span 32 126)
  else if name = "punct" then
    some (.unionAll [.span 33 47, .span 58 64, .span 91 96, .span 123 126])
  else if name = "space" then some (.union (.span 9 13) (.single ' '))
  else if name = "upper" then some upper
  else if name = "word" then some (.union alnum (.single '_'))
  else if name = "xdigit" then some (.unionAll [digit, .span 65 70, .span 97 102])
  else none

/-- A named class such as `[:alpha:]` at the beginning of a text, whether it is negated, and
what follows it. Anything else in brackets is no named class. -/
def namedClass? : List Char → Option (CharSet × Bool × List Char)
  | '[' :: ':' :: r =>
    let negated := r.head? = some '^'
    let body := if negated then r.tail else r
    match body.dropWhile (· != ':') with
    | ':' :: ']' :: rest =>
      (asciiClass? (String.ofList (body.takeWhile (· != ':')))).map (·, negated, rest)
    | _ => none
  | _ => none

/-- One end of a range, or an item of its own. -/
def classItem (f : Flags) : Scan Escaped := do
  match ← next with
  | '\\' => escape f
  | c => return .char c false

/-- A character in a class. Over ASCII only, there are no others. -/
def classChar (f : Flags) : Escaped → Scan Char
  | .char c byte =>
    if (literal? f c byte).isNone || (!f.unicode && c.toNat > 0x7F) then failure else return c
  | _ => failure

/-- An item that is not the end of a range. -/
def soleItem (f : Flags) : Escaped → Scan CharSet
  | .chars s => return s
  | e => do return .single (← classChar f e)

/-- Reads a character, an escape or a range. -/
def classRange (f : Flags) : Scan CharSet := do
  let first ← classItem f
  space f
  match ← peek? with
  | none => failure
  | some '-' =>
    let behind := (← get).tail
    let behind := if f.spaced then skipBlanks false behind else behind
    if behind.head? = some ']' ∨ behind.head? = some '-' then soleItem f first
    else
      let _ ← nextSpaced f
      notAtEnd
      let last ← classItem f
      let a ← classChar f first
      let b ← classChar f last
      if a.toNat ≤ b.toNat then return .span a.toNat b.toNat else failure
  | some _ => soleItem f first

/-- Reads hyphens that stand for themselves. -/
def leadingHyphens (f : Flags) : Nat → Items → Scan Items
  | 0, items => return items
  | fuel + 1, items => do
    if (← peek?) = some '-' then
      let _ ← nextSpaced f
      notAtEnd
      leadingHyphens f fuel (items.add ⟨.single '-', 0⟩)
    else return items

/-- Reads an opening bracket, the sign of negation, and hyphens or a closing bracket that stand
for themselves because nothing is in front of them. -/
def openBracket (f : Flags) : Scan (Items × Bool) := do
  let _ ← nextSpaced f
  let negated := (← peek?) = some '^'
  if negated then
    let _ ← nextSpaced f
  notAtEnd
  let items ← leadingHyphens f ((← get).length + 1) {}
  if items.count = 0 ∧ (← peek?) = some ']' then
    let _ ← nextSpaced f
    notAtEnd
    return (items.add ⟨.single ']', 0⟩, negated)
  else return (items, negated)

/-- The operation whose sign comes next. -/
def setOp? : List Char → Option SetOp
  | '&' :: '&' :: _ => some .intersection
  | '-' :: '-' :: _ => some .difference
  | '~' :: '~' :: _ => some .symmetricDifference
  | _ => none

/-- The set between two brackets. -/
def bracketed (f : Flags) (negated : Bool) (n : Nested) : Scan Nested :=
  match f.negatedIf negated (f.cased n.set) with
  | none => failure
  | some s => return ⟨s, n.depth + 1⟩

/-- Reads on in a class; `stack` holds at least the outermost bracket. -/
def classBody (f : Flags) : Nat → List Waiting → Items → Scan Nested
  | 0, _, _ => failure
  | fuel + 1, stack, items => do
    space f
    let cs ← get
    match cs.head? with
    | none => failure
    | some '[' =>
      match namedClass? cs with
      | some (s, negated, rest) =>
        set rest
        match f.negatedIf negated (f.cased s) with
        | none => failure
        | some s => classBody f fuel stack (items.add ⟨s, 0⟩)
      | none =>
        let (inner, negated) ← openBracket f
        classBody f fuel (.bracket items negated :: stack) inner
    | some ']' =>
      let _ ← next
      match settle stack items.toNested with
      | (.bracket before negated :: rest, n) =>
        let n ← bracketed f negated n
        if rest.isEmpty then return n else classBody f fuel rest (before.add n)
      | _ => failure
    | some _ =>
      match setOp? cs with
      | some op =>
        set (cs.drop 2)
        let (stack, n) := settle stack items.toNested
        classBody f fuel (.operand op n :: stack) {}
      | none => classBody f fuel stack (items.add ⟨← classRange f, 0⟩)

/-- Reads a class; its opening bracket comes next. -/
def readClass (f : Flags) : Scan Nested := do
  let (items, negated) ← openBracket f
  classBody f ((← get).length + 1) [.bracket {} negated] items

end Vigil.Pattern

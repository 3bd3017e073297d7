import Vigil.Pattern.Class

/-!
# Reading patterns

The notation of patterns: alternatives of sequences of repeated items, an item being a
character, a dot, a class, an escape, a condition, or a group. Open groups are kept on a stack.
Patterns may not nest deeper than `maxDepth`.
-/

set_option autoImplicit false

namespace Vigil.Pattern

open Scan

/-- A pattern with how deep its notation nests. -/
structure Deep where
  pattern : Pattern
  depth : Nat := 0

/-- A part of a sequence. A setting of flags matches nothing and cannot be repeated. -/
inductive Part where
  | item (d : Deep)
  | setting

/-- The pattern of a part. -/
def Part.deep : Part → Deep
  | .item d => d
  | .setting => ⟨.empty, 0⟩

/-- The deepest of some depths. -/
def deepest (ds : List Deep) : Nat := ds.foldl (fun m d => max m d.depth) 0

/-- How deep some parts nest together. -/
def jointDepth (ds : List Deep) : Nat :=
  if ds.length ≥ 2 then deepest ds + 1 else deepest ds

/-- The pattern of a sequence whose parts are given backwards. -/
def sequence (parts : List Part) : Deep :=
  let ds := parts.reverse.map Part.deep
  ⟨seqAll (ds.map (·.pattern)), jointDepth ds⟩

/-- The pattern of alternatives that are given backwards. -/
def alternatives (ds : List Deep) : Deep :=
  ⟨eitherAll (ds.reverse.map (·.pattern)), jointDepth ds⟩

/-- An open group: its number if it has one, the flags to return to behind it, and what stands
before it. -/
structure OpenGroup where
  number? : Option Nat
  flags : Flags
  arms : List Deep
  parts : List Part

/-- What has been read of a pattern: the flags that hold, the groups so far and their names,
the open groups, and within the innermost the alternatives and the parts of the last one. -/
structure State where
  flags : Flags := {}
  groups : Nat := 0
  names : List (List Char) := []
  opened : List OpenGroup := []
  arms : List Deep := []
  parts : List Part := []

namespace State

/-- Adds an item to the sequence being read. -/
def add (s : State) (p : Pattern) (depth : Nat) : State :=
  { s with parts := .item ⟨p, depth⟩ :: s.parts }

/-- What the innermost group matches. -/
def body (s : State) : Deep := alternatives (sequence s.parts :: s.arms)

/-- Opens a group. -/
def opening (s : State) (number? : Option Nat) (flags : Flags) : State :=
  { s with
    flags, opened := ⟨number?, s.flags, s.arms, s.parts⟩ :: s.opened, arms := [], parts := [] }

/-- Closes the innermost group. -/
def closing? (s : State) : Option State :=
  match s.opened with
  | [] => none
  | g :: rest =>
    let d := s.body
    let p := match g.number? with
      | some n => .group n d.pattern
      | none => d.pattern
    some { s with
      flags := g.flags, opened := rest, arms := g.arms,
      parts := .item ⟨p, d.depth + 1⟩ :: g.parts }

end State

/-- Characters in the names of groups. -/
def isGroupNameChar (first : Bool) (c : Char) : Bool :=
  c == '_' || Text.alphabetic.contains c ||
    (!first && (c == '.' || c == '[' || c == ']' || Text.numeric.contains c))

/-- Reads the name of a group up to the bracket that ends it. -/
def groupName (s : State) : Scan (List Char) := do
  let cs ← get
  let name := cs.takeWhile (· != '>')
  set (cs.drop name.length)
  let _ ← next
  match name with
  | [] => failure
  | c :: r =>
    if isGroupNameChar true c && r.all (isGroupNameChar false) && !s.names.contains name then
      return name
    else failure

/-- The flags that letters set, and those behind a hyphen unset; no letter may come twice, and
behind the hyphen there has to be one. -/
def flagLetters : Bool → List Char → List Char → Flags → Option Flags
  | _, _, [], f => some f
  | unset, seen, c :: r, f =>
    if seen.contains c then none
    else if c = '-' then if r.isEmpty then none else flagLetters true (c :: seen) r f
    else if Flags.letters.contains c then flagLetters unset (c :: seen) r (f.set c !unset)
    else none

/-- Reads what follows an opening parenthesis. -/
def openGroup (s : State) : Scan State := do
  let _ ← nextSpaced s.flags
  if (← accept ['?', '=']) || (← accept ['?', '!']) || (← accept ['?', '<', '=']) ||
      (← accept ['?', '<', '!']) then
    failure
  else if (← accept ['?', 'P', '<']) || (← accept ['?', '<']) then
    let name ← groupName s
    let n := s.groups + 1
    return { s with groups := n, names := name :: s.names }.opening (some n) s.flags
  else if ← accept ['?'] then
    let cs ← get
    let letters := cs.takeWhile fun c => c != ':' && c != ')'
    set (cs.drop letters.length)
    let last ← next
    match flagLetters false [] letters s.flags with
    | none => failure
    | some f =>
      if last = ')' then
        if letters.isEmpty then failure
        return { s with flags := f, parts := .setting :: s.parts }
      else return s.opening none f
  else
    let n := s.groups + 1
    return { s with groups := n }.opening (some n) s.flags

/-- Repeats the last item of the sequence being read. -/
def repeatLast (s : State) (least : Nat) (most : Option Nat) (lazy : Bool) : Scan State :=
  match s.parts with
  | .item d :: rest =>
    let greedy := lazy == s.flags.swapGreed
    return { s with
      parts := .item ⟨repeating least most greedy d.pattern, d.depth + 1⟩ :: rest }
  | _ => failure

/-- Reads a number between the braces of a repetition; blanks around it mean nothing. -/
def count (f : Flags) : Scan Nat := do
  modify (·.dropWhile Text.isBlank)
  let digits ← readWhile f Char.isDigit
  modify (·.dropWhile Text.isBlank)
  space f
  let n := digits.foldl (fun n d => n * 10 + (d.toNat - 48)) 0
  if digits.isEmpty || n ≥ UInt32.size then failure
  return n

/-- Reads the bounds of a repetition up to the closing brace. -/
def counts (f : Flags) : Scan (Nat × Option Nat) := do
  let _ ← nextSpaced f
  notAtEnd
  let least ← count f
  match ← peek? with
  | some ',' =>
    let _ ← nextSpaced f
    match ← peek? with
    | none => failure
    | some '}' => return (least, none)
    | some _ =>
      let most ← count f
      if least ≤ most then return (least, some most) else failure
  | _ => return (least, some least)

/-- Reads a repetition in braces. -/
def countedRepeat (s : State) : Scan State := do
  let (least, most) ← counts s.flags
  if (← peek?) != some '}' then failure
  let _ ← nextSpaced s.flags
  repeatLast s least most (← accept ['?'])

/-- Reads a repetition by a single sign. -/
def signedRepeat (s : State) (least : Nat) (most : Option Nat) : Scan State := do
  let _ ← next
  repeatLast s least most (← accept ['?'])

/-- Reads an escape outside classes. -/
def escapedItem (s : State) : Scan State := do
  match ← escape s.flags with
  | .boundary b => return s.add (.boundary b) 0
  | .chars set => return s.add (.one set) 0
  | .char c byte =>
    match literal? s.flags c byte with
    | none => failure
    | some set => return s.add (.one (s.flags.cased set)) 0

/-- Reads on by one item, sign or parenthesis. -/
def readOne (s : State) (c : Char) : Scan State := do
  if c = '(' then openGroup s
  else if c = ')' then
    let _ ← next
    match s.closing? with
    | none => failure
    | some s => return s
  else if c = '|' then
    let _ ← next
    return { s with arms := sequence s.parts :: s.arms, parts := [] }
  else if c = '[' then
    let n ← readClass s.flags
    return s.add (.one n.set) n.depth
  else if c = '?' then signedRepeat s 0 (some 1)
  else if c = '*' then signedRepeat s 0 none
  else if c = '+' then signedRepeat s 1 none
  else if c = '{' then countedRepeat s
  else
    let _ ← next
    if c = '\\' then escapedItem s
    else if c = '.' then
      match s.flags.dot? with
      | none => failure
      | some set => return s.add (.one set) 0
    else if c = '^' then return s.add (.boundary s.flags.startBoundary) 0
    else if c = '$' then return s.add (.boundary s.flags.endBoundary) 0
    else return s.add (.one (s.flags.cased (.single c))) 0

/-- Reads up to the end of a pattern. -/
def readAll : Nat → State → Scan State
  | 0, _ => failure
  | fuel + 1, s => do
    space s.flags
    match ← peek? with
    | none => return s
    | some c => readAll fuel (← readOne s c)

/-- How deep a pattern may nest. -/
def maxDepth : Nat := 250

/-- The pattern that a text describes, unless it is malformed. -/
def ofText? (text : String) : Option Pattern := do
  let (s, _) ← readAll (text.toList.length + 1) {} text.toList
  if s.opened.isEmpty && s.body.depth ≤ maxDepth then some s.body.pattern else none

end Vigil.Pattern

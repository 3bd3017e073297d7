import Vigil.Pattern.Program

/-!
# Matching

The threads of a program advance through a text together, in order of preference, and at each
place of the text every instruction is reached by at most one thread, the most preferred one
that reaches it. So the work is bounded by the size of the program times that of the text. The
match that is found is the leftmost one, and among those that begin there the preferred one.
-/

set_option autoImplicit false

namespace Vigil.Pattern

/-- The places a thread has noted, by mark; the latest comes first. -/
abbrev Marks := List (Nat × Nat)

/-- A thread: the next instruction, and the places noted so far. -/
structure Thread where
  next : Nat
  marks : Marks
  deriving Inhabited

/-- A place in a text. -/
structure Place where
  index : Nat
  before : Option Char
  after : Option Char

/-- Notes the place of a mark. -/
def Marks.note (marks : Marks) (number place : Nat) : Marks :=
  (number, place) :: marks.filter fun m => m.1 != number

/-- Carries threads on, in order of preference, up to the instructions that take a character
or accept. `seen` tells which instructions have been reached at this place, by its index plus
one; `fuel` bounds the number of steps. -/
def advance (code : Array Instr) (place : Place) :
    Nat → List Thread → Array Nat → List Thread → List Thread × Array Nat
  | 0, _, seen, done => (done.reverse, seen)
  | _, [], seen, done => (done.reverse, seen)
  | fuel + 1, t :: rest, seen, done =>
    if seen[t.next]? = some (place.index + 1) then advance code place fuel rest seen done
    else
      let seen := seen.setIfInBounds t.next (place.index + 1)
      match code[t.next]? with
      | none => advance code place fuel rest seen done
      | some (.take _) | some .accept => advance code place fuel rest seen (t :: done)
      | some (.require b) =>
        if b.holds place.before place.after then
          advance code place fuel ({ t with next := t.next + 1 } :: rest) seen done
        else advance code place fuel rest seen done
      | some (.mark n) =>
        advance code place fuel (⟨t.next + 1, t.marks.note n place.index⟩ :: rest) seen done
      | some (.fork a b) =>
        advance code place fuel ({ t with next := a } :: { t with next := b } :: rest) seen done
      | some (.jump a) => advance code place fuel ({ t with next := a } :: rest) seen done

/-- Lets the threads at a place take the character there, in order. The first thread that
accepts gives a match, and those it is preferred to are dropped. -/
def takeChar (code : Array Instr) (c : Option Char) :
    List Thread → List Thread → List Thread × Option Marks
  | [], done => (done.reverse, none)
  | t :: rest, done =>
    match code[t.next]? with
    | some .accept => (done.reverse, some t.marks)
    | some (.take s) =>
      if c.any s.contains then takeChar code c rest (⟨t.next + 1, t.marks⟩ :: done)
      else takeChar code c rest done
    | _ => takeChar code c rest done

/-- Follows the threads through the rest of a text. `best` is the preferred match so far; while
there is none, a thread begins at each place. -/
def follow (code : Array Instr) (index : Nat) (before : Option Char) (threads : List Thread)
    (seen : Array Nat) (best : Option Marks) (text : List Char) : Option Marks :=
  let threads := if best.isNone then threads ++ [⟨0, []⟩] else threads
  if threads.isEmpty then best
  else
    let (ready, seen) := advance code ⟨index, before, text.head?⟩
      (threads.length + 2 * code.size) threads seen []
    let (moved, found) := takeChar code text.head? ready []
    let best := found.orElse fun _ => best
    match text with
    | [] => best
    | c :: rest => follow code (index + 1) (some c) moved seen best rest

/-- The marks of the leftmost preferred match in a text. -/
def search (p : Pattern) (text : List Char) : Option Marks :=
  let code := p.program
  follow code 0 none [] (Array.replicate code.size 0) none text

/-- The characters that a group takes, if it takes part in the match. -/
def captured? (marks : Marks) (text : List Char) (group : Nat) : Option (List Char) :=
  match marks.lookup (2 * group), marks.lookup (2 * group + 1) with
  | some first, some last => some ((text.take last).drop first)
  | _, _ => none

end Vigil.Pattern

import Vigil.Pattern.Basic

/-!
# Programs for patterns

A pattern as a list of instructions for a machine that follows several threads through a text
at once. Where a thread forks, the first of the two places is the preferred one.
-/

set_option autoImplicit false

namespace Vigil

open Text (CharSet)

/-- An instruction. Execution goes on behind it unless it says otherwise. -/
inductive Instr where
  /-- Take a character of the set. -/
  | take (set : CharSet)
  | require (b : Boundary)
  /-- Note the place: the beginning of a group at an even mark, its end at the next odd one. -/
  | mark (number : Nat)
  | fork (preferred other : Nat)
  | jump (target : Nat)
  | accept
  deriving Inhabited

namespace Pattern

/-- The number of instructions for a pattern. -/
def size : Pattern → Nat
  | .empty => 0
  | .one _ | .boundary _ => 1
  | .group _ p => p.size + 2
  | .seq p q => p.size + q.size
  | .either p q => p.size + q.size + 2
  | .repeated least none _ p => if least = 0 then p.size + 2 else least * p.size + 1
  | .repeated least (some most) _ p => least * p.size + (most - least) * (p.size + 1)

/-- The number of bytes that an instruction is reckoned at. -/
def instrBytes : Nat := 32

/-- The number of bytes that a program may have. -/
def maxBytes : Nat := 10 * 1024 * 1024

/-- Whether the program for a pattern is larger than programs may be. -/
def isOversized (p : Pattern) : Bool := p.size * instrBytes > maxBytes

/-- A fork at a repetition: on into it or out of it. -/
def forkTo (greedy : Bool) (into out : Nat) : Instr :=
  if greedy then .fork into out else .fork out into

/-- Adds what `step` adds, a number of times. -/
def times (step : Array Instr → Array Instr) : Nat → Array Instr → Array Instr
  | 0, code => code
  | n + 1, code => times step n (step code)

/-- Adds the instructions for a pattern. -/
def emit : Pattern → Array Instr → Array Instr
  | .empty, code => code
  | .one set, code => code.push (.take set)
  | .boundary b, code => code.push (.require b)
  | .group n p, code => (emit p (code.push (.mark (2 * n)))).push (.mark (2 * n + 1))
  | .seq p q, code => emit q (emit p code)
  | .either p q, code =>
    let start := code.size
    let other := start + 1 + p.size + 1
    let code := emit p (code.push (.fork (start + 1) other))
    emit q (code.push (.jump (other + q.size)))
  | .repeated least none greedy p, code =>
    if least = 0 then
      let start := code.size
      let out := start + 1 + p.size + 1
      let code := emit p (code.push (forkTo greedy (start + 1) out))
      if p.takesSome then code.push (.jump start)
      else code.push (forkTo greedy (start + 1) out)
    else
      let code := times (emit p) (least - 1) code
      let start := code.size
      let code := emit p code
      code.push (forkTo greedy start (code.size + 1))
  | .repeated least (some most) greedy p, code =>
    let code := times (emit p) least code
    let out := code.size + (most - least) * (p.size + 1)
    times (fun code => emit p (code.push (forkTo greedy (code.size + 1) out))) (most - least)
      code

/-- The program for a pattern; the marks of the whole match come first and last. -/
def program (p : Pattern) : Array Instr := (emit (.group 0 p) #[]).push .accept

end Pattern

end Vigil

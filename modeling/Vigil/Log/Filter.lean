import Vigil.Log.Event
import Vigil.Text.Blank
import Vigil.Text.Property

/-!
# Log filters

A filter is a list of directives with commas between them. A directive is the name or the number
of a level, or the name of a part of the service, with or without a level. Of the directives whose
name the name of an event's part begins with, the longest decides, and of those alike the last:
the event has to be at least as grave as its level. What is no directive is passed over; where
there is none at all, errors are let through.

A directive in brackets is about a stretch of work and not about a part; no event depends on it.
-/

set_option autoImplicit false

namespace Vigil

/-- A directive of a filter. -/
structure Directive where
  /-- The part of the service, or all of it. -/
  target : Option String := none
  /-- The rank of the least grave events let through; zero for none. -/
  level : Nat
  /-- Whether it is about a stretch of work. -/
  isScoped : Bool := false
  deriving DecidableEq, Repr, Inhabited

namespace Directive

/-- The names of the levels, by rank. -/
def levelNames : List String := ["off", "error", "warn", "info", "debug", "trace"]

/-- The value of decimal digits, behind a plus sign or not. -/
def number? (text : List Char) : Option Nat :=
  let digits := match text with
    | '+' :: r => r
    | _ => text
  if !digits.isEmpty && digits.all Char.isDigit then
    some (digits.foldl (fun n d => n * 10 + (d.toNat - 48)) 0)
  else none

/-- The rank of the level that a text names. -/
def levelOf? (text : List Char) : Option Nat :=
  match number? text with
  | some n => if n < 6 then some n else none
  | none => levelNames.findIdx? fun name => name.toList == text.map Char.toLower

/-- The rank of a level behind an equals sign; nothing stands for all levels. -/
def levelAfter? (text : List Char) : Option Nat :=
  if text.isEmpty then some 5 else levelOf? text

/-- Characters that a directive may begin with. -/
def isLead (c : Char) : Bool :=
  c == '-' || c == ':' || c == '_' || Text.alphabetic.contains c || Text.numeric.contains c

/-- Whether a text is what follows a scope: a closing bracket, and perhaps a level. -/
def afterScope? : List Char → Option Nat
  | [] => some 5
  | '=' :: r => levelAfter? r
  | _ => none

/-- Reads a scope behind its opening bracket: a name, fields in braces or both. -/
def scope? (target : Option String) (text : List Char) : Option Directive := do
  match text.dropWhile fun c => c != ']' && c != '\x7b' with
  | ']' :: r => return { target, level := ← afterScope? r, isScoped := true }
  | _ :: r =>
    match r.dropWhile (· != '\x7d') with
    | '\x7d' :: ']' :: rest =>
      if r.head? = some '\x7d' then none
      else return { target, level := ← afterScope? rest, isScoped := true }
    | _ => none
  | [] => none

/-- The directive that a text is. The marks in it are looked for without the blanks at its ends,
and the parts are then cut out of the text at those places. -/
def ofText? (text : List Char) : Option Directive :=
  let inner := Text.trimChars text
  match inner with
  | [] => none
  | '[' :: _ => scope? none (inner.drop 1)
  | c :: _ =>
    if !isLead c then none
    else
      let place := (inner.takeWhile fun c => c != '=' && c != '[').length
      let name := some (String.ofList (text.take place))
      match inner[place]? with
      | some '=' =>
        (levelAfter? (text.drop (place + 1))).map fun level => { target := name, level }
      | some _ => scope? name (inner.drop (place + 1))
      | none =>
        match levelOf? text with
        | some level => some { level }
        | none => some { target := some (String.ofList text), level := 5 }

/-- Whether a directive is about events of a part of the service. -/
def concerns (d : Directive) (target : String) : Bool :=
  !d.isScoped && match d.target with
    | some t => t.toList.isPrefixOf target.toList
    | none => true

/-- How narrow the target of a directive is. -/
def width (d : Directive) : Nat :=
  match d.target with
  | some t => t.length + 1
  | none => 0

end Directive

/-- A filter for events. -/
structure LogFilter where
  directives : List Directive
  deriving DecidableEq, Repr, Inhabited

namespace LogFilter

/-- Cuts a text at its commas. -/
def cut : List Char → List (List Char)
  | [] => [[]]
  | c :: r =>
    if c = ',' then [] :: cut r
    else
      match cut r with
      | [] => [[c]]
      | p :: ps => (c :: p) :: ps

/-- The filter that a text is. -/
def ofText (text : String) : LogFilter :=
  match (cut text.toList).filterMap Directive.ofText? with
  | [] => ⟨[{ level := 1 }]⟩
  | ds => ⟨ds⟩

/-- The directive that decides about events of a part of the service. -/
def decisive? (f : LogFilter) (target : String) : Option Directive :=
  (f.directives.filter fun d => d.concerns target).foldl (fun best d =>
    match best with
    | some b => if b.width ≤ d.width then some d else some b
    | none => some d) none

/-- Whether an event is let through. -/
def allows (f : LogFilter) (e : Event) : Bool :=
  match f.decisive? e.target with
  | some d => e.level.rank ≤ d.level
  | none => false

end LogFilter

end Vigil

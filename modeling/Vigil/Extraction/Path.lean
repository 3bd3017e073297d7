import Vigil.Extraction.Fault
import Vigil.Json.Basic
import Vigil.Text.Blank

/-!
# Paths into JSON documents

A path is written as field names behind dots and indices between brackets, such as
`$.items[0].id`; the dollar sign and the first dot may be missing. An index is a whole number
in decimal digits with an optional plus sign and blanks around it. `JsonPath.steps` cuts a path
into its steps, and `JsonPath.select` follows them.
-/

set_option autoImplicit false

namespace Vigil

/-- One step into a JSON document. -/
inductive PathStep where
  | field (name : String)
  | index (i : Nat)
  deriving DecidableEq, Repr

namespace JsonPath

/-- The value of decimal digits. -/
def decimal (digits : List Char) : Nat :=
  digits.foldl (fun n d => n * 10 + (d.toNat - 48)) 0

/-- The number in decimal digits that a text spells, if it fits 64 bits. -/
def unsigned? (text : List Char) : Option Nat :=
  let digits := match text with
    | '+' :: r => r
    | _ => text
  if !digits.isEmpty && digits.all Char.isDigit && decimal digits < UInt64.size then
    some (decimal digits)
  else none

/-- The index that stands between brackets. -/
def readIndex (text : List Char) : Except ExtractionFault Nat :=
  match unsigned? (Text.trimChars text) with
  | some i => .ok i
  | none => .error (.invalidIndex (String.ofList text))

/-- The step being read, its characters backwards. -/
inductive Pending where
  | field (name : List Char)
  | index (text : List Char)

/-- Puts a field with this name, written backwards, in front of other steps; an empty name is
no step. -/
def withField (name : List Char) (steps : List PathStep) : List PathStep :=
  if name.isEmpty then steps else .field (String.ofList name.reverse) :: steps

/-- Cuts what is left of a path into steps. A bracket that is not closed goes on to the end. -/
def cut : Pending → List Char → Except ExtractionFault (List PathStep)
  | .field name, [] => .ok (withField name [])
  | .index text, [] => do return [.index (← readIndex text.reverse)]
  | .field name, c :: r =>
    if c = '.' then do return withField name (← cut (.field []) r)
    else if c = '[' then do return withField name (← cut (.index []) r)
    else cut (.field (c :: name)) r
  | .index text, c :: r =>
    if c = ']' then do
      let i ← readIndex text.reverse
      return .index i :: (← cut (.field []) r)
    else cut (.index (c :: text)) r

/-- Cuts a path, less its dollar sign and first dot, into steps. -/
def cutSteps (path : List Char) : Except ExtractionFault (List PathStep) := cut (.field []) path

/-- The text without the given character at its beginning. -/
def dropLead (c : Char) : List Char → List Char
  | d :: r => if d = c then r else d :: r
  | [] => []

/-- The steps of a path. -/
def steps (path : String) : Except ExtractionFault (List PathStep) :=
  cutSteps (dropLead '.' (dropLead '$' (Text.trimChars path.toList)))

/-- Takes one step. -/
def step (v : Json) : PathStep → Except ExtractionFault Json
  | .field name =>
    match v.field? name with
    | some w => .ok w
    | none => .error (.fieldMissing name)
  | .index i =>
    match v.item? i with
    | some w => .ok w
    | none => .error (.indexOutOfBounds i)

/-- The value at a path. -/
def select (v : Json) (path : String) : Except ExtractionFault Json := do
  (← steps path).foldlM step v

end JsonPath

end Vigil

import Vigil.Json.Document
import Vigil.Ordered.Dict

/-!
# Reading values of given types

Decoders read a value of one type straight off a document, so that whatever is wrong first in
the text is reported, be it spelling or type. A record is read from an object, whose unknown
members are passed over, or from an array of its fields in order (`record`).
-/

set_option autoImplicit false

namespace Vigil.Json.Reader

variable {α σ : Type}

/-- Stops because the value that comes next is of another type; its spelling is checked if it
has no brackets. -/
def wrongType (expected : String) : Reader α := do
  match ← token? with
  | none => failPeek .endInValue
  | some b =>
    if b = 110 then do
      advance
      literal nullTail
      mismatch (.wrongType .null expected)
    else if b = 116 then do
      advance
      literal trueTail
      mismatch (.wrongType (.bool true) expected)
    else if b = 102 then do
      advance
      literal falseTail
      mismatch (.wrongType (.bool false) expected)
    else if b = 45 then do
      advance
      mismatch (.wrongType (.ofJson (.number (← number true))) expected)
    else if isDigit b then do
      mismatch (.wrongType (.ofJson (.number (← number false))) expected)
    else if b = 34 then do
      advance
      mismatch (.wrongType (.string (← string)) expected)
    else if b = 91 then mismatch (.wrongType .array expected)
    else if b = 123 then mismatch (.wrongType .object expected)
    else failPeek .valueExpected

/-- The byte that a value begins with. -/
def opening : Reader UInt8 := do
  match ← token? with
  | none => failPeek .endInValue
  | some b => pure b

/-- Reads a string, `expected` being the name of what it is to be. -/
def stringAs (expected : String) : Reader String := do
  if (← opening) = 34 then
    advance
    string
  else wrongType expected

/-- Reads a text. -/
def text : Reader String := stringAs "a string"

/-- Reads a truth value. -/
def bool : Reader Bool := do
  let b ← opening
  if b = 116 then do advance; literal trueTail; pure true
  else if b = 102 then do advance; literal falseTail; pure false
  else wrongType "a boolean"

/-- Reads a whole number below `bound`, `expected` being the name of its type. -/
def natBelow (bound : Nat) (expected : String) : Reader Nat := do
  let b ← opening
  if b = 45 ∨ isDigit b then
    if b = 45 then advance
    match ← number (decide (b = 45)) with
    | .int i =>
      if 0 ≤ i ∧ i < bound then pure i.toNat
      else mismatch (.wrongValue (.int i) expected)
    | .float x => mismatch (.wrongType (.float x) expected)
  else wrongType expected

/-- Reads `null` as nothing and anything else with `reader`. -/
def optional (reader : Reader α) : Reader (Option α) := do
  match ← token? with
  | some 110 => do
    advance
    literal nullTail
    pure none
  | _ => pure (some (← reader))

/-- Enters brackets with `room` levels left. -/
def enter (room : Nat) : Reader Nat :=
  match room with
  | n + 2 => do
    advance
    pure (n + 1)
  | _ => failPeek .nestedTooDeep

/-- Reads an array. -/
def list (room : Nat) (item : Nat → Reader α) : Reader (List α) := do
  if (← opening) = 91 then
    let room ← enter room
    items (item room)
  else wrongType "a sequence"

/-- Reads an object as a dictionary; the last member of a name counts. -/
def dict (room : Nat) (item : Nat → Reader α) : Reader (Dict α) := do
  if (← opening) = 123 then
    let room ← enter room
    members (fun name d => do colon; pure (d.insert name (← item room))) .empty
  else wrongType "a map"

/-- A field of a record that is being put together in `σ`. -/
structure FieldReader (σ : Type) where
  name : String
  /-- Whether a record without the field is refused. -/
  required : Bool
  /-- Whether the field has been read. -/
  isSet : σ → Bool
  /-- Reads the field's value with so many levels of brackets left. -/
  read : Nat → σ → Reader σ

/-- Reads one member of a record. -/
def recordMember (fields : List (FieldReader σ)) (room : Nat) (name : String) (s : σ) :
    Reader σ := do
  match fields.find? fun f => f.name == name with
  | none => do
    colon
    skipValue
    pure s
  | some f =>
    if f.isSet s then mismatchBehind (.duplicateField name)
    else do
      colon
      f.read room s

/-- Checks that the required fields have been read, in order of declaration. -/
def checkFields (s : σ) : List (FieldReader σ) → Reader Unit
  | [] => pure ()
  | f :: r =>
    if f.required && !f.isSet s then mismatch (.missingField f.name) else checkFields s r

/-- Reads the fields of a record in order; `index` is the number read before. -/
def recordItems (expected : String) (room : Nat) :
    List (FieldReader σ) → Nat → Bool → σ → Reader σ
  | [], _, _, s => pure s
  | f :: r, index, more, s => do
    let more ← if more then nextItem (index == 0) else pure false
    if more then recordItems expected room r (index + 1) true (← f.read room s)
    else if f.required then mismatchBehind (.wrongLength index expected)
    else recordItems expected room r (index + 1) false s

/-- Reads a record, from an object or from an array of its fields. -/
def record (type : String) (fields : List (FieldReader σ)) (room : Nat) (init : σ) : Reader σ := do
  let b ← opening
  if b = 91 then
    let room ← enter room
    let expected := type ++ " with " ++ toString fields.length ++ " elements"
    let s ← placing Cursor.pastBracket (recordItems expected room fields 0 true init)
    endArray
    pure s
  else if b = 123 then
    let room ← enter room
    let s ← placing Cursor.pastBrace (members (recordMember fields room) init)
    checkFields s fields
    pure s
  else wrongType type

end Vigil.Json.Reader

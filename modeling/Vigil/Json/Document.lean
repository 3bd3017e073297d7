import Vigil.Json.Skip

/-!
# Reading JSON values

Arrays and objects are read item by item: `items` and `members` see to brackets and commas and
leave each item to the reader they are given. `value` reads any value, brackets nesting at most
127 deep, and `document` a whole text.
-/

set_option autoImplicit false

namespace Vigil.Json

namespace Reader

variable {α σ : Type}

/-- Whether another item follows in an array; the cursor is left on it. -/
def nextItem (first : Bool) : Reader Bool := do
  match ← token? with
  | none => failPeek .endInArray
  | some b =>
    if b = 93 then pure false
    else if first then pure true
    else if b = 44 then do
      advance
      match ← token? with
      | none => failPeek .endInValue
      | some b => if b = 93 then failPeek .trailingComma else pure true
    else failPeek .commaOrBracketExpected

/-- Passes the bracket that ends an array. -/
def endArray : Reader Unit := do
  match ← token? with
  | none => failPeek .endInArray
  | some b =>
    if b = 93 then advance
    else if b = 44 then do
      advance
      match ← token? with
      | some 93 => failPeek .trailingComma
      | _ => failPeek .trailingCharacters
    else failPeek .trailingCharacters

/-- Reads the items of an array behind its opening bracket; `acc` holds those read, backwards. -/
def itemsFrom (item : Reader α) : Nat → Bool → List α → Reader (List α)
  | 0, _, _ => fail .endInArray
  | fuel + 1, first, acc => do
    if ← nextItem first then
      let x ← item
      itemsFrom item fuel false (x :: acc)
    else
      endArray
      pure acc.reverse

/-- Reads the items of an array behind its opening bracket. -/
def items (item : Reader α) : Reader (List α) := do
  itemsFrom item ((← left) + 1) true []

/-- Whether another member follows in an object; the cursor is left on its name. -/
def nextMember (first : Bool) : Reader Bool := do
  match ← token? with
  | none => failPeek .endInObject
  | some b =>
    if b = 125 then pure false
    else if first then
      if b = 34 then pure true else failPeek .nameExpected
    else if b = 44 then do
      advance
      match ← token? with
      | none => failPeek .endInValue
      | some b =>
        if b = 34 then pure true
        else if b = 125 then failPeek .trailingComma
        else failPeek .nameExpected
    else failPeek .commaOrBraceExpected

/-- Passes the colon behind a name. -/
def colon : Reader Unit := do
  match ← token? with
  | none => failPeek .endInObject
  | some b => if b = 58 then advance else failPeek .colonExpected

/-- Passes the brace that ends an object. -/
def endObject : Reader Unit := do
  match ← token? with
  | none => failPeek .endInObject
  | some b =>
    if b = 125 then advance
    else if b = 44 then failPeek .trailingComma
    else failPeek .trailingCharacters

/-- Reads the members of an object behind its opening brace; `step` is given each name, the
cursor being on the colon, and what it made of the members before. -/
def membersFrom (step : String → σ → Reader σ) : Nat → Bool → σ → Reader σ
  | 0, _, _ => fail .endInObject
  | fuel + 1, first, s => do
    if ← nextMember first then
      advance
      let name ← string
      membersFrom step fuel false (← step name s)
    else
      endObject
      pure s

/-- Reads the members of an object behind its opening brace. -/
def members (step : String → σ → Reader σ) (init : σ) : Reader σ := do
  membersFrom step ((← left) + 1) true init

/-- Reads a value whose brackets nest less than `room` deep. -/
def value : Nat → Reader Json
  | 0 => fail .nestedTooDeep
  | room + 1 => do
    match ← token? with
    | none => failPeek .endInValue
    | some b =>
      if b = 110 then do advance; literal nullTail; pure .null
      else if b = 116 then do advance; literal trueTail; pure (.bool true)
      else if b = 102 then do advance; literal falseTail; pure (.bool false)
      else if b = 45 then do advance; pure (.number (← number true))
      else if isDigit b then do pure (.number (← number false))
      else if b = 34 then do advance; pure (.string (← string))
      else if b = 91 then
        if room = 0 then failPeek .nestedTooDeep
        else do
          advance
          pure (.array (← items (value room)))
      else if b = 123 then
        if room = 0 then failPeek .nestedTooDeep
        else do
          advance
          let step (name : String) (ms : List (String × Json)) : Reader (List (String × Json)) :=
            do
              colon
              pure (member name (← value room) ms)
          pure (.object (← members step []))
      else failPeek .valueExpected

/-- How deep brackets may nest, counting one for a value without brackets. -/
def maxRoom : Nat := 128

/-- Nothing but blanks is left. -/
def endOfText : Reader Unit := do
  match ← token? with
  | none => pure ()
  | some _ => failPeek .trailingCharacters

/-- Runs a reader over a whole text. -/
def run (reader : Reader α) (bytes : List UInt8) : Except Error α := do
  let (a, c) ← reader (.start bytes)
  let _ ← endOfText c
  pure a

end Reader

/-- The value that a document holds. -/
def ofBytes (bytes : List UInt8) : Except Error Json :=
  Reader.run (Reader.value Reader.maxRoom) bytes

/-- The value that a text holds. -/
def ofText (text : String) : Except Error Json := ofBytes (Text.encode text)

end Vigil.Json

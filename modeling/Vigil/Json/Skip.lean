import Vigil.Json.Reader

/-!
# Passing over JSON values

A value that nobody wants is passed over without being built. Its brackets may nest to any
depth, numbers of any size are accepted, and escaped surrogates need not pair; only the
spelling is checked.
-/

set_option autoImplicit false

namespace Vigil.Json.Reader

/-- Passes over a string behind its opening quotation mark. -/
def skipString : Nat → Reader Unit
  | 0 => fail .endInString
  | fuel + 1 => do
    match ← peek? with
    | none => fail .endInString
    | some b =>
      if b = 34 then advance
      else if b = 92 then do
        advance
        match ← next? with
        | none => fail .endInString
        | some e =>
          if e = 117 then do
            let _ ← codeUnit
            skipString fuel
          else
            match escapedByte? e with
            | some _ => skipString fuel
            | none => fail .invalidEscape
      else if b < 32 then fail .controlCharacter
      else do
        advance
        skipString fuel

/-- Passes over an exponent, the cursor being on its letter. -/
def skipExponent : Reader Unit := do
  advance
  match ← peek? with
  | some 43 | some 45 => advance
  | _ => pure ()
  match ← next? with
  | some b =>
    if isDigit b then do
      let _ ← digits
    else fail .invalidNumber
  | none => fail .invalidNumber

/-- Passes over a number behind its sign. -/
def skipNumber : Reader Unit := do
  match ← next? with
  | none => fail .invalidNumber
  | some b =>
    if b = 48 then
      match ← peek? with
      | some d => if isDigit d then failPeek .invalidNumber else pure ()
      | none => pure ()
    else if isDigit b then do
      let _ ← digits
    else fail .invalidNumber
  match ← peek? with
  | some 46 => do
    advance
    let ds ← digits
    if ds.isEmpty then failPeek .invalidNumber
    match ← peek? with
    | some 101 | some 69 => skipExponent
    | _ => pure ()
  | some 101 | some 69 => skipExponent
  | _ => pure ()

/-- The kinds of brackets. -/
inductive Bracket where
  | array | object
  deriving DecidableEq, Repr

namespace Bracket

/-- The fault of a text that ends within these brackets. -/
def atEnd : Bracket → Fault
  | .array => .endInArray
  | .object => .endInObject

/-- The fault of two values without a comma between them. -/
def noComma : Bracket → Fault
  | .array => .commaOrBracketExpected
  | .object => .commaOrBraceExpected

/-- The closing byte. -/
def closing : Bracket → UInt8
  | .array => 93
  | .object => 125

end Bracket

/-- Closes brackets behind a value or behind an opening bracket, until another value has to
follow; gives the brackets that are still open, none when the whole value is past. -/
def closeBrackets : Nat → Bool → List Bracket → Reader (List Bracket)
  | 0, _, open_ => pure open_
  | _, _, [] => pure []
  | fuel + 1, afterValue, k :: outer => do
    match ← token? with
    | none => failPeek k.atEnd
    | some b =>
      if b = 44 ∧ afterValue then do
        advance
        pure (k :: outer)
      else if b = k.closing then do
        advance
        closeBrackets fuel true outer
      else if afterValue then failPeek k.noComma
      else pure (k :: outer)

/-- Passes over the name of a member and its colon. -/
def skipName (fuel : Nat) : Reader Unit := do
  match ← token? with
  | none => failPeek .endInObject
  | some b => if b = 34 then advance else failPeek .nameExpected
  skipString fuel
  match ← token? with
  | none => failPeek .endInObject
  | some b => if b = 58 then advance else failPeek .colonExpected

/-- Passes over what remains of a value with these brackets open, a value coming next. -/
def skipValues : Nat → List Bracket → Reader Unit
  | 0, _ => fail .valueExpected
  | fuel + 1, opened => do
    let (afterValue, opened) ← (do
      match ← token? with
      | none => failPeek .endInValue
      | some b =>
        if b = 110 then do advance; literal nullTail; pure (true, opened)
        else if b = 116 then do advance; literal trueTail; pure (true, opened)
        else if b = 102 then do advance; literal falseTail; pure (true, opened)
        else if b = 45 then do advance; skipNumber; pure (true, opened)
        else if isDigit b then do skipNumber; pure (true, opened)
        else if b = 34 then do advance; skipString (fuel + 1); pure (true, opened)
        else if b = 91 then do advance; pure (false, .array :: opened)
        else if b = 123 then do advance; pure (false, .object :: opened)
        else failPeek .valueExpected : Reader (Bool × List Bracket))
    match ← closeBrackets (fuel + 1) afterValue opened with
    | [] => pure ()
    | .array :: outer => skipValues fuel (.array :: outer)
    | .object :: outer => do
      skipName (fuel + 1)
      skipValues fuel (.object :: outer)

/-- Passes over a value. -/
def skipValue : Reader Unit := do
  skipValues ((← left) + 1) []

end Vigil.Json.Reader

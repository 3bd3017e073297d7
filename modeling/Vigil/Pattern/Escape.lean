import Vigil.Pattern.Flags
import Vigil.Text.Blank

/-!
# Escapes in patterns

What a backslash and the characters behind it stand for: a character, a set of characters, or
a condition on a place.
-/

set_option autoImplicit false

namespace Vigil.Pattern

open Text (CharSet)

/-- Reading a pattern: what is left of it, unless it is malformed. -/
abbrev Scan := StateT (List Char) Option

namespace Scan

/-- The next character, if any. -/
def peek? : Scan (Option Char) := do return (← get).head?

/-- Passes the next character; there has to be one. -/
def next : Scan Char := do
  match ← get with
  | [] => failure
  | c :: r => set r; return c

/-- Passes a text if it comes next. -/
def accept (word : List Char) : Scan Bool := do
  let cs ← get
  if word.isPrefixOf cs then
    set (cs.drop word.length)
    return true
  else return false

/-- What is left behind blanks and comments. -/
def skipBlanks : Bool → List Char → List Char
  | _, [] => []
  | true, c :: r => skipBlanks (c != '\n') r
  | false, c :: r =>
    if Text.isBlank c then skipBlanks false r
    else if c = '#' then skipBlanks true r
    else c :: r

/-- Passes blanks and comments where they mean nothing. -/
def space (f : Flags) : Scan Unit := do
  if f.spaced then modify (skipBlanks false)

/-- Passes the next character and blanks behind it. -/
def nextSpaced (f : Flags) : Scan Char := do
  let c ← next
  space f
  return c

/-- Something has to be left. -/
def notAtEnd : Scan Unit := do
  if (← get).isEmpty then failure

/-- Reads items up to a character that is not one, with blanks between them. -/
def spanSpaced (f : Flags) (isItem : Char → Bool) : Nat → Scan (List Char)
  | 0 => return []
  | fuel + 1 => do
    match ← peek? with
    | some c =>
      if isItem c then
        let _ ← nextSpaced f
        return c :: (← spanSpaced f isItem fuel)
      else return []
    | none => return []

/-- Reads items up to a character that is not one. -/
def readWhile (f : Flags) (isItem : Char → Bool) : Scan (List Char) := do
  spanSpaced f isItem (← get).length

end Scan

open Scan

/-- What an escape stands for. -/
inductive Escaped where
  /-- A character; `byte` if it is written as two hexadecimal digits. -/
  | char (c : Char) (byte : Bool)
  /-- A set, as it is meant with the flags that hold. -/
  | chars (s : CharSet)
  | boundary (b : Boundary)

/-- The value of a hexadecimal digit in either case. -/
def hexValue? (c : Char) : Option Nat := Text.Table.hexValue? c.toLower

/-- The value of hexadecimal digits. -/
def hexNumber (digits : List Char) : Nat :=
  digits.foldl (fun n d => n * 16 + (hexValue? d).getD 0) 0

/-- The character with this number. -/
def charOf (n : Nat) : Scan Char :=
  if n.isValidChar then return Char.ofNat n else failure

/-- Reads so many hexadecimal digits. -/
def hexDigits (f : Flags) : Nat → Scan (List Char)
  | 0 => return []
  | n + 1 => do
    let c ← nextSpaced f
    if (hexValue? c).isNone then failure
    return c :: (← hexDigits f n)

/-- Reads a number in hexadecimal digits, `width` of them or any number between braces. -/
def hexEscape (f : Flags) (width : Nat) : Scan Escaped := do
  let _ ← nextSpaced f
  match ← peek? with
  | none => failure
  | some '{' =>
    let _ ← nextSpaced f
    let digits ← readWhile f fun c => (hexValue? c).isSome
    if (← next) != '}' then failure
    space f
    if digits.isEmpty then failure
    return .char (← charOf (hexNumber digits)) false
  | some _ => return .char (← charOf (hexNumber (← hexDigits f width))) (width == 2)

/-- Cuts a list in front of the first of some marks, and drops the mark. -/
def cutAt? (mark : List Char) : List Char → Option (List Char × List Char)
  | [] => none
  | c :: r =>
    if mark.isPrefixOf (c :: r) then some ([], (c :: r).drop mark.length)
    else (cutAt? mark r).map fun p => (c :: p.1, p.2)

/-- The set with this name. -/
def propertySet? (name : List Char) : Option CharSet :=
  match (cutAt? ['!', '='] name).orElse fun _ =>
    (cutAt? [':'] name).orElse fun _ => cutAt? ['='] name with
  | some (property, value) => Text.Property.valued? property value
  | none => Text.Property.named? name

/-- Reads the name of a property: one character, or several between braces. -/
def propertyName (f : Flags) : Scan (List Char) := do
  match ← peek? with
  | none => failure
  | some '{' =>
    let _ ← nextSpaced f
    let name ← readWhile f (· != '}')
    if (← next) != '}' then failure
    return name
  | some '\\' => failure
  | some _ => return [← nextSpaced f]

/-- Reads the set of a property behind `\p` or `\P`. -/
def propertyEscape (f : Flags) : Scan Escaped := do
  let negated := (← nextSpaced f) = 'P'
  let name ← propertyName f
  if !f.unicode then failure
  match (propertySet? name).bind fun s => f.negatedIf negated (f.cased s) with
  | none => failure
  | some s => return .chars s

/-- The word boundaries with names. -/
def namedBoundary? (name : String) (word : CharSet) : Option Boundary :=
  if name = "start" then some (.wordStart word)
  else if name = "end" then some (.wordEnd word)
  else if name = "start-half" then some (.wordStartHalf word)
  else if name = "end-half" then some (.wordEndHalf word)
  else none

/-- Characters in the names of word boundaries. -/
def isBoundaryNameChar (c : Char) : Bool := c.isAlpha || c == '-'

/-- Reads what `\b` stands for: a word boundary, of a kind that a name between braces may say.
Braces around anything else are left for the repetition that they are. -/
def wordEscape (f : Flags) : Scan Escaped := do
  let whole ← get
  if (← peek?) != some '{' then return .boundary (.word f.wordSet)
  let _ ← nextSpaced f
  match ← peek? with
  | none => failure
  | some c =>
    if isBoundaryNameChar c then
      let name ← readWhile f isBoundaryNameChar
      if (← next) != '}' then failure
      match namedBoundary? (String.ofList name) f.wordSet with
      | some b => return .boundary b
      | none => failure
    else
      set whole
      return .boundary (.word f.wordSet)

/-- The characters that letters behind a backslash stand for. -/
def letterEscape? (c : Char) : Option Char :=
  if c = 'a' then some '\x07'
  else if c = 'f' then some '\x0c'
  else if c = 't' then some '\t'
  else if c = 'n' then some '\n'
  else if c = 'r' then some '\r'
  else if c = 'v' then some '\x0b'
  else none

/-- Characters that stand for themselves behind a backslash. -/
def isEscapable (c : Char) : Bool :=
  c.toNat < 128 && !c.isAlphanum && c != '<' && c != '>'

/-- Reads the set for a letter such as `d`, or for the capital letter its complement. -/
def setEscape (f : Flags) (s : CharSet) (capital : Char) : Scan Escaped := do
  let negated := (← next) = capital
  match f.negatedIf negated s with
  | none => failure
  | some s => return .chars s

/-- Reads what stands behind a backslash. -/
def escape (f : Flags) : Scan Escaped := do
  match ← peek? with
  | none => failure
  | some c =>
    if c = 'x' then hexEscape f 2
    else if c = 'u' then hexEscape f 4
    else if c = 'U' then hexEscape f 8
    else if c = 'p' ∨ c = 'P' then propertyEscape f
    else if c = 'd' ∨ c = 'D' then setEscape f f.digitSet 'D'
    else if c = 's' ∨ c = 'S' then setEscape f f.blankSet 'S'
    else if c = 'w' ∨ c = 'W' then setEscape f f.wordSet 'W'
    else
      let _ ← next
      if isEscapable c then return .char c false
      else if c = 'A' then return .boundary .textStart
      else if c = 'z' then return .boundary .textEnd
      else if c = 'b' then wordEscape f
      else if c = 'B' then return .boundary (.notWord f.wordSet)
      else if c = '<' then return .boundary (.wordStart f.wordSet)
      else if c = '>' then return .boundary (.wordEnd f.wordSet)
      else
        match letterEscape? c with
        | some d => return .char d false
        | none => failure

/-- A character as it is meant in a pattern. Over ASCII only, two hexadecimal digits may not
make a byte that is part of another character. -/
def literal? (f : Flags) (c : Char) (byte : Bool) : Option CharSet :=
  if !f.unicode && byte && c.toNat > 0x7F then none else some (.single c)

end Vigil.Pattern

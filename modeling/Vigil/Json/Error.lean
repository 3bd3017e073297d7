import Vigil.Duration.Text
import Vigil.Json.Basic
import Vigil.Json.Cursor
import Vigil.Text.Quoted

/-!
# What can be wrong with a JSON document

A document is refused because it is not JSON (`Fault`), or because it is not a value of the type
wanted (`Mismatch`), in both cases with the line and column where that shows.
-/

set_option autoImplicit false

namespace Vigil.Json

/-- Why a text is not JSON. -/
inductive Fault where
  | endInArray
  | endInObject
  | endInString
  | endInValue
  | colonExpected
  | commaOrBracketExpected
  | commaOrBraceExpected
  | literalExpected
  | valueExpected
  | invalidEscape
  | invalidNumber
  | numberOutOfRange
  | invalidCodePoint
  | controlCharacter
  | nameExpected
  | loneSurrogate
  | endOfSurrogatePair
  | trailingComma
  | trailingCharacters
  | nestedTooDeep
  deriving DecidableEq, Repr

namespace Fault

/-- The wording of a fault. -/
def message : Fault → String
  | .endInArray => "EOF while parsing a list"
  | .endInObject => "EOF while parsing an object"
  | .endInString => "EOF while parsing a string"
  | .endInValue => "EOF while parsing a value"
  | .colonExpected => "expected `:`"
  | .commaOrBracketExpected => "expected `,` or `]`"
  | .commaOrBraceExpected => "expected `,` or `\x7d`"
  | .literalExpected => "expected ident"
  | .valueExpected => "expected value"
  | .invalidEscape => "invalid escape"
  | .invalidNumber => "invalid number"
  | .numberOutOfRange => "number out of range"
  | .invalidCodePoint => "invalid unicode code point"
  | .controlCharacter => "control character (\\u0000-\\u001F) found while parsing a string"
  | .nameExpected => "key must be a string"
  | .loneSurrogate => "lone leading surrogate in hex escape"
  | .endOfSurrogatePair => "unexpected end of hex escape"
  | .trailingComma => "trailing comma"
  | .trailingCharacters => "trailing characters"
  | .nestedTooDeep => "recursion limit exceeded"

/-- Whether the text ended too early. -/
def isEnd : Fault → Bool
  | .endInArray | .endInObject | .endInString | .endInValue => true
  | _ => false

end Fault

/-- What was found where something else was wanted. -/
inductive Found where
  | null
  | bool (value : Bool)
  | int (value : Int)
  | float (value : Binary64)
  | string (value : String)
  | array
  | object
  deriving DecidableEq, Repr

namespace Found

/-- What a value is found as. -/
def ofJson : Json → Found
  | .null => .null
  | .bool b => .bool b
  | .number (.int i) => .int i
  | .number (.float b) => .float b
  | .string s => .string s
  | .array _ => .array
  | .object _ => .object

/-- The wording for what was found. -/
def text : Found → String
  | .null => "null"
  | .bool b => "boolean `" ++ (if b then "true" else "false") ++ "`"
  | .int i => "integer `" ++ toString i ++ "`"
  | .float b => "floating point `" ++ b.text ++ "`"
  | .string s => "string " ++ Text.quoted s
  | .array => "sequence"
  | .object => "map"

end Found

/-- Why a JSON value is not a value of the type wanted. -/
inductive Mismatch where
  | wrongType (found : Found) (expected : String)
  | wrongValue (found : Found) (expected : String)
  | wrongLength (length : Nat) (expected : String)
  | missingField (name : String)
  | duplicateField (name : String)
  | unknownVariant (name : String) (known : List String)
  | unsupportedMethod (name : String)
  | invalidDuration (raw : String) (fault : DurationFault)
  deriving DecidableEq, Repr

namespace Mismatch

/-- Names in backquotes as alternatives. -/
def alternatives (names : List String) : String :=
  let quoted := names.map fun n => "`" ++ n ++ "`"
  match quoted with
  | [a] => a
  | [a, b] => a ++ " or " ++ b
  | _ => "one of " ++ ", ".intercalate quoted

/-- The wording of a mismatch. -/
def message : Mismatch → String
  | .wrongType f e => "invalid type: " ++ f.text ++ ", expected " ++ e
  | .wrongValue f e => "invalid value: " ++ f.text ++ ", expected " ++ e
  | .wrongLength n e => "invalid length " ++ toString n ++ ", expected " ++ e
  | .missingField n => "missing field `" ++ n ++ "`"
  | .duplicateField n => "duplicate field `" ++ n ++ "`"
  | .unknownVariant n known =>
    "unknown variant `" ++ n ++ "`, expected " ++ alternatives known
  | .unsupportedMethod raw => "unsupported HTTP method '" ++ raw ++ "'"
  | .invalidDuration raw fault => "invalid duration '" ++ raw ++ "': " ++ fault.message

end Mismatch

/-- Why a document is refused. -/
inductive Error where
  | syntactic (fault : Fault) (line column : Nat)
  | mismatch (cause : Mismatch) (line column : Nat)
  /-- A value does not match, and there are no brackets around it that tell the place. -/
  | unplaced (cause : Mismatch) (behind : Cursor)
  deriving DecidableEq, Repr

/-- The classes of errors. -/
inductive ErrorClass where
  | malformed | incomplete | unsuitable
  deriving DecidableEq, Repr

namespace Error

/-- The class of an error. -/
def kind : Error → ErrorClass
  | .syntactic f _ _ => if f.isEnd then .incomplete else .malformed
  | .mismatch .. | .unplaced .. => .unsuitable

/-- The wording of an error without its place. -/
def reason : Error → String
  | .syntactic f _ _ => f.message
  | .mismatch c _ _ | .unplaced c _ => c.message

/-- The wording of a place. -/
def placeText (line column : Nat) : String :=
  " at line " ++ toString line ++ " column " ++ toString column

/-- The wording of an error. -/
def message (e : Error) : String :=
  match e with
  | .syntactic _ line column | .mismatch _ line column => e.reason ++ placeText line column
  | .unplaced .. => e.reason

end Error

end Vigil.Json

import Vigil.Config.Basic
import Vigil.Json.Printer
import Vigil.Log.Event

/-!
# Log lines

An event as a line of the log, as an object or as text.
-/

set_option autoImplicit false

namespace Vigil.Event

/-- An event as an object. -/
def toJson (e : Event) : Json :=
  .object [("level", .string e.level.name),
    ("fields", .object (("message", .string e.message) :: e.fields)),
    ("target", .string e.target)]

/-- A field in text. -/
def fieldText (field : String × Json) : String :=
  field.1 ++ "=" ++ match field.2 with
    | .string s => s
    | v => v.text

/-- An event as text. -/
def text (e : Event) : String :=
  " ".intercalate ([e.level.name, e.target ++ ":", e.message] ++ e.fields.map fieldText)

/-- An event as a line of a log in some format. -/
def line (format : LogFormat) (e : Event) : String :=
  match format with
  | .json => e.toJson.text
  | .text => e.text

end Vigil.Event

import Vigil.Extraction.Path
import Vigil.Failure
import Vigil.Json.Document
import Vigil.Json.Printer
import Vigil.Pattern.Matcher
import Vigil.Pattern.Reader
import Vigil.Request.Rule
import Vigil.Response
import Vigil.Variable

/-!
# Taking variables out of responses

The rules of a request are applied to its response in order. The first rule that yields no value
fails the request, and then none of its variables is kept. The body is read as a JSON document
when a rule first asks for one, and no more than once (`Response.extractFrom`). `Rule.value` is what
a rule yields by itself.
-/

set_option autoImplicit false

namespace Vigil

/-- The text of a JSON value as a variable's value: strings as they are, the rest as JSON. -/
def Json.plainText : Json → String
  | .string s => s
  | v => v.text

namespace Rule

/-- A rule fails for a reason that lies in the response. -/
def fail {α : Type} (rule : Rule) (fault : ExtractionFault) : Except Failure α :=
  .error (.extraction rule.name fault)

/-- The value at a path into the body. -/
def pathValue (body : List UInt8) (path : String) : Except ExtractionFault String :=
  match Json.ofBytes body with
  | .error e => .error (.bodyNotJson e)
  | .ok v => do return (← JsonPath.select v path).plainText

/-- What a pattern takes from a text: its first group if it has groups, else the whole match. -/
def patternValue (source : String) (p : Pattern) (text : String) :
    Except ExtractionFault String :=
  match p.search text.toList with
  | none => .error (.noMatch source)
  | some marks =>
    match Pattern.captured? marks text.toList (min p.groups 1) with
    | none => .error (.nothingCaptured source)
    | some cs => .ok (String.ofList cs)

/-- The value that a rule yields. -/
def value (rule : Rule) (r : Response) : Except Failure String :=
  match rule.source with
  | .header name =>
    match r.header? name with
    | some v => .ok v
    | none => rule.fail (.headerMissing name)
  | .status => .ok (toString r.status.toNat)
  | .jsonPath path =>
    match pathValue r.body path with
    | .ok v => .ok v
    | .error fault => rule.fail fault
  | .regex source =>
    match Pattern.ofText? source with
    | none => .error (.configuration (.invalidPattern rule.name))
    | some p =>
      if p.isOversized then
        .error (.configuration (.oversizedPattern rule.name Pattern.maxBytes))
      else
        match r.text? with
        | none => rule.fail .bodyNotText
        | some text =>
          match patternValue source p text with
          | .ok v => .ok v
          | .error fault => rule.fail fault

/-- The variable that a rule yields. -/
def extract (rule : Rule) (r : Response) : Except Failure Variable := do
  return .extracted rule.name (← rule.value r)

end Rule

/-- The document in the body of a response. It need not be read if it is known. -/
def Response.document (r : Response) (known : Option Json) : Except Json.Error Json :=
  match known with
  | some v => .ok v
  | none => Json.ofBytes r.body

/-- The value that a rule yields when the document in the body may be known, and whether it is
known then. -/
def Rule.valueKnowing (rule : Rule) (r : Response) (known : Option Json) :
    Except Failure (String × Option Json) :=
  match rule.source with
  | .jsonPath path =>
    match r.document known with
    | .error e => rule.fail (.bodyNotJson e)
    | .ok v =>
      match JsonPath.select v path with
      | .error fault => rule.fail fault
      | .ok w => .ok (w.plainText, some v)
  | .header _ | .status | .regex _ => do return (← rule.value r, known)

namespace Response

/-- The variables that rules take out of a response when the document in its body may be known. -/
def extractFrom (r : Response) : Option Json → List Rule → Except Failure (List Variable)
  | _, [] => .ok []
  | known, rule :: rest => do
    let (v, known) ← rule.valueKnowing r known
    return .extracted rule.name v :: (← r.extractFrom known rest)

/-- The variables that rules take out of a response, in the order of the rules. -/
def extract (r : Response) (rules : List Rule) : Except Failure (List Variable) :=
  r.extractFrom none rules

end Response

end Vigil

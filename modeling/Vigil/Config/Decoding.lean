import Vigil.Config.Basic
import Vigil.Json.Decoder

/-!
# Reading configurations

The decoders of the configuration's types. Fields with a default may be absent; unknown fields
are passed over, except in extraction rules, whose members are read before it is known which
of them count.
-/

set_option autoImplicit false

namespace Vigil

open Json (Reader Mismatch)
open Json.Reader (FieldReader opening wrongType enter)

namespace Duration

/-- Reads a duration. -/
def reader : Reader Duration := do
  let raw ← Json.Reader.text
  match parse raw with
  | .ok d => pure d
  | .error e => Json.Reader.mismatchBehind (.invalidDuration raw e)

end Duration

namespace Method

/-- Reads a method by its name in any case. -/
def reader : Reader Method := do
  let raw ← Json.Reader.text
  match ofName? (Text.trim raw) with
  | some m => pure m
  | none => Json.Reader.mismatchBehind (.unsupportedMethod raw)

end Method

namespace StatusCodes

/-- Reads an array of codes as a set. -/
def reader (room : Nat) : Reader StatusCodes := do
  let codes ← Json.Reader.list room fun _ => Json.Reader.natBelow 65536 "u16"
  pure (.ofList (codes.map fun n => UInt16.ofNat n))

end StatusCodes

/-! ## Rules -/

namespace Source

/-- The kinds of sources. -/
inductive Kind where
  | header | jsonPath | regex | status
  deriving DecidableEq, Repr

/-- The names of the kinds. -/
def kindNames : List String := ["header", "jsonPath", "regex", "status"]

/-- The kinds in order. -/
def kinds : List Kind := [.header, .jsonPath, .regex, .status]

/-- The kind that a value names, or counts from zero. -/
def kindOf : Json → Except Mismatch Kind
  | .string s =>
    match kinds[kindNames.idxOf s]? with
    | some k => .ok k
    | none => .error (.unknownVariant s kindNames)
  | .number (.int i) =>
    if 0 ≤ i then
      match kinds[i.toNat]? with
      | some k => .ok k
      | none => .error (.wrongValue (.int i) "variant index 0 <= i < 4")
    else .error (.wrongType (.int i) "variant identifier")
  | v => .error (.wrongType (.ofJson v) "variant identifier")

/-- Finds the kind among the members read. -/
def findKind : List (String × Json) → Option Kind → Except Mismatch Kind
  | [], none => .error (.missingField "from")
  | [], some k => .ok k
  | (name, v) :: r, found =>
    if name = "from" then
      match found with
      | some _ => .error (.duplicateField "from")
      | none => do findKind r (some (← kindOf v))
    else findKind r found

/-- Finds the text of a member among the members read. -/
def findText (field : String) : List (String × Json) → Option String → Except Mismatch String
  | [], none => .error (.missingField field)
  | [], some s => .ok s
  | (name, v) :: r, found =>
    if name = field then
      match found, v with
      | some _, _ => .error (.duplicateField field)
      | none, .string s => findText field r (some s)
      | none, v => .error (.wrongType (.ofJson v) "a string")
    else findText field r found

/-- The source that the members of a rule describe. -/
def ofMembers (ms : List (String × Json)) : Except Mismatch Source := do
  match ← findKind ms none with
  | .header => return .header (← findText "header" ms none)
  | .jsonPath => return .jsonPath (← findText "path" ms none)
  | .regex => return .regex (← findText "pattern" ms none)
  | .status => return .status

end Source

namespace Rule

/-- A rule being read: its name and its other members, the last first. -/
structure Draft where
  name : Option String := none
  others : List (String × Json) := []

/-- Reads one member of a rule. -/
def readMember (room : Nat) (name : String) (d : Draft) : Reader Draft := do
  if name = "name" then
    if d.name.isSome then Json.Reader.mismatchBehind (.duplicateField "name")
    else do
      Json.Reader.colon
      pure { d with name := some (← Json.Reader.text) }
  else do
    Json.Reader.colon
    pure { d with others := (name, ← Json.Reader.value room) :: d.others }

/-- Reads a rule. -/
def reader (room : Nat) : Reader Rule := do
  if (← opening) = 123 then
    let room ← enter room
    let d ← Json.Reader.placing Json.Cursor.pastBrace (Json.Reader.members (readMember room) {})
    match d.name with
    | none => Json.Reader.mismatch (.missingField "name")
    | some name =>
      match Source.ofMembers d.others.reverse with
      | .ok source => pure ⟨name, source⟩
      | .error m => Json.Reader.mismatch m
  else wrongType "struct ExtractionRule"

end Rule

/-! ## Requests -/

namespace RequestSpec

/-- A request being read. -/
structure Draft where
  name : Option String := none
  method : Option Method := none
  url : Option String := none
  headers : Option (Dict (List String)) := none
  body : Option String := none
  query : Option (Dict (List String)) := none
  accepted : Option StatusCodes := none
  timeout : Option (Option String) := none
  rules : Option (List Rule) := none

/-- Reads lists of texts by key. -/
def readLists (room : Nat) : Reader (Dict (List String)) :=
  Json.Reader.dict room fun room => Json.Reader.list room fun _ => Json.Reader.text

/-- The fields of a request in order of declaration. -/
def fields : List (FieldReader Draft) := [
  ⟨"name", true, fun d => d.name.isSome,
    fun _ d => do pure { d with name := some (← Json.Reader.text) }⟩,
  ⟨"method", false, fun d => d.method.isSome,
    fun _ d => do pure { d with method := some (← Method.reader) }⟩,
  ⟨"url", true, fun d => d.url.isSome,
    fun _ d => do pure { d with url := some (← Json.Reader.text) }⟩,
  ⟨"headers", false, fun d => d.headers.isSome,
    fun room d => do pure { d with headers := some (← readLists room) }⟩,
  ⟨"body", false, fun d => d.body.isSome,
    fun _ d => do pure { d with body := some (← Json.Reader.text) }⟩,
  ⟨"queryParams", false, fun d => d.query.isSome,
    fun room d => do pure { d with query := some (← readLists room) }⟩,
  ⟨"expectedResponseCodes", false, fun d => d.accepted.isSome,
    fun room d => do pure { d with accepted := some (← StatusCodes.reader room) }⟩,
  ⟨"timeout", false, fun d => d.timeout.isSome,
    fun _ d => do pure { d with timeout := some (← Json.Reader.optional Json.Reader.text) }⟩,
  ⟨"variablesFromResponse", false, fun d => d.rules.isSome,
    fun room d => do pure { d with rules := some (← Json.Reader.list room Rule.reader) }⟩]

/-- The request of a draft whose required fields are there. -/
def ofDraft (d : Draft) : RequestSpec :=
  { name := d.name.getD ""
    method := d.method.getD .get
    url := d.url.getD ""
    headers := d.headers.getD .empty
    body := d.body.getD ""
    query := d.query.getD .empty
    accepted := d.accepted.getD (.single 200)
    timeout := d.timeout.getD none
    rules := d.rules.getD [] }

/-- Reads a request. -/
def reader (room : Nat) : Reader RequestSpec := do
  pure (ofDraft (← Json.Reader.record "struct RequestSpec" fields room {}))

end RequestSpec

/-! ## Monitors -/

namespace Monitor

/-- A monitor being read. -/
structure Draft where
  name : Option String := none
  period : Option Duration := none
  provided : Option (Dict String) := none
  requests : Option (List RequestSpec) := none
  cleanup : Option (List RequestSpec) := none

/-- The fields of a monitor in order of declaration. -/
def fields : List (FieldReader Draft) := [
  ⟨"name", true, fun d => d.name.isSome,
    fun _ d => do pure { d with name := some (← Json.Reader.text) }⟩,
  ⟨"period", true, fun d => d.period.isSome,
    fun _ d => do pure { d with period := some (← Duration.reader) }⟩,
  ⟨"variables", false, fun d => d.provided.isSome,
    fun room d => do
      pure { d with provided := some (← Json.Reader.dict room fun _ => Json.Reader.text) }⟩,
  ⟨"requests", false, fun d => d.requests.isSome,
    fun room d => do
      pure { d with requests := some (← Json.Reader.list room RequestSpec.reader) }⟩,
  ⟨"cleanup", false, fun d => d.cleanup.isSome,
    fun room d => do
      pure { d with cleanup := some (← Json.Reader.list room RequestSpec.reader) }⟩]

/-- The monitor of a draft whose required fields are there. -/
def ofDraft (d : Draft) : Monitor :=
  { name := d.name.getD ""
    period := d.period.getD .zero
    provided := d.provided.getD .empty
    requests := d.requests.getD []
    cleanup := d.cleanup.getD [] }

/-- Reads a monitor. -/
def reader (room : Nat) : Reader Monitor := do
  pure (ofDraft (← Json.Reader.record "struct MonitorDefinition" fields room {}))

end Monitor

/-! ## Settings and the whole configuration -/

namespace ClientSettings

/-- Client settings being read. -/
structure Draft where
  defaultTimeout : Option Duration := none
  followRedirects : Option Bool := none
  maxRedirects : Option UInt64 := none
  validateSsl : Option Bool := none
  userAgent : Option String := none
  defaultHeaders : Option (Dict String) := none

/-- The fields of the client settings in order of declaration. -/
def fields : List (FieldReader Draft) := [
  ⟨"defaultTimeout", false, fun d => d.defaultTimeout.isSome,
    fun _ d => do pure { d with defaultTimeout := some (← Duration.reader) }⟩,
  ⟨"followRedirects", false, fun d => d.followRedirects.isSome,
    fun _ d => do pure { d with followRedirects := some (← Json.Reader.bool) }⟩,
  ⟨"maxRedirects", false, fun d => d.maxRedirects.isSome,
    fun _ d => do
      let n ← Json.Reader.natBelow 18446744073709551616 "usize"
      pure { d with maxRedirects := some (UInt64.ofNat n) }⟩,
  ⟨"validateSsl", false, fun d => d.validateSsl.isSome,
    fun _ d => do pure { d with validateSsl := some (← Json.Reader.bool) }⟩,
  ⟨"userAgent", false, fun d => d.userAgent.isSome,
    fun _ d => do pure { d with userAgent := some (← Json.Reader.text) }⟩,
  ⟨"defaultHeaders", false, fun d => d.defaultHeaders.isSome,
    fun room d => do
      pure { d with defaultHeaders := some (← Json.Reader.dict room fun _ => Json.Reader.text) }⟩]

/-- The settings of a draft, with defaults for what is absent. -/
def ofDraft (d : Draft) : ClientSettings :=
  let defaults : ClientSettings := {}
  { defaultTimeout := d.defaultTimeout.getD defaults.defaultTimeout
    followRedirects := d.followRedirects.getD defaults.followRedirects
    maxRedirects := d.maxRedirects.getD defaults.maxRedirects
    validateSsl := d.validateSsl.getD defaults.validateSsl
    userAgent := d.userAgent.getD defaults.userAgent
    defaultHeaders := d.defaultHeaders.getD defaults.defaultHeaders }

/-- Reads client settings. -/
def reader (room : Nat) : Reader ClientSettings := do
  pure (ofDraft (← Json.Reader.record "struct ClientSettings" fields room {}))

end ClientSettings

namespace LogFormat

/-- Reads the name of a log format. -/
def name : Reader LogFormat := do
  let s ← Json.Reader.stringAs "variant identifier"
  if s = "text" then pure .text
  else if s = "json" then pure .json
  else Json.Reader.mismatch (.unknownVariant s ["text", "json"])

/-- Reads a log format: its name, or an object with the name bound to `null`. -/
def reader (room : Nat) : Reader LogFormat := do
  match ← Json.Reader.token? with
  | none => Json.Reader.failPeek .endInValue
  | some b =>
    if b = 34 then name
    else if b = 123 then do
      let _ ← enter room
      let f ← name
      Json.Reader.colon
      if (← opening) = 110 then do
        Json.Reader.advance
        Json.Reader.literal Json.Reader.nullTail
        match ← Json.Reader.token? with
        | none => Json.Reader.fail .endInObject
        | some b =>
          if b = 125 then do
            Json.Reader.advance
            pure f
          else Json.Reader.fail .valueExpected
      else wrongType "unit"
    else Json.Reader.failPeek .valueExpected

end LogFormat

namespace ServiceConfig

/-- A configuration being read. -/
structure Draft where
  client : Option ClientSettings := none
  logLevel : Option String := none
  logFormat : Option LogFormat := none
  monitors : Option (List Monitor) := none

/-- The fields of a configuration in order of declaration. -/
def fields : List (FieldReader Draft) := [
  ⟨"client", false, fun d => d.client.isSome,
    fun room d => do pure { d with client := some (← ClientSettings.reader room) }⟩,
  ⟨"logLevel", false, fun d => d.logLevel.isSome,
    fun _ d => do pure { d with logLevel := some (← Json.Reader.text) }⟩,
  ⟨"logFormat", false, fun d => d.logFormat.isSome,
    fun room d => do pure { d with logFormat := some (← LogFormat.reader room) }⟩,
  ⟨"monitors", false, fun d => d.monitors.isSome,
    fun room d => do pure { d with monitors := some (← Json.Reader.list room Monitor.reader) }⟩]

/-- The configuration of a draft, with defaults for what is absent. -/
def ofDraft (d : Draft) : ServiceConfig :=
  let defaults : ServiceConfig := {}
  { client := d.client.getD defaults.client
    logLevel := d.logLevel.getD defaults.logLevel
    logFormat := d.logFormat.getD defaults.logFormat
    monitors := d.monitors.getD defaults.monitors }

/-- Reads a configuration. -/
def reader (room : Nat) : Reader ServiceConfig := do
  pure (ofDraft (← Json.Reader.record "struct ServiceConfig" fields room {}))

end ServiceConfig

/-- The value that a document holds, read by `reader`. -/
def Json.decode {α : Type} (reader : Nat → Reader α) (document : String) :
    Except Json.Error α :=
  Json.Reader.run (reader Json.Reader.maxRoom) (Text.encode document)

end Vigil

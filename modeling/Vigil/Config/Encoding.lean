import Vigil.Config.Basic
import Vigil.Duration.Text
import Vigil.Json.Printer

/-!
# Configurations as JSON values

Every field is written, with one exception: a request without a timeout of its own has no
`timeout` member.
-/

set_option autoImplicit false

namespace Vigil

namespace Dict

/-- A dictionary as an object. -/
def toJson {α : Type} (f : α → Json) (d : Dict α) : Json :=
  .object (d.entries.map fun e => (e.1, f e.2))

end Dict

/-- A duration as a text. -/
def Duration.toJson (d : Duration) : Json := .string d.text

/-- A method as its name. -/
def Method.toJson (m : Method) : Json := .string m.name

/-- A set of codes as an ascending array. -/
def StatusCodes.toJson (s : StatusCodes) : Json := .array (s.codes.map fun c => .nat c.toNat)

/-- The members that say where a rule takes its value from. -/
def Source.members : Source → List (String × Json)
  | .header name => [("from", .string "header"), ("header", .string name)]
  | .jsonPath path => [("from", .string "jsonPath"), ("path", .string path)]
  | .regex pattern => [("from", .string "regex"), ("pattern", .string pattern)]
  | .status => [("from", .string "status")]

/-- A rule as an object. -/
def Rule.toJson (r : Rule) : Json := .object (("name", .string r.name) :: r.source.members)

/-- A request as an object. -/
def RequestSpec.toJson (s : RequestSpec) : Json :=
  .object ([
    ("name", .string s.name),
    ("method", s.method.toJson),
    ("url", .string s.url),
    ("headers", s.headers.toJson .texts),
    ("body", .string s.body),
    ("queryParams", s.query.toJson .texts),
    ("expectedResponseCodes", s.accepted.toJson)] ++
    (match s.timeout with
      | some t => [("timeout", .string t)]
      | none => []) ++
    [("variablesFromResponse", .array (s.rules.map Rule.toJson))])

/-- A monitor as an object. -/
def Monitor.toJson (m : Monitor) : Json :=
  .object [
    ("name", .string m.name),
    ("period", m.period.toJson),
    ("variables", m.provided.toJson .string),
    ("requests", .array (m.requests.map RequestSpec.toJson)),
    ("cleanup", .array (m.cleanup.map RequestSpec.toJson))]

/-- The client settings as an object. -/
def ClientSettings.toJson (c : ClientSettings) : Json :=
  .object [
    ("defaultTimeout", c.defaultTimeout.toJson),
    ("followRedirects", .bool c.followRedirects),
    ("maxRedirects", .nat c.maxRedirects.toNat),
    ("validateSsl", .bool c.validateSsl),
    ("userAgent", .string c.userAgent),
    ("defaultHeaders", c.defaultHeaders.toJson .string)]

/-- A log format as its name. -/
def LogFormat.toJson : LogFormat → Json
  | .text => .string "text"
  | .json => .string "json"

/-- A configuration as an object. -/
def ServiceConfig.toJson (c : ServiceConfig) : Json :=
  .object [
    ("client", c.client.toJson),
    ("logLevel", .string c.logLevel),
    ("logFormat", c.logFormat.toJson),
    ("monitors", .array (c.monitors.map Monitor.toJson))]

end Vigil

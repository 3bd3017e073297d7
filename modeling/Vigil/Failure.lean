import Vigil.Duration.Text
import Vigil.Extraction.Fault
import Vigil.Request.StatusCodes
import Vigil.Url.Fault

/-!
# Failures of requests

A request fails for one of five kinds of reasons. Either the specification is no good
(`Misconfiguration`), or nothing usable comes back over the wire, or too late, or the status
code is not one of those accepted, or a rule yields no value. A failed request is never
attempted again.
-/

set_option autoImplicit false

namespace Vigil

/-- Why a specification cannot be carried out. -/
inductive Misconfiguration where
  | invalidTimeout (raw : String) (fault : DurationFault)
  | zeroTimeout (raw : String)
  /-- The rendered text of a request's URL is no URL. -/
  | invalidUrl (text : String) (fault : UrlFault)
  /-- A text is no URL. -/
  | notUrl (fault : UrlFault)
  /-- The URL names no host to send the request to. -/
  | noHost (url : String)
  | invalidHeaderName
  | invalidHeaderValue
  /-- Requests are sent by HTTP only. -/
  | schemeNotAllowed (url : String)
  /-- The URL cannot be written into a request. -/
  | unwritableUrl (url : String)
  /-- The pattern of the rule for a variable is malformed. -/
  | invalidPattern (name : String)
  /-- The pattern of the rule for a variable is larger than a matcher may be, in bytes. -/
  | oversizedPattern (name : String) (limit : Nat)
  /-- A reason in the words of whoever gives it. -/
  | other (words : String)
  deriving DecidableEq, Repr

namespace Misconfiguration

/-- How a URL that is no good for a request is reported. -/
def badUrl (url reason : String) : String := "builder error for url (" ++ url ++ "): " ++ reason

/-- How the URL of a request that cannot be sent by HTTP is reported. -/
def notAllowed (url : String) : String := badUrl url "URL scheme is not allowed"

/-- The wording of a reason. -/
def message : Misconfiguration → String
  | .invalidTimeout raw fault => "invalid timeout '" ++ raw ++ "': " ++ fault.message
  | .zeroTimeout raw => "invalid timeout '" ++ raw ++ "': must be greater than 0"
  | .invalidUrl text fault => "invalid URL '" ++ text ++ "': " ++ fault.message
  | .notUrl fault => "invalid URL: " ++ fault.message
  | .noHost url => "failed to build request: " ++ notAllowed url
  | .invalidHeaderName => "failed to build request: builder error: invalid HTTP header name"
  | .invalidHeaderValue =>
    "failed to build request: builder error: failed to parse header value"
  | .schemeNotAllowed url => notAllowed url
  | .unwritableUrl url => badUrl url "Parsed Url is not a valid Uri"
  | .invalidPattern v => "invalid regex for variable '" ++ v ++ "'"
  | .oversizedPattern v limit =>
    "invalid regex for variable '" ++ v ++ "': Compiled regex exceeds size limit of " ++
      toString limit ++ " bytes."
  | .other words => words

end Misconfiguration

/-- Why a request failed. -/
inductive Failure where
  | configuration (cause : Misconfiguration)
  /-- Nothing, or not everything, came back over the wire. -/
  | transport (words : String)
  /-- The time allowed went by. -/
  | timeout (allowed : Duration)
  | unexpectedStatus (actual : UInt16) (accepted : List UInt16)
  | extraction (name : String) (fault : ExtractionFault)
  deriving DecidableEq

/-- The kinds of failures. -/
inductive FailureKind where
  | configuration | transport | timeout | unexpectedStatus | extraction
  deriving DecidableEq, Repr

/-- The label of a kind. -/
def FailureKind.label : FailureKind → String
  | .configuration => "configuration"
  | .transport => "transport"
  | .timeout => "timeout"
  | .unexpectedStatus => "unexpected_status"
  | .extraction => "extraction"

namespace Failure

/-- The kind of a failure. -/
def kind : Failure → FailureKind
  | .configuration _ => .configuration
  | .transport _ => .transport
  | .timeout _ => .timeout
  | .unexpectedStatus .. => .unexpectedStatus
  | .extraction .. => .extraction

/-- Whether the failure happened on the wire. -/
def isTransport : Failure → Bool
  | .transport _ | .timeout _ => true
  | _ => false

/-- A list of status codes in brackets. -/
def codeList (codes : List UInt16) : String :=
  "[" ++ ", ".intercalate (codes.map fun c => toString c.toNat) ++ "]"

/-- The wording of a failure. -/
def message : Failure → String
  | .configuration cause => "configuration error: " ++ cause.message
  | .transport words => "transport error: " ++ words
  | .timeout allowed => "request timed out after " ++ allowed.text
  | .unexpectedStatus actual accepted =>
    "unexpected status code " ++ toString actual.toNat ++ ", expected one of " ++
      codeList accepted
  | .extraction v fault => "failed to extract variable '" ++ v ++ "': " ++ fault.message

end Failure

end Vigil

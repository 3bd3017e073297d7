import Vigil.Json.Error

/-!
# What can be wrong with a configuration

A configuration file cannot be read, is not a configuration document, or holds a configuration
that the service cannot start with.
-/

set_option autoImplicit false

namespace Vigil

/-- Why a file cannot be read as text. -/
inductive FileFault where
  | notFound
  | notADirectory
  | isADirectory
  | notUtf8
  /-- Any other refusal of the system, in its words. -/
  | other (words : String)
  deriving DecidableEq, Repr

namespace FileFault

/-- The wording of a fault. -/
def message : FileFault → String
  | .notFound => "No such file or directory (os error 2)"
  | .notADirectory => "Not a directory (os error 20)"
  | .isADirectory => "Is a directory (os error 21)"
  | .notUtf8 => "stream did not contain valid UTF-8"
  | .other words => words

end FileFault

/-- Why the service cannot start with a configuration. -/
inductive Unusable where
  | zeroDefaultTimeout
  | blankMonitorName
  | duplicateMonitorName (name : String)
  | zeroPeriod (monitor : String)
  | blankRequestName (monitor : String)
  | noStatusCodes (monitor request : String)
  | invalidStatusCode (monitor request : String) (code : UInt16)
  | invalidHeaderName (name : String)
  | invalidHeaderValue (name : String)
  | invalidUserAgent
  deriving DecidableEq, Repr

namespace Unusable

/-- The wording of a reason. -/
def message : Unusable → String
  | .zeroDefaultTimeout => "client.defaultTimeout must be greater than 0"
  | .blankMonitorName => "monitor name must not be empty"
  | .duplicateMonitorName name => "duplicate monitor name '" ++ name ++ "'"
  | .zeroPeriod m => "monitor '" ++ m ++ "': period must be greater than 0"
  | .blankRequestName m => "monitor '" ++ m ++ "': request name must not be empty"
  | .noStatusCodes m r =>
    "monitor '" ++ m ++ "', request '" ++ r ++ "': expectedResponseCodes must not be empty"
  | .invalidStatusCode m r c =>
    "monitor '" ++ m ++ "', request '" ++ r ++ "': " ++ toString c.toNat ++
      " is not a valid HTTP status code"
  | .invalidHeaderName name =>
    "invalid default header name '" ++ name ++ "': invalid HTTP header name"
  | .invalidHeaderValue name =>
    "invalid value for default header '" ++ name ++ "': failed to parse header value"
  | .invalidUserAgent =>
    "failed to build HTTP client: builder error: failed to parse header value"

end Unusable

/-- Why there is no configuration to start with. -/
inductive ConfigError where
  | file (path : String) (fault : FileFault)
  | document (error : Json.Error)
  | unusable (reason : Unusable)
  deriving DecidableEq, Repr

namespace ConfigError

/-- The wording of an error. -/
def message : ConfigError → String
  | .file path fault =>
    "failed to read configuration file " ++ path ++ ": " ++ fault.message
  | .document e => "failed to parse configuration: " ++ e.message
  | .unusable r => "invalid configuration: " ++ r.message

end ConfigError

end Vigil

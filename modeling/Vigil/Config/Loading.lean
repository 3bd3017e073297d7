import Vigil.Config.Decoding
import Vigil.Config.Validation
import Vigil.Log.Event
import Vigil.Text.Utf8

/-!
# Loading configurations

A configuration document is decoded and then checked. Loading one from a file also reports the
slots that no variable can fill, and that it is done.
-/

set_option autoImplicit false

namespace Vigil.ServiceConfig

/-- The configuration that a text holds. -/
def ofText (text : String) : Except ConfigError ServiceConfig :=
  match Json.decode ServiceConfig.reader text with
  | .error e => .error (.document e)
  | .ok c =>
    match c.validate with
    | .error r => .error (.unusable r)
    | .ok () => .ok c

/-- The configuration in the file at `path` with the given contents. -/
def ofFile (path : String) (contents : Except FileFault (List UInt8)) :
    Except ConfigError ServiceConfig :=
  match contents with
  | .error fault => .error (.file path fault)
  | .ok bytes =>
    match Text.decode? bytes with
    | none => .error (.file path .notUtf8)
    | some text => ofText text

/-- What is reported once a configuration is loaded from `path`. -/
def loadEvents (path : String) (c : ServiceConfig) : List Event :=
  c.undeclared.map .undeclaredSlot ++ [.configurationLoaded path c.monitors.length]

end Vigil.ServiceConfig

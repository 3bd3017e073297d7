/-!
# Arguments of the command line

The path of the configuration has to be given, and the switch for a single run may be; neither
twice. Arguments are looked at in order, and the first that asks for help or for the version, or
that is out of place, decides.
-/

set_option autoImplicit false

namespace Vigil.CommandLine

/-- What the arguments ask for. -/
inductive Request where
  | help
  | version
  /-- The arguments are no good. -/
  | misuse
  /-- To run the monitors of the configuration at a path, once or until told to stop. -/
  | run (config : String) (once : Bool)
  deriving DecidableEq, Repr

/-- The options seen so far. -/
structure Options where
  config : Option String := none
  once : Bool := false
  deriving DecidableEq, Repr

namespace Options

/-- What the options ask for when no argument is left. -/
def request (o : Options) : Request :=
  match o.config with
  | some path => .run path o.once
  | none => .misuse

/-- Takes the path of the configuration, if there is none yet and it is not empty. -/
def withConfig? (o : Options) (path : String) : Option Options :=
  if o.config.isSome || path.isEmpty then none else some { o with config := some path }

end Options

/-- What an argument asks for. -/
inductive Argument where
  | help
  | version
  | misuse
  | once
  /-- The path follows as the next argument. -/
  | config
  | configAt (path : String)
  /-- No options follow. -/
  | stop
  deriving DecidableEq, Repr

namespace Argument

/-- Reads an argument behind two dashes. -/
def ofLong (text : List Char) : Argument :=
  let name := String.ofList (text.takeWhile (· != '='))
  match text.dropWhile (· != '=') with
  | [] =>
    if name = "" then .stop
    else if name = "help" then .help
    else if name = "version" then .version
    else if name = "once" then .once
    else if name = "config" then .config
    else .misuse
  | _ :: value => if name = "config" then .configAt (String.ofList value) else .misuse

/-- Reads an argument behind one dash. -/
def ofShort : List Char → Argument
  | 'h' :: _ => .help
  | 'V' :: _ => .version
  | ['c'] => .config
  | 'c' :: '=' :: path => .configAt (String.ofList path)
  | 'c' :: path => .configAt (String.ofList path)
  | _ => .misuse

/-- Reads an argument. -/
def ofText (text : String) : Argument :=
  match text.toList with
  | '-' :: '-' :: r => ofLong r
  | '-' :: r => ofShort r
  | _ => .misuse

/-- Whether a text can follow an option as its value. -/
def isValue (text : String) : Bool := text = "-" || text.toList.head? != some '-'

end Argument

/-- What arguments ask for, after the options seen before them. -/
def requestFrom (o : Options) : List String → Request
  | [] => o.request
  | a :: rest =>
    match Argument.ofText a with
    | .help => .help
    | .version => .version
    | .misuse => .misuse
    | .once => if o.once then .misuse else requestFrom { o with once := true } rest
    | .configAt path =>
      match o.withConfig? path with
      | some o => requestFrom o rest
      | none => .misuse
    | .config =>
      match rest with
      | path :: rest =>
        match if Argument.isValue path then o.withConfig? path else none with
        | some o => requestFrom o rest
        | none => .misuse
      | [] => .misuse
    | .stop => if rest.isEmpty then o.request else .misuse

/-- What arguments ask for. -/
def Request.ofArguments (arguments : List String) : Request := requestFrom {} arguments

end Vigil.CommandLine

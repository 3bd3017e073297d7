import Vigil.Config.Basic

/-!
# Slots that no variable can fill

A slot of a request can be filled by a built-in variable, by a variable of its monitor, or by
one that an earlier request of the run takes out of its response; cleanup requests come after
all others. `undeclared` lists the slots that none of these fills. They are no errors, for such
a slot is sent as it stands.
-/

set_option autoImplicit false

namespace Vigil

/-- Names of the variables that every run starts with. -/
def builtinNames : List String := ["random-8", "run-id"]

/-- A slot that no variable can fill. -/
structure Undeclared where
  monitor : String
  request : String
  name : String
  deriving DecidableEq, Repr

namespace RequestSpec

/-- The names of the variables that a request takes out of its response. -/
def ruleNames (s : RequestSpec) : List String := s.rules.map (·.name)

end RequestSpec

namespace Monitor

/-- The slots in `steps` that neither `known` nor an earlier step fills. -/
def undeclaredFrom (monitor : String) (known : List String) :
    List RequestSpec → List Undeclared
  | [] => []
  | s :: r =>
    ((s.slotNames.filter fun n => !known.contains n).map fun n => ⟨monitor, s.name, n⟩) ++
      undeclaredFrom monitor (known ++ s.ruleNames) r

/-- The names that every request of a monitor can use. -/
def declaredNames (m : Monitor) : List String := builtinNames ++ m.provided.keys

/-- The slots of a monitor that no variable can fill. -/
def undeclared (m : Monitor) : List Undeclared :=
  undeclaredFrom m.name m.declaredNames m.steps

end Monitor

namespace ServiceConfig

/-- The slots of a configuration that no variable can fill. -/
def undeclared (c : ServiceConfig) : List Undeclared := c.monitors.flatMap Monitor.undeclared

end ServiceConfig

end Vigil

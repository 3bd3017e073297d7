/-!
# Kinds of chains

A monitor has two chains of requests. The monitoring chain ends at its first failure; the
cleanup chain is always carried out in full.
-/

set_option autoImplicit false

namespace Vigil

/-- The two chains of a monitor. -/
inductive ChainKind where
  | monitoring | cleanup
  deriving DecidableEq, Repr

namespace ChainKind

/-- The label of a kind. -/
def label : ChainKind → String
  | .monitoring => "monitoring"
  | .cleanup => "cleanup"

/-- Whether the first failure ends the chain. -/
def stopsOnFailure : ChainKind → Bool
  | .monitoring => true
  | .cleanup => false

end ChainKind

end Vigil

/-!
# What can be wrong with a URL
-/

set_option autoImplicit false

namespace Vigil

/-- Why a text is not an absolute URL. -/
inductive UrlFault where
  /-- A host that has to be there is not. -/
  | emptyHost
  /-- A host name that has no ASCII form or holds a character no host name may hold. -/
  | badDomainName
  | badPort
  /-- A host that ends in a number and is no IPv4 address. -/
  | badIPv4
  /-- A host in brackets that is no IPv6 address. -/
  | badIPv6
  /-- A character that may not occur in the host of a URL with an unknown scheme. -/
  | badHostCharacter
  /-- There is no scheme. -/
  | relative
  /-- The base of a relative URL has no path to start from. -/
  | relativeToOpaque
  deriving DecidableEq, Repr, Inhabited

namespace UrlFault

/-- The wording of a fault. -/
def message : UrlFault → String
  | .emptyHost => "empty host"
  | .badDomainName => "invalid international domain name"
  | .badPort => "invalid port number"
  | .badIPv4 => "invalid IPv4 address"
  | .badIPv6 => "invalid IPv6 address"
  | .badHostCharacter => "invalid domain character"
  | .relative => "relative URL without a base"
  | .relativeToOpaque => "relative URL with a cannot-be-a-base base"

end UrlFault

end Vigil

import Vigil.Domain.Ascii
import Vigil.Url.Address
import Vigil.Url.Fault
import Vigil.Url.Percent

/-!
# Hosts

The host of a URL: a domain name, an address, or, with schemes other than those of the web, a
name that is taken as it is.
-/

set_option autoImplicit false

namespace Vigil

/-- The host of a URL. -/
inductive Host where
  /-- There is a place for a host, and nothing in it. -/
  | empty
  | name (text : String)
  | v4 (address : Nat)
  | v6 (pieces : List Nat)
  deriving DecidableEq, Repr, Inhabited

namespace Host

/-- A host in text. -/
def text : Host → String
  | .empty => ""
  | .name s => s
  | .v4 n => Address.textV4 n
  | .v6 ps => "[" ++ Address.textV6 ps ++ "]"

/-- The address in brackets. -/
def readBrackets (text : List Char) : Except UrlFault Host :=
  if text.getLast? ≠ some ']' then .error .badIPv6
  else
    match Address.readV6 (text.drop 1).dropLast with
    | some ps => .ok (.v6 ps)
    | none => .error .badIPv6

/-- The host of a URL with a scheme of the web. -/
def readWeb (text : List Char) : Except UrlFault Host :=
  if text.head? = some '[' then readBrackets text
  else
    match Domain.toAscii? (Percent.decode (text.flatMap String.utf8EncodeChar)) with
    | none => .error .badDomainName
    | some domain =>
      if domain.isEmpty then .error .emptyHost
      else if Address.endsInNumber domain.toList then
        match Address.readV4 domain.toList with
        | some n => .ok (.v4 n)
        | none => .error .badIPv4
      else .ok (.name domain)

/-- Characters that may not occur in a host that is taken as it is. -/
def isForbidden (c : Char) : Bool :=
  ['\x00', '\t', '\n', '\r', ' ', '#', '/', ':', '<', '>', '?', '@', '[', '\\', ']', '^',
    '|'].contains c

/-- The host of a URL with any other scheme. -/
def readOther (text : List Char) : Except UrlFault Host :=
  if text.head? = some '[' then readBrackets text
  else if text.any isForbidden then .error .badHostCharacter
  else if text.isEmpty then .ok .empty
  else .ok (.name (String.ofList (Percent.encode .controls text)))

end Host

end Vigil

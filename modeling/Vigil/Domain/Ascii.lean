import Vigil.Domain.Direction
import Vigil.Domain.Joining
import Vigil.Domain.Mapping
import Vigil.Domain.Punycode
import Vigil.Text.Composition
import Vigil.Text.Utf8

/-!
# Domain names in ASCII

The form in which a domain name is looked up. Characters are mapped and composed; a label with
characters outside ASCII is then encoded behind `xn--`, and a label that comes encoded has to be
the encoding of such a label. Whatever cannot be written this way is no domain name.
-/

set_option autoImplicit false

namespace Vigil.Domain

/-- ASCII characters that may not occur in a domain name. -/
def isForbidden (c : Char) : Bool :=
  c.toNat ≤ 0x20 || c.toNat = 0x7F ||
    ['%', '#', '/', ':', '<', '>', '?', '@', '[', '\\', ']', '^', '|'].contains c

/-- A text with its characters mapped and composed, unless one is disallowed. -/
def normalize? (text : List Char) : Option (List Char) := do
  let mapped ← text.mapM mapChar
  return Text.compose mapped.flatten

/-- Cuts a text at dots. -/
def labels : List Char → List (List Char)
  | [] => [[]]
  | c :: r =>
    if c = '.' then [] :: labels r
    else
      match labels r with
      | [] => [[c]]
      | l :: ls => (c :: l) :: ls

/-- The mark of an encoded label. -/
def encodedLead : List Char := ['x', 'n', '-', '-']

/-- A label with what it is written as. -/
structure Label where
  characters : List Char
  written : List Char

/-- Whether a label begins with a mark. -/
def beginsWithMark (label : List Char) : Bool :=
  label.head?.any fun c =>
    Text.Category.nonspacingMark.ranges.contains c ||
      Text.Category.spacingMark.ranges.contains c ||
      Text.Category.enclosingMark.ranges.contains c

/-- Whether the characters of a label go together. -/
def isWellFormed (label : List Char) : Bool :=
  !label.any isForbidden &&
    (label.all Punycode.isAscii || (!beginsWithMark label && joinersFit [] label))

/-- The label that a normalized text between two dots is. -/
def label? (text : List Char) : Option Label :=
  if encodedLead.isPrefixOf text then do
    if !text.all Punycode.isAscii then none
    let cs ← Punycode.decode (text.drop 4)
    if !cs.all Punycode.isAscii && normalize? cs = some cs && isWellFormed cs then
      some ⟨cs, text⟩
    else none
  else if !isWellFormed text then none
  else if text.all Punycode.isAscii then some ⟨text, text⟩
  else some ⟨text, encodedLead ++ Punycode.encode text⟩

/-- A domain name in ASCII, if it has such a form. -/
def toAscii? (name : List UInt8) : Option String := do
  let text ← Text.decode? name
  let ls ← (labels (← normalize? text.toList)).mapM label?
  if ls.any (fun l => hasRightward l.characters) &&
      !ls.all (fun l => Direction.fits l.characters) then none
  else some (String.ofList (['.'].intercalate (ls.map (·.written))))

end Vigil.Domain

import Vigil.Http.Coding
import Vigil.Http.Message
import Vigil.Response

/-!
# What comes back

All that is not the service itself is one function: from the moment, the messages that have
arrived so far and one more message to what becomes of that one. Times are in nanoseconds.

An answer is what comes over the wire. If its body is encoded, a client undoes that before the
answer is looked at: the headers that are true of the encoded body only are left out, and what
counts is the content (`Answer.response`).
-/

set_option autoImplicit false

namespace Vigil

/-- A response as it comes over the wire. -/
structure Answer where
  status : UInt16 := 200
  /-- Names and the bytes of values in the order in which they come. -/
  headers : List (String × List UInt8) := []
  /-- The bytes of the body, as they come. -/
  body : List UInt8 := []
  /-- Whether the body comes in full. -/
  whole : Bool := true
  /-- What the body stands for in the coding that the answer tells of, if it is of that coding. -/
  decoded : Option (List UInt8) := none
  /-- The time from the headers to the end of the body. -/
  bodyDelay : Nat := 0
  deriving DecidableEq, Repr, Inhabited

/-- What becomes of a message. -/
inductive Reply where
  /-- There is no connection, and the message does not arrive. -/
  | unreachable (delay : Nat) (words : String)
  /-- The message arrives, and the connection ends without an answer. -/
  | lost (delay : Nat) (words : String)
  /-- The message does not arrive, and nobody says so. -/
  | silence
  | answer (delay : Nat) (answer : Answer)
  deriving DecidableEq, Repr, Inhabited

/-- What becomes of a message, given the moment and the messages that have arrived before it. -/
abbrev Server := Nat → List Message → Message → Reply

/-- A server that nobody can connect to. -/
def Server.unreachable (words : String) : Server := fun _ _ _ => .unreachable 0 words

/-- A server that gives the same answer to everything, at once. -/
def Server.atOnce (a : Answer) : Server := fun _ _ _ => .answer 0 a

namespace Answer

/-- Spaces and tabs. -/
def isBlank (b : UInt8) : Bool := b = 32 || b = 9

/-- Bytes without the blanks around them. -/
def trim (bytes : List UInt8) : List UInt8 :=
  ((bytes.dropWhile isBlank).reverse.dropWhile isBlank).reverse

/-- Bytes of header values that can be shown as text. -/
def isVisible (b : UInt8) : Bool := b = 9 || (32 ≤ b && b < 127)

/-- A header value as text, if all its bytes can be shown. -/
def visibleText? (value : List UInt8) : Option String :=
  if (trim value).all isVisible then
    some (String.ofList ((trim value).map fun b => Char.ofNat b.toNat))
  else none

/-- The first value of a header, less the blanks around it. -/
def header? (a : Answer) (name : String) : Option (List UInt8) :=
  (a.headers.find? fun h => sameName h.1 name).map fun h => trim h.2

/-! ### Content -/

/-- Whether an answer tells of a coding: one of its headers for that has its name as the value. -/
def tellsOf (a : Answer) (c : Coding) : Bool :=
  a.headers.any fun h =>
    Coding.tellingHeaders.any (sameName h.1) && trim h.2 == Text.encode c.name

/-- The coding that is undone: the first one that the answer tells of, unless it says that its body
is empty. -/
def coding? (a : Answer) : Option Coding :=
  if a.header? Coding.lengthHeader = some (Text.encode "0") then none
  else Coding.all.find? a.tellsOf

/-- The content of an answer. There is none if the body does not come in full or is not of its
coding. -/
def content? (a : Answer) : Option (List UInt8) :=
  if !a.whole then none
  else if a.coding?.isNone || a.body.isEmpty then some a.body
  else a.decoded

/-- Whether the content comes in full. -/
def complete (a : Answer) : Bool := a.content?.isSome

/-- Whether headers of a name are left out because a coding is undone. -/
def leavesOut (a : Answer) (name : String) : Bool :=
  a.coding?.isSome && Coding.bodyHeaders.any fun n => sameName n name

/-- The headers that are not left out. -/
def keptHeaders (a : Answer) : List (String × List UInt8) :=
  a.headers.filter fun h => !a.leavesOut h.1

/-! ### What is kept -/

/-- Whether an answer to a request with this method has a body. -/
def hasBody (a : Answer) (method : Method) : Bool :=
  method ≠ .head && a.status ≠ 204 && a.status ≠ 304

/-- The answer as a request with this method gets it. -/
def forMethod (a : Answer) (method : Method) : Answer :=
  if a.hasBody method then a else { a with body := [], whole := true, bodyDelay := 0 }

/-- The response that is kept of an answer: the headers that are not left out and can be shown, and
the content. -/
def response (a : Answer) : Response where
  status := a.status
  headers := a.keptHeaders.filterMap fun h => (visibleText? h.2).map (h.1, ·)
  body := a.content?.getD []

end Answer

end Vigil

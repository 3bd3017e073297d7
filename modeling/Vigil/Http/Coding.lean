/-!
# Codings of content

The content of an answer may come encoded. A client asks for the codings that it undoes, and an
answer tells of the one that it has by name.
-/

set_option autoImplicit false

namespace Vigil

/-- How content may be encoded, such that a client undoes it. -/
inductive Coding where
  | gzip | brotli | deflate
  deriving DecidableEq, Repr

namespace Coding

/-- The name of a coding in headers. -/
def name : Coding → String
  | .gzip => "gzip"
  | .brotli => "br"
  | .deflate => "deflate"

/-- All codings, in the order in which they are looked for. -/
def all : List Coding := [.gzip, .brotli, .deflate]

/-- What a client says of the codings that it undoes. -/
def offer : String := ", ".intercalate (all.map name)

/-- The header by which an answer tells how long its body is. -/
def lengthHeader : String := "content-length"

/-- The headers by which an answer may tell of a coding. -/
def tellingHeaders : List String := ["content-encoding", "transfer-encoding"]

/-- The headers that are true of a body, but not of the content once its coding is undone. -/
def bodyHeaders : List String := ["content-encoding", lengthHeader]

end Coding

end Vigil

import Vigil.Ordered.Dict
import Vigil.Url.Basic

/-!
# Queries as pairs

A query is read as pairs: at each `&` a new pair begins, and the first `=` of a pair ends its
key. Keys and values are percent-encoded, with a plus sign for the space. Declared pairs are
merged into the query of a URL: they take the place of all pairs with their keys, and all
other pairs stay as they are written.
-/

set_option autoImplicit false

namespace Vigil.Query

/-- Characters that stand for themselves in keys and values. -/
def isPlain (b : UInt8) : Bool :=
  (48 ≤ b && b ≤ 57) || (65 ≤ b && b ≤ 90) || (97 ≤ b && b ≤ 122) ||
    b = 42 || b = 45 || b = 46 || b = 95

/-- A byte of a key or a value as it is written. -/
def encodeByte (b : UInt8) : List Char :=
  if b = 32 then ['+'] else if isPlain b then [Char.ofNat b.toNat] else Percent.triple b

/-- A key or a value as it is written. -/
def encode (text : String) : List Char := (Text.encode text).flatMap encodeByte

/-- A pair as it is written. -/
def encodePair (key value : String) : List Char := encode key ++ '=' :: encode value

/-- The byte that a byte stands for, apart from percent-encoding. -/
def plusToSpace (b : UInt8) : UInt8 := if b = 43 then 32 else b

/-- A key or a value as it is meant; bytes that are no UTF-8 are replaced. -/
def decode (text : List Char) : String :=
  Text.decodeLossy (Percent.decode ((text.flatMap String.utf8EncodeChar).map plusToSpace))

/-- Cuts a query at `&`. -/
def cut : List Char → List (List Char)
  | [] => [[]]
  | c :: r =>
    if c = '&' then [] :: cut r
    else
      match cut r with
      | [] => [[c]]
      | p :: ps => (c :: p) :: ps

/-- The key of a written pair. -/
def keyOf (pair : List Char) : String := decode (pair.takeWhile (· != '='))

/-- The value of a written pair. -/
def valueOf (pair : List Char) : String := decode ((pair.dropWhile (· != '=')).drop 1)

/-- The written pairs of a query, empty ones left out. -/
def written (query : List Char) : List (List Char) := (cut query).filter fun p => !p.isEmpty

/-- The pairs of a query as they are meant. -/
def pairs (query : List Char) : List (String × String) :=
  (written query).map fun p => (keyOf p, valueOf p)

/-- The declared pairs, in order of their keys. -/
def declaredPairs (declared : Dict (List String)) : List (String × String) :=
  declared.entries.flatMap fun e => e.2.map (e.1, ·)

/-- The written pairs of a query after merging. -/
def mergedPairs (declared : Dict (List String)) (query : List Char) : List (List Char) :=
  (written query).filter (fun p => !declared.contains (keyOf p)) ++
    (declaredPairs declared).map fun p => encodePair p.1 p.2

/-- A query with declared pairs merged into it; there is none if no pair is left. -/
def merge (declared : Dict (List String)) (query : List Char) : Option (List Char) :=
  match mergedPairs declared query with
  | [] => none
  | ps => some (['&'].intercalate ps)

end Vigil.Query

namespace Vigil.Url

/-- A URL with declared pairs merged into its query. -/
def mergeQuery (u : Url) (declared : Dict (List String)) : Url :=
  if declared.isEmpty then u
  else
    { u with query := (Query.merge declared (u.query.getD "").toList).map String.ofList }

end Vigil.Url

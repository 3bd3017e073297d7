import Vigil.Http.Server

/-!
# Messages and answers as bytes

A message is written in full, with a request line, its headers, and its body. An answer is read
off the bytes that have come so far: it is there as soon as its body is, and when no more bytes
come an answer that is not is incomplete. A body has the length that is announced, or comes in
chunks each with its length in front, or goes on until no more bytes come.
-/

set_option autoImplicit false

namespace Vigil

namespace Message

/-- What a request asks the host for. -/
def resource (m : Message) : String := m.url.path.text ++ m.url.queryText

/-- The host of a message, with the port if one is given. -/
def hostText (m : Message) : String :=
  m.url.host.text ++ match m.url.authority.bind (·.port) with
    | some p => ":" ++ toString p
    | none => ""

/-- A header in a line of its own. -/
def headerLine (name value : String) : String := name ++ ": " ++ value ++ "\r\n"

/-- A message as bytes. -/
def bytes (m : Message) : List UInt8 :=
  let body := (m.body.map Text.encode).getD []
  let length := if m.body.isSome then headerLine "content-length" (toString body.length) else ""
  Text.encode (m.method.name ++ " " ++ m.resource ++ " HTTP/1.1\r\n" ++
    headerLine "host" m.hostText ++ headerLine "connection" "close" ++
    String.join (m.headers.map fun h => headerLine h.name h.value) ++ length ++ "\r\n") ++ body

end Message

namespace Answer

/-- Cuts bytes at the first end of a line. -/
def cutLine? : List UInt8 → Option (List UInt8 × List UInt8)
  | 13 :: 10 :: r => some ([], r)
  | b :: r => (cutLine? r).map fun p => (b :: p.1, p.2)
  | [] => none

theorem cutLine?_length {bytes line rest : List UInt8} (h : cutLine? bytes = some (line, rest)) :
    rest.length < bytes.length := by
  fun_induction cutLine? bytes generalizing line rest with
  | case1 r =>
    obtain ⟨_, rfl⟩ := Prod.mk.inj (Option.some.inj h)
    exact Nat.lt_of_lt_of_le (Nat.lt_succ_self _) (Nat.le_succ _)
  | case2 b r _ ih =>
    obtain ⟨p, hp, e⟩ := Option.map_eq_some_iff.1 h
    have := ih hp
    simp only [Prod.mk.injEq] at e
    simp only [List.length_cons, ← e.2]
    omega
  | case3 => simp at h

/-- The name and the value in a header line. -/
def headerOf (line : List UInt8) : String × List UInt8 :=
  (String.ofList ((line.takeWhile (· != 58)).map fun b => Char.ofNat b.toNat),
    trim ((line.dropWhile (· != 58)).drop 1))

/-- Reads header lines up to the empty one. -/
def headers? (bytes : List UInt8) : Option (List (String × List UInt8) × List UInt8) :=
  match h : cutLine? bytes with
  | none => none
  | some ([], rest) => some ([], rest)
  | some (b :: line, rest) =>
    have := cutLine?_length h
    (headers? rest).map fun p => (headerOf (b :: line) :: p.1, p.2)
termination_by bytes.length

/-- The number that digits to a base spell; other characters are passed over. -/
def numeral (base : Nat) (digits : List UInt8) : Nat :=
  digits.foldl (fun n b =>
    match Percent.hexValue? b with
    | some d => n * base + d.toNat
    | none => n) 0

/-- The status code in a status line. -/
def statusOf (line : List UInt8) : UInt16 :=
  UInt16.ofNat (numeral 10 (((line.dropWhile (· != 32)).drop 1).takeWhile (· != 32)))

/-- Reads a body in chunks, and whether all of it has come. -/
def chunks (bytes : List UInt8) : List UInt8 × Bool :=
  match h : cutLine? bytes with
  | none => ([], false)
  | some (line, rest) =>
    have := cutLine?_length h
    let length := numeral 16 (line.takeWhile (· != 59))
    if length = 0 then ([], true)
    else if rest.length < length + 2 then (rest.take length, false)
    else
      let more := chunks (rest.drop (length + 2))
      (rest.take length ++ more.1, more.2)
termination_by bytes.length
decreasing_by
  simp only [List.length_drop]
  omega

/-- The body of an answer with some headers, and whether all of it has come. -/
def bodyOf (headers : List (String × List UInt8)) (closed : Bool) (bytes : List UInt8) :
    List UInt8 × Bool :=
  let head : Answer := { headers }
  match head.header? "transfer-encoding", head.header? "content-length" with
  | some _, _ => chunks bytes
  | none, some digits =>
    (bytes.take (numeral 10 digits), numeral 10 digits ≤ bytes.length)
  | none, none => (bytes, closed)

/-- The answer to a request with some method that bytes hold; `closed` tells that no more will
come. -/
def ofBytes? (method : Method) (closed : Bool) (bytes : List UInt8) : Option Answer := do
  let (line, rest) ← cutLine? bytes
  let (headers, rest) ← headers? rest
  let a := ({ status := statusOf line, headers } : Answer).forMethod method
  if a.hasBody method then
    let (body, complete) := bodyOf headers closed rest
    if complete || closed then return { a with body, whole := complete } else none
  else return a

end Answer

end Vigil

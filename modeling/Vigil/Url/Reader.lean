import Vigil.Url.Basic

/-!
# Reading URLs

Blanks and control characters around a URL, and tabs and line ends within it, are dropped.
With the schemes of the web a backslash is as good as a slash, and any number of slashes may
stand in front of the host. Dots as segments of a path are followed while it is read.
-/

set_option autoImplicit false

namespace Vigil.Url

/-- Characters dropped at the ends. -/
def isMargin (c : Char) : Bool := c.toNat ≤ 0x20

/-- Characters dropped anywhere. -/
def isLineBreak (c : Char) : Bool := c == '\t' || c == '\n' || c == '\r'

/-- The characters of a URL that mean something. -/
def clean (text : String) : List Char :=
  let inner := ((text.toList.dropWhile isMargin).reverse.dropWhile isMargin).reverse
  inner.filter fun c => !isLineBreak c

/-- Characters of schemes. -/
def isSchemeChar (c : Char) : Bool := c.isAlphanum || c == '+' || c == '-' || c == '.'

/-- The scheme at the beginning of a text, in lower case, and what follows its colon. -/
def scheme? (text : List Char) : Option (String × List Char) :=
  if !text.head?.any Char.isAlpha then none
  else
    match text.dropWhile isSchemeChar with
    | ':' :: rest => some (String.ofList ((text.takeWhile isSchemeChar).map Char.toLower), rest)
    | _ => none

/-- Characters that part the segments of a path. -/
def isSlash (kind : SchemeKind) (c : Char) : Bool := c == '/' || (kind != .other && c == '\\')

/-- Characters that end a path. -/
def endsPath (c : Char) : Bool := c == '?' || c == '#'

/-- Whether a segment stands for the place where it is. -/
def isDot (segment : List Char) : Bool :=
  [".", "%2e"].contains (String.ofList (segment.map Char.toLower))

/-- Whether a segment stands for the place above. -/
def isDoubleDot (segment : List Char) : Bool :=
  ["..", ".%2e", "%2e.", "%2e%2e"].contains (String.ofList (segment.map Char.toLower))

/-- Cuts a path at its slashes. -/
def cutPath (kind : SchemeKind) : List Char → List (List Char)
  | [] => [[]]
  | c :: r =>
    if isSlash kind c then [] :: cutPath kind r
    else
      match cutPath kind r with
      | [] => [[c]]
      | s :: ss => (c :: s) :: ss

/-- A segment as it is written. -/
def segmentText (segment : List Char) : String :=
  String.ofList (Percent.encode .path segment)

/-- Whether a segment is the name of a drive. -/
def isDrive (segment : List Char) : Bool :=
  match segment with
  | [a, b] => a.isAlpha && (b == ':' || b == '|')
  | _ => false

/-- The place above; the one above a drive is the drive. -/
def above : List String → List String
  | [] => []
  | s :: done => if isDrive s.toList then s :: done else done

/-- Adds a segment to the path of a URL. A drive at the beginning of the path of a file is always
written with a colon. -/
def addSegment (kind : SchemeKind) (done : List String) (segment : List Char) : List String :=
  match segment with
  | a :: _ =>
    if kind = .file ∧ done.isEmpty ∧ isDrive segment then [String.ofList [a, ':']]
    else segmentText segment :: done
  | [] => "" :: done

/-- Goes through the segments of a path; `done` are those it leads through, backwards. -/
def follow (kind : SchemeKind) (done : List String) : List (List Char) → List String
  | [] => done.reverse
  | [last] =>
    if isDoubleDot last then ("" :: above done).reverse
    else if isDot last then ("" :: done).reverse
    else (addSegment kind done last).reverse
  | s :: rest =>
    if isDoubleDot s then follow kind (above done) rest
    else if isDot s then follow kind done rest
    else follow kind (addSegment kind done s) rest

/-- The segments of the path behind an authority. -/
def segmentsOf (kind : SchemeKind) (text : List Char) : List String :=
  match text with
  | c :: r => follow kind [] (cutPath kind (if isSlash kind c then r else c :: r))
  | [] => if kind = .other then [] else [""]

/-- The path with some segments. Paths of files do not begin with empty ones. -/
def pathOf (kind : SchemeKind) (segments : List String) : UrlPath :=
  if kind = .file then
    match segments.dropWhile String.isEmpty with
    | [] => .segments [""]
    | s :: r => .segments (s :: r)
  else .segments segments

/-- The set that queries are encoded by. -/
def querySet : SchemeKind → Percent.EncodeSet
  | .other => .query
  | _ => .webQuery

/-- Puts the query and the fragment with which a text begins to a URL. -/
def withTail (u : Url) (text : List Char) : Url :=
  let fragment (cs : List Char) := some (String.ofList (Percent.encode .fragment cs))
  match text with
  | '?' :: r =>
    let q := some (String.ofList (Percent.encode (querySet u.kind) (r.takeWhile (· != '#'))))
    match r.dropWhile (· != '#') with
    | [] => { u with query := q, fragment := none }
    | _ :: f => { u with query := q, fragment := fragment f }
  | '#' :: f => { u with fragment := fragment f }
  | _ => u

/-- Reads the path, the query and the fragment behind an authority. -/
def withPath (scheme : String) (authority : Option Authority) (text : List Char) : Url :=
  let kind := SchemeKind.of scheme
  let path := pathOf kind (segmentsOf kind (text.takeWhile fun c => !endsPath c))
  withTail ⟨scheme, authority, path, none, none⟩ (text.dropWhile fun c => !endsPath c)

/-- Characters that end an authority. -/
def endsAuthority (kind : SchemeKind) (c : Char) : Bool := isSlash kind c || endsPath c

/-- Cuts the credentials off an authority; they end at the last at sign. -/
def cutCredentials (text : List Char) : Option (List Char) × List Char :=
  let host := (text.reverse.takeWhile (· != '@')).reverse
  if host.length = text.length then (none, text)
  else (some (text.take (text.length - host.length - 1)), host)

/-- The user name and the password in credentials. -/
def readCredentials (text : List Char) : String × Option String :=
  let written (cs : List Char) := String.ofList (Percent.encode .userinfo cs)
  match text.dropWhile (· != ':') with
  | _ :: p => (written (text.takeWhile (· != ':')), if p.isEmpty then none else some (written p))
  | [] => (written text, none)

/-- Cuts a host off the port behind it; colons between brackets belong to the host. -/
def cutHost : Bool → List Char → List Char × List Char
  | _, [] => ([], [])
  | inside, c :: r =>
    if c = ':' ∧ !inside then ([], c :: r)
    else
      let p := cutHost (if c = '[' then true else if c = ']' then false else inside) r
      (c :: p.1, p.2)

/-- The number of a port, if there are digits and it is not too large. -/
def readPort (digits : List Char) : Except UrlFault (Option Nat) :=
  let n := digits.foldl (fun n d => n * 10 + (d.toNat - 48)) 0
  if digits.isEmpty then .ok none else if n < 65536 then .ok (some n) else .error .badPort

/-- Reads what stands behind a host: nothing, or a colon and a port. Without a scheme of the
web, a backslash may begin the path right behind the port. -/
def readPortPart (scheme : String) (text : List Char) :
    Except UrlFault (Option Nat × List Char) :=
  match text with
  | ':' :: r => do
    let rest := r.dropWhile Char.isDigit
    let port ← readPort (r.takeWhile Char.isDigit)
    if rest.isEmpty || (SchemeKind.of scheme == .other && rest.head? == some '\\') then
      return (if port = defaultPort? scheme then none else port, rest)
    else .error .badPort
  | _ => .ok (none, [])

/-- Reads an authority and what follows it. -/
def readAuthority (scheme : String) (text : List Char) : Except UrlFault Url := do
  let kind := SchemeKind.of scheme
  let whole := text.takeWhile fun c => !endsAuthority kind c
  let rest := text.dropWhile fun c => !endsAuthority kind c
  let (credentials?, place) := cutCredentials whole
  if credentials? = some [] && place.isEmpty && !rest.isEmpty then throw .emptyHost
  let (username, password) := readCredentials (credentials?.getD [])
  let (hostText, portText) := cutHost false place
  if kind = .web && hostText.isEmpty then throw .emptyHost
  let host ← if kind = .other then Host.readOther hostText else Host.readWeb hostText
  if host = .empty && !portText.isEmpty then throw .emptyHost
  let (port, behind) ← readPortPart scheme portText
  if host = .empty && (!username.isEmpty || password.isSome) then throw .emptyHost
  return withPath scheme (some { username, password, host, port }) (behind ++ rest)

/-- Whether the path in front of which a host stands begins with a drive. -/
def beginsWithDrive (text : List Char) : Bool :=
  match segmentsOf .file (text.takeWhile fun c => !endsPath c) with
  | s :: _ => isDrive s.toList
  | [] => false

/-- Reads a URL of a file behind its scheme. There is no host in front of a drive. -/
def readFile (scheme : String) (text : List Char) : Except UrlFault Url := do
  let noHost : Option Authority := some { host := .empty }
  match text with
  | a :: b :: r =>
    if isSlash .file a && isSlash .file b then
      let hostText := r.takeWhile fun c => !endsAuthority .file c
      let rest := r.dropWhile fun c => !endsAuthority .file c
      if hostText.isEmpty then return withPath scheme noHost rest
      else if isDrive hostText then return withPath scheme noHost r
      else
        let host ← Host.readWeb hostText
        if host = .name "localhost" || beginsWithDrive rest then
          return withPath scheme noHost rest
        else return withPath scheme (some { host }) rest
    else return withPath scheme noHost text
  | _ => return withPath scheme noHost text

/-- Reads a URL behind its scheme. -/
def readAbsolute (scheme : String) (text : List Char) : Except UrlFault Url :=
  match SchemeKind.of scheme with
  | .web => readAuthority scheme (text.dropWhile (isSlash .web))
  | .file => readFile scheme text
  | .other =>
    match text with
    | '/' :: '/' :: r => readAuthority scheme r
    | '/' :: _ => .ok (withPath scheme none text)
    | _ =>
      let path := Percent.encode .controls (text.takeWhile fun c => !endsPath c)
      .ok (withTail ⟨scheme, none, .plain (String.ofList path), none, none⟩
        (text.dropWhile fun c => !endsPath c))

/-- The absolute URL that a text is. -/
def parse (text : String) : Except UrlFault Url :=
  match scheme? (clean text) with
  | some (scheme, rest) => readAbsolute scheme rest
  | none => .error .relative

/-- Reads a URL without a scheme, starting from another. -/
def readRelative (base : Url) (text : List Char) : Except UrlFault Url :=
  match base.path with
  | .plain _ =>
    if text.head? = some '#' then .ok (withTail base text) else .error .relativeToOpaque
  | .segments list =>
    match text with
    | [] => .ok base.withoutFragment
    | c :: r =>
      if endsPath c then .ok (withTail base.withoutFragment text)
      else if isSlash base.kind c then
        if r.head?.any (isSlash base.kind) then
          readAuthority base.scheme
            (if base.kind = .other then r.drop 1 else r.dropWhile (isSlash base.kind))
        else .ok (withPath base.scheme base.authority text)
      else
        let ss := follow base.kind list.dropLast.reverse
          (cutPath base.kind (text.takeWhile fun c => !endsPath c))
        .ok (withTail { base with path := pathOf base.kind ss, query := none, fragment := none }
          (text.dropWhile fun c => !endsPath c))

/-- The URL that a text means at a place with the URL `base`. -/
def join (base : Url) (text : String) : Except UrlFault Url :=
  match scheme? (clean text) with
  | some (scheme, rest) =>
    if SchemeKind.of scheme == .web && scheme == base.scheme &&
        (rest.takeWhile (isSlash .web)).length < 2 then
      readRelative base rest
    else readAbsolute scheme rest
  | none => readRelative base (clean text)

end Vigil.Url

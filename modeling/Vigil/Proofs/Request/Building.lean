import Vigil.Proofs.Http.Naming
import Vigil.Proofs.Request.Outcome
import Vigil.Proofs.Sequence
import Vigil.Proofs.Text.Order
import Vigil.Proofs.Url.Merging

/-!
# When a request can be built, and what it carries

A request can be built if its URL, with the slots filled in, is one with a host, and if the headers
that it has values for are headers (`RequestSpec.IsBuildable`). Then its message carries what is
written in the specification and nothing else (`build_law`): keys that are the same name say what
they have to say one after the other, in the order of their bytes.
-/

set_option autoImplicit false

namespace Vigil

/-- A URL without user name and password. -/
def Url.IsAnonymous (u : Url) : Prop :=
  ∀ a, u.authority = some a → a.username = "" ∧ a.password = none

namespace RequestSpec

variable {s : RequestSpec} {store : Store} {m : Message} {u : Url} {cause : Misconfiguration}

/-- The pairs of names and values that the headers of a request are made of. -/
def headerPairs (s : RequestSpec) (store : Store) : List (String × String) :=
  (Template.renderDict store s.headers).entries.flatMap fun e => e.2.map (e.1, ·)

/-- What a specification says under a header name: the values of all its keys that are this name,
keys in order. -/
def headerValues (s : RequestSpec) (store : Store) (name : String) : List String :=
  (s.headers.entries.filter fun e => sameName e.1 name).flatMap fun e =>
    e.2.map (Template.render store)

theorem headerPairs_eq (s : RequestSpec) (store : Store) :
    s.headerPairs store = s.headers.entries.flatMap fun e =>
      e.2.map fun t => (e.1, Template.render store t) := by
  unfold headerPairs Template.renderDict Dict.mapValues
  rw [List.flatMap_map]
  simp only [List.map_map]
  rfl

theorem mem_headerPairs_iff {p : String × String} :
    p ∈ s.headerPairs store ↔
      ∃ e ∈ s.headers.entries, ∃ t ∈ e.2, p = (e.1, Template.render store t) := by
  rw [headerPairs_eq, List.mem_flatMap]
  simp only [List.mem_map, eq_comm]

/-- Pairs made of the keys that are a name are the pairs with that name. -/
theorem filter_headerPairs (name : String) :
    ((s.headerPairs store).filter fun p => sameName p.1 name).map (·.2) =
      s.headerValues store name := by
  rw [headerPairs_eq, headerValues]
  induction s.headers.entries with
  | nil => rfl
  | cons e es ih =>
    rw [List.flatMap_cons, List.filter_append, List.map_append, ih, List.filter_map,
      List.filter_cons, List.map_map]
    cases same : sameName e.1 name with
    | true =>
      have all : e.2.filter ((fun p => sameName p.1 name) ∘
          fun t => (e.1, Template.render store t)) = e.2 :=
        List.filter_eq_self.2 fun t _ => same
      rw [all, if_pos rfl, List.flatMap_cons]
      rfl
    | false =>
      have none : e.2.filter ((fun p => sameName p.1 name) ∘
          fun t => (e.1, Template.render store t)) = [] :=
        List.filter_eq_nil_iff.2 fun t _ => by
          rw [Function.comp_apply, same]
          exact Bool.false_ne_true
      rw [none, if_neg Bool.false_ne_true]
      rfl

/-- Name and value may be those of a header. -/
def IsHeader (p : String × String) : Prop :=
  Header.isName p.1 = true ∧ Header.isValue p.2 = true

theorem header_eq_ok_iff {p : String × String} {h : Header} :
    header p.1 p.2 = .ok h ↔ IsHeader p ∧ h = ⟨Header.lowerName p.1, p.2⟩ := by
  unfold header IsHeader
  cases Header.isName p.1 <;> cases Header.isValue p.2 <;> simp [eq_comm]

theorem renderHeaders_eq_ok_iff {hs : List Header} :
    s.renderHeaders store = .ok hs ↔ (∀ p ∈ s.headerPairs store, IsHeader p) ∧
      hs = (s.headerPairs store).map fun p => ⟨Header.lowerName p.1, p.2⟩ := by
  have made : s.renderHeaders store = (s.headerPairs store).mapM fun p => header p.1 p.2 := rfl
  rw [made]
  exact mapM_eq_ok_iff_map fun p h => header_eq_ok_iff

theorem hasHost_mergeQuery (u : Url) (declared : Dict (List String)) :
    (u.mergeQuery declared).hasHost = u.hasHost := by
  unfold Url.hasHost
  rw [(Url.frame_mergeQuery u declared).2.1]

/-- The URL with the declared pairs. -/
def merged (s : RequestSpec) (store : Store) (u : Url) : Url :=
  u.mergeQuery (Template.renderDict store s.query)

theorem renderUrl_of_parse (read : Url.parse (Template.render store s.url) = .ok u) :
    s.renderUrl store =
      if u.hasHost then .ok (s.merged store u) else .error (.noHost (s.merged store u).text) := by
  unfold renderUrl
  simp only [read, hasHost_mergeQuery]
  rfl

/-- What is wrong with a request that cannot be built: the first thing that is. -/
inductive Flawed (s : RequestSpec) (store : Store) : Misconfiguration → Prop where
  | url {fault : UrlFault} (bad : Url.parse (Template.render store s.url) = .error fault) :
      Flawed s store (.invalidUrl (Template.render store s.url) fault)
  | host {u : Url} (read : Url.parse (Template.render store s.url) = .ok u)
      (none : u.hasHost = false) : Flawed s store (.noHost (s.merged store u).text)
  | header {u : Url} {before after : List (String × String)} {p : String × String}
      {cause : Misconfiguration} (read : Url.parse (Template.render store s.url) = .ok u)
      (host : u.hasHost = true) (pairs : s.headerPairs store = before ++ p :: after)
      (good : ∀ q ∈ before, IsHeader q) (bad : RequestSpec.header p.1 p.2 = .error cause) :
      Flawed s store cause

/-- The message of a request whose URL is `u`. -/
def message (s : RequestSpec) (store : Store) (u : Url) : Message :=
  let m := Message.ofUrl s.method (s.merged store u)
  { m with
    headers := m.headers ++ (s.headerPairs store).map fun p => ⟨Header.lowerName p.1, p.2⟩
    body := s.renderBody store }

theorem Flawed.build (flawed : s.Flawed store cause) : s.build store = .error cause := by
  unfold RequestSpec.build
  cases flawed with
  | @url fault bad =>
    have refused : s.renderUrl store =
        .error (.invalidUrl (Template.render store s.url) fault) := by
      unfold renderUrl
      simp only [bad]
    rw [refused]
    rfl
  | host read none =>
    rw [renderUrl_of_parse read, none]
    rfl
  | header read host pairs good bad =>
    have refused : s.renderHeaders store = .error cause := by
      refine mapM_eq_error_iff.2 ⟨_, _, _, pairs, bad, fun q mem => ?_⟩
      exact ⟨_, header_eq_ok_iff.2 ⟨good q mem, rfl⟩⟩
    rw [renderUrl_of_parse read, host, refused]
    rfl

theorem build_of_headers (read : Url.parse (Template.render store s.url) = .ok u)
    (host : u.hasHost = true) (headers : ∀ p ∈ s.headerPairs store, IsHeader p) :
    s.build store = .ok (s.message store u) := by
  unfold build
  rw [renderUrl_of_parse read, host, renderHeaders_eq_ok_iff.2 ⟨headers, rfl⟩]
  rfl

/-- A request is built, or something is wrong with it. -/
theorem build_cases (s : RequestSpec) (store : Store) :
    (∃ u, Url.parse (Template.render store s.url) = .ok u ∧ u.hasHost = true ∧
      ∀ p ∈ s.headerPairs store, IsHeader p) ∨ ∃ cause, s.Flawed store cause := by
  cases read : Url.parse (Template.render store s.url) with
  | error fault => exact .inr ⟨_, .url read⟩
  | ok u =>
    cases host : u.hasHost with
    | false => exact .inr ⟨_, .host read host⟩
    | true =>
      cases made : s.renderHeaders store with
      | ok hs => exact .inl ⟨u, rfl, host, (renderHeaders_eq_ok_iff.1 made).1⟩
      | error cause =>
        obtain ⟨before, p, after, pairs, bad, good⟩ := mapM_eq_error_iff.1 made
        refine .inr ⟨cause, .header read host pairs (fun q mem => ?_) bad⟩
        obtain ⟨h, ok⟩ := good q mem
        exact (header_eq_ok_iff.1 ok).1

theorem build_eq_ok_iff : s.build store = .ok m ↔
    ∃ u, Url.parse (Template.render store s.url) = .ok u ∧ u.hasHost = true ∧
      (∀ p ∈ s.headerPairs store, IsHeader p) ∧ m = s.message store u := by
  constructor
  · intro built
    rcases s.build_cases store with ⟨u, read, host, headers⟩ | ⟨cause, flawed⟩
    · rw [build_of_headers read host headers] at built
      exact ⟨u, read, host, headers, (Except.ok.inj built).symm⟩
    · rw [flawed.build] at built
      cases built
  · rintro ⟨u, read, host, headers, rfl⟩
    exact build_of_headers read host headers

theorem build_eq_error_iff : s.build store = .error cause ↔ s.Flawed store cause := by
  refine ⟨fun failed => ?_, Flawed.build⟩
  rcases s.build_cases store with ⟨u, read, host, headers⟩ | ⟨cause', flawed⟩
  · rw [build_of_headers read host headers] at failed
    cases failed
  · rw [flawed.build] at failed
    cases failed
    exact flawed

/-! ## What a message carries -/

/-- A message for a URL without credentials is for that URL, and has no headers yet. -/
theorem ofUrl_of_isAnonymous (anonymous : u.IsAnonymous) (method : Method) :
    Message.ofUrl method u = { method, url := u } := by
  have none : u.credentials? = none := by
    unfold Url.credentials?
    cases authority : u.authority with
    | none => rfl
    | some a =>
      obtain ⟨username, password⟩ := anonymous a authority
      have nobody : Text.decode? (Percent.decodeText "") = some "" := by decide +kernel
      simp only [bind, Option.bind, username, password, nobody]
      rfl
  unfold Message.ofUrl
  rw [none]

/-- A request can be built. -/
structure IsBuildable (s : RequestSpec) (store : Store) : Prop where
  /-- What the URL becomes is a URL with a host. -/
  url : ∃ u, Url.parse (Template.render store s.url) = .ok u ∧ u.hasHost = true
  /-- A key is a header name if it has values; otherwise it is not looked at. -/
  names : ∀ e ∈ s.headers.entries, e.2 ≠ [] → Header.isName e.1 = true
  /-- What a header value becomes is a header value. -/
  values : ∀ e ∈ s.headers.entries, ∀ t ∈ e.2, Header.isValue (Template.render store t) = true

theorem forall_isHeader_iff : (∀ p ∈ s.headerPairs store, IsHeader p) ↔
    (∀ e ∈ s.headers.entries, e.2 ≠ [] → Header.isName e.1 = true) ∧
      ∀ e ∈ s.headers.entries, ∀ t ∈ e.2, Header.isValue (Template.render store t) = true := by
  constructor
  · intro each
    constructor
    · intro e mem some
      obtain ⟨t, listed⟩ := List.exists_mem_of_ne_nil e.2 some
      exact (each _ (mem_headerPairs_iff.2 ⟨e, mem, t, listed, rfl⟩)).1
    · intro e mem t listed
      exact (each _ (mem_headerPairs_iff.2 ⟨e, mem, t, listed, rfl⟩)).2
  · rintro ⟨names, values⟩ p made
    obtain ⟨e, mem, t, listed, rfl⟩ := mem_headerPairs_iff.1 made
    exact ⟨names e mem (List.ne_nil_of_mem listed), values e mem t listed⟩

/-- A message carries what a request says, filled in with the values of a store. -/
structure Carries (s : RequestSpec) (store : Store) (m : Message) : Prop where
  method : m.method = s.method
  /-- It is for the URL, with the declared pairs merged into it. -/
  url : ∃ u, Url.parse (Template.render store s.url) = .ok u ∧ m.url = s.merged store u
  /-- There is a body if it does not become empty, -/
  body_iff : m.body.isSome = true ↔ Template.render store s.body ≠ ""
  /-- and then that is the body. -/
  body : ∀ text, m.body = some text → text = Template.render store s.body
  /-- Under each name it says what the keys that are this name say, one key after the other. -/
  headers : ∀ name, Header.under name m.headers = s.headerValues store name
  /-- Keys come in the order of their bytes. -/
  ordered : s.headers.entries.Pairwise fun e f => Text.encode e.1 < Text.encode f.1
  /-- There is no other header. -/
  nothingElse : ∀ h ∈ m.headers, ∃ e ∈ s.headers.entries, sameName h.name e.1 = true ∧
    ∃ t ∈ e.2, h.value = Template.render store t

/-- When a request can be built, and what it is then. -/
structure BuildLaw (s : RequestSpec) (store : Store) : Prop where
  succeeds : (∃ m, s.build store = .ok m) ↔ s.IsBuildable store
  /-- Otherwise the first thing that is wrong is reported. -/
  fails : ∀ cause, s.build store = .error cause ↔ s.Flawed store cause
  /-- That is a configuration error, and nothing happens. -/
  configuration : ∀ cause, s.build store = .error cause →
    ∀ (client : Client) (server : Server) (j : Journal) (allowed : Duration),
      s.timeLimit client.defaultTimeout = .ok allowed →
        s.execute client server store j = (.error (.configuration cause), j)
  message : ∀ m, s.build store = .ok m → s.Carries store m

theorem carries_message (read : Url.parse (Template.render store s.url) = .ok u)
    (anonymous : u.IsAnonymous) : s.Carries store (s.message store u) := by
  have bare : Message.ofUrl s.method (s.merged store u) =
      { method := s.method, url := s.merged store u } := by
    apply ofUrl_of_isAnonymous
    unfold Url.IsAnonymous
    rw [merged, (Url.frame_mergeQuery u _).2.1]
    exact anonymous
  have own : (s.message store u).headers =
      (s.headerPairs store).map fun p => ⟨Header.lowerName p.1, p.2⟩ := by
    unfold message
    rw [bare]
    rfl
  constructor
  case method =>
    unfold message
    rw [bare]
  case url =>
    refine ⟨u, read, ?_⟩
    unfold message
    rw [bare]
  case body_iff =>
    unfold message renderBody
    by_cases empty : Template.render store s.body = "" <;> simp [empty]
  case body =>
    intro text here
    unfold message renderBody at here
    simp only at here
    split at here
    · cases here
    · exact (Option.some.inj here).symm
  case headers =>
    intro name
    rw [own, Header.under_map_lowerName, filter_headerPairs]
  case ordered => exact s.headers.ascending.imp Text.encode_lt_encode
  case nothingElse =>
    intro h carried
    rw [own] at carried
    obtain ⟨p, made, rfl⟩ := List.mem_map.1 carried
    obtain ⟨e, mem, t, value, rfl⟩ := mem_headerPairs_iff.1 made
    refine ⟨e, mem, ?_, t, value, rfl⟩
    rw [sameName_lowerName]
    exact sameName_iff.2 rfl

/-- **Building requests.** -/
theorem build_law (s : RequestSpec) (store : Store)
    (anonymous : ∀ u, Url.parse (Template.render store s.url) = .ok u → u.IsAnonymous) :
    s.BuildLaw store where
  succeeds := by
    constructor
    · rintro ⟨m, built⟩
      obtain ⟨u, read, host, headers, -⟩ := build_eq_ok_iff.1 built
      obtain ⟨names, values⟩ := forall_isHeader_iff.1 headers
      exact ⟨⟨u, read, host⟩, names, values⟩
    · rintro ⟨⟨u, read, host⟩, names, values⟩
      exact ⟨_, build_of_headers read host (forall_isHeader_iff.2 ⟨names, values⟩)⟩
  fails _ := build_eq_error_iff
  configuration cause failed client server j allowed timeLimit :=
    execute_of_unprepared (prepare_of_build timeLimit failed)
  message m built := by
    obtain ⟨u, read, -, -, rfl⟩ := build_eq_ok_iff.1 built
    exact carries_message read (anonymous u read)

/-- A request with two keys that are one name, one that is none but has no values, and a body that
becomes empty. -/
def mixed : RequestSpec where
  name := "mixed"
  method := .post
  url := "http://[::1]/\x7b\x7bid\x7d\x7d"
  headers := .ofList [("x-tag", ["3"]), ("X-Tag", ["1", "\x7b\x7bid\x7d\x7d"]), ("not a name", [])]
  body := "\x7b\x7bnothing\x7d\x7d"

/-- Values for its slots. -/
def fillings : Store := ⟨[.provided "id" "2", .provided "nothing" ""]⟩

/-- It can be built. Its message says what both keys say, and has no body. -/
theorem build_law_mixed :
    (∀ u, Url.parse (Template.render fillings mixed.url) = .ok u → u.IsAnonymous) ∧
    mixed.BuildLaw fillings ∧ mixed.IsBuildable fillings ∧
    ∀ m, mixed.build fillings = .ok m →
      m.method = .post ∧ m.body = none ∧ Header.under "x-TAG" m.headers = ["1", "2", "3"] := by
  have url : (Url.parse (Template.render fillings mixed.url)).toOption =
      some ⟨"http", some Url.loopback, .segments ["2"], none, none⟩ := by decide +kernel
  have anonymous : ∀ u, Url.parse (Template.render fillings mixed.url) = .ok u →
      u.IsAnonymous := by
    intro u read a authority
    rw [read] at url
    cases Option.some.inj url
    cases Option.some.inj authority
    exact ⟨rfl, rfl⟩
  have law := build_law mixed fillings anonymous
  have built : (mixed.build fillings).toOption.isSome = true := by decide +kernel
  refine ⟨anonymous, law, law.succeeds.1 ?_, fun m made => ⟨?_, ?_, ?_⟩⟩
  · cases made : mixed.build fillings with
    | error cause =>
      rw [made] at built
      cases built
    | ok m => exact ⟨m, rfl⟩
  · exact (law.message m made).method
  · cases body : m.body with
    | none => rfl
    | some text =>
      have empty : Template.render fillings mixed.body = "" := by decide +kernel
      exact absurd empty ((law.message m made).body_iff.1 (by rw [body]; rfl))
  · rw [(law.message m made).headers]
    decide +kernel

end RequestSpec

end Vigil

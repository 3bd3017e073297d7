import Vigil.Proofs.Http.Defaults
import Vigil.Proofs.Request.Arrival
import Vigil.Proofs.Request.Building

/-!
# What becomes of the default headers in the settings

They fill in for what a request does not say itself (`Client.defaults_law`). They are not sent
alongside it, and of several for one name only the last is sent.
-/

set_option autoImplicit false

namespace Vigil

open Header

namespace RequestSpec

variable {s : RequestSpec} {store : Store} {m : Message}

/-- A request's own headers: those of its specification, and credentials that stood in its URL. -/
theorem own_of_build (built : s.build store = .ok m) : AllLower m.headers ∧
    ∀ name, ∃ credentials, under name m.headers = credentials ++ s.headerValues store name ∧
      (sameName "authorization" name = false → credentials = []) := by
  obtain ⟨u, -, -, -, rfl⟩ := build_eq_ok_iff.1 built
  have credentials : (Message.ofUrl s.method (s.merged store u)).headers = [] ∨
      ∃ value,
        (Message.ofUrl s.method (s.merged store u)).headers = [⟨"authorization", value⟩] := by
    unfold Message.ofUrl
    split
    · exact .inr ⟨_, rfl⟩
    · exact .inl rfl
  have authorization : lowerName "authorization" = "authorization" := by decide
  unfold message
  constructor
  · refine .append ?_ (allLower_map_lowerName _)
    rcases credentials with none | ⟨value, some⟩
    · rw [none]
      nofun
    · rw [some]
      exact List.forall_mem_cons.2 ⟨authorization, nofun⟩
  · intro name
    refine ⟨under name (Message.ofUrl s.method (s.merged store u)).headers, ?_, fun other => ?_⟩
    · rw [under_append, under_map_lowerName, filter_headerPairs]
    · rcases credentials with none | ⟨value, some⟩
      · rw [none]
        rfl
      · rw [some, under_cons, other]
        rfl

end RequestSpec

namespace Client

/-- What becomes of the default headers in the settings of a client. -/
structure DefaultsLaw (settings : ClientSettings) (client : Client) : Prop where
  /-- A request says under a name what its specification says, after the credentials out of its URL
  if the name is theirs. -/
  own : ∀ (s : RequestSpec) (store : Store) (m : Message), s.build store = .ok m →
    ∀ name, ∃ credentials, under name m.headers = credentials ++ s.headerValues store name ∧
      (sameName "authorization" name = false → credentials = [])
  /-- It is sent with that, and only if that is nothing, with what the settings offer. Besides, it
  asks for the codings that a client undoes, if what is sent so far says neither what it takes nor
  that it is for a part of the content. -/
  dressed : ∀ (s : RequestSpec) (store : Store) (m : Message), s.build store = .ok m →
    ∀ name, under name (client.dress m).headers =
      settings.filled (under · m.headers) name ++
        if sameName "accept-encoding" name = true ∧
          settings.filled (under · m.headers) "accept-encoding" = [] ∧
          settings.filled (under · m.headers) "range" = [] then [Coding.offer] else []
  /-- So what the settings have for a name is sent alongside what the request says itself only if
  the latter is nothing, and the settings have one entry for the name. -/
  alongside : ∀ (s : RequestSpec) (store : Store) (m : Message), s.build store = .ok m →
    ∀ name, settings.entriesFor name ≠ [] →
      ((under name (client.dress m).headers).Perm
          (under name m.headers ++ settings.entriesFor name) ↔
        under name m.headers = [] ∧ (settings.entriesFor name).length = 1)
  /-- That is the first message that arrives of a request, and the others are what redirects make
  of it. -/
  arrives : ∀ (s : RequestSpec) (server : Server) (store : Store) (j : Journal), ∃ sent,
    (s.execute client server store j).2.arrived = j.arrived ++ sent ∧
      (sent = [] ∨ ∃ m, s.build store = .ok m ∧ (client.dress m).Trail sent)

variable {settings : ClientSettings} {client : Client}

/-- A list is the same as another one with more only if there is no more. -/
theorem perm_offered_iff {own entries : List String} {standing : Option String}
    (some : entries ≠ []) :
    (if own = [] then (entries.getLast?.or standing).toList else own).Perm (own ++ entries) ↔
      own = [] ∧ entries.length = 1 := by
  constructor
  · intro perm
    have size := perm.length_eq
    split at size
    · next none =>
      rw [List.getLast?_eq_some_getLast some, none] at size
      exact ⟨none, size.symm⟩
    · rw [List.length_append] at size
      exact absurd (List.eq_nil_of_length_eq_zero (by omega)) some
  · rintro ⟨rfl, one⟩
    obtain ⟨value, rfl⟩ := List.length_eq_one_iff.1 one
    exact .refl _

/-- What the settings fill in, in the headers that are sent. -/
theorem under_filled_settings {s : RequestSpec} {store : Store} {m : Message}
    (made : Client.ofSettings settings = .ok client) (built : s.build store = .ok m)
    (name : String) :
    under name (client.filledHeaders m.headers) = settings.filled (under · m.headers) name := by
  rw [under_filled (RequestSpec.own_of_build built).1 (allLower_defaults made),
    under_defaults made]
  rfl

/-- **Default headers.** -/
theorem defaults_law (made : Client.ofSettings settings = .ok client) :
    client.DefaultsLaw settings where
  own s store m built := (RequestSpec.own_of_build built).2
  dressed s store m built name := by
    rw [under_dress (RequestSpec.own_of_build built).1 (allLower_defaults made)]
    simp only [under_filled_settings made built]
  alongside s store m built name some := by
    have offered : settings.filled (under · m.headers) name ≠ [] := by
      unfold ClientSettings.filled ClientSettings.offered?
      split
      · rw [List.getLast?_eq_some_getLast some]
        exact List.cons_ne_nil _ _
      · next own => exact own
    -- What the settings have for the name keeps the client from asking by itself.
    have silent : ¬ (sameName "accept-encoding" name = true ∧
        under "accept-encoding" (client.filledHeaders m.headers) = [] ∧
        under "range" (client.filledHeaders m.headers) = []) := by
      rintro ⟨same, none, -⟩
      rw [under_congr same, under_filled_settings made built] at none
      exact offered none
    rw [under_dress (RequestSpec.own_of_build built).1 (allLower_defaults made), if_neg silent,
      List.append_nil, under_filled_settings made built]
    exact perm_offered_iff some
  arrives s server store j := s.arrived_execute client server store j

/-- Settings with two entries that are one name, and a header that requests have themselves. -/
def overlapping : ClientSettings where
  defaultHeaders := .ofList [("X-Env", "prod"), ("x-env", "test"), ("x-team", "ops")]

/-- A request that says itself who sends it, twice. -/
def signed : RequestSpec where
  name := "signed"
  url := "http://[::1]/"
  headers := .ofList [("X-Team", ["dev", "web"])]

/-- Of the two entries the last is sent, and nothing is sent alongside the request's own headers. -/
theorem defaults_law_overlapping : ∃ client, Client.ofSettings overlapping = .ok client ∧
    client.DefaultsLaw overlapping ∧ ∃ m, signed.build .empty = .ok m ∧
      under "x-env" (client.dress m).headers = ["test"] ∧
      under "x-team" (client.dress m).headers = ["dev", "web"] := by
  cases made : Client.ofSettings overlapping with
  | error fault =>
    have usable : (Client.ofSettings overlapping).toOption.isSome = true := by decide +kernel
    rw [made] at usable
    cases usable
  | ok client =>
    cases built : signed.build .empty with
    | error cause =>
      have buildable : (signed.build .empty).toOption.isSome = true := by decide +kernel
      rw [built] at buildable
      cases buildable
    | ok m =>
      have law := defaults_law made
      refine ⟨client, rfl, law, m, rfl, ?_, ?_⟩
      · obtain ⟨_, own, none⟩ := law.own _ _ m built "x-env"
        rw [law.dressed _ _ m built, if_neg fun asks => absurd asks.1 (by decide),
          ClientSettings.filled, own, none (by decide)]
        decide +kernel
      · obtain ⟨_, own, none⟩ := law.own _ _ m built "x-team"
        rw [law.dressed _ _ m built, if_neg fun asks => absurd asks.1 (by decide),
          ClientSettings.filled, own, none (by decide)]
        decide +kernel

/-- Settings with one header for every request. -/
def production : ClientSettings where
  defaultHeaders := .ofList [("x-env", "prod")]

/-- A request with a header of that name. -/
def staged : RequestSpec where
  name := "staged"
  url := "http://[::1]/"
  headers := .ofList [("X-Env", ["staging"])]

/-- The header in the settings does not arrive. -/
theorem production_replaced : ∃ client, Client.ofSettings production = .ok client ∧
    production.entriesFor "x-env" = ["prod"] ∧
    ((staged.execute client (fun _ _ _ => .answer 0 {}) .empty {}).2.arrived.map fun m =>
      under "x-env" m.headers) = [["staging"]] := by
  have arrives : (Client.ofSettings production).toOption.map (fun client =>
      (staged.execute client (fun _ _ _ => .answer 0 {}) .empty {}).2.arrived.map fun m =>
        under "x-env" m.headers) = some [["staging"]] := by decide +kernel
  cases made : Client.ofSettings production with
  | error fault =>
    rw [made] at arrives
    cases arrives
  | ok client =>
    rw [made] at arrives
    obtain ⟨_, here, arrives⟩ := Option.map_eq_some_iff.1 arrives
    cases here
    exact ⟨client, rfl, by decide +kernel, arrives⟩

end Client

end Vigil

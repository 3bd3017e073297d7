import Vigil.Http.Client
import Vigil.Proofs.Http.Naming
import Vigil.Proofs.Sequence

/-!
# Default headers

What a message says under a name once its client has added the default headers: what it said
before, and what the client has under the name only if that was nothing (`Client.under_filled`). Of
the settings' entries for one name the last counts (`Client.under_defaults`). Last comes what the
client asks for itself (`Client.under_dress`).
-/

set_option autoImplicit false

namespace Vigil

namespace Header

variable {name : String} {hs gs : List Header} {h : Header}

/-- All names are in lower case. -/
def AllLower (hs : List Header) : Prop := ∀ h ∈ hs, lowerName h.name = h.name

theorem AllLower.append (first : AllLower hs) (second : AllLower gs) : AllLower (hs ++ gs) :=
  fun h mem => (List.mem_append.1 mem).elim (first h) (second h)

theorem allLower_map_lowerName (pairs : List (String × String)) :
    AllLower (pairs.map fun p => ⟨lowerName p.1, p.2⟩) := by
  intro h mem
  obtain ⟨p, -, rfl⟩ := List.mem_map.1 mem
  exact lowerName_lowerName p.1

/-- In lower case, there is a header with this very name if something is said under it. -/
theorem hasHeader_iff (lower : AllLower hs) (own : lowerName h.name = h.name)
    (same : sameName h.name name = true) :
    hasHeader hs h.name = true ↔ under name hs ≠ [] := by
  unfold hasHeader
  rw [List.any_eq_true]
  constructor
  · rintro ⟨g, mem, eq⟩
    rw [← beq_iff_eq.1 eq] at same
    exact List.ne_nil_of_mem (mem_under_iff.2 ⟨g, mem, same, rfl⟩)
  · intro some
    obtain ⟨value, said⟩ := List.exists_mem_of_ne_nil _ some
    obtain ⟨g, mem, named, -⟩ := mem_under_iff.1 said
    refine ⟨g, mem, beq_iff_eq.2 ?_⟩
    rw [← lower g mem, ← own, sameName_iff_lowerName_eq.1 named, sameName_iff_lowerName_eq.1 same]

/-! ## The headers that settings give -/

theorem allLower_setHeader (lower : AllLower hs) (own : lowerName h.name = h.name) :
    AllLower (setHeader hs h) := by
  refine AllLower.append (fun g mem => lower g (List.mem_filter.1 mem).1) fun g mem => ?_
  rw [List.mem_singleton.1 mem]
  exact own

theorem under_setHeader (lower : AllLower hs) (own : lowerName h.name = h.name) :
    under name (setHeader hs h) =
      if sameName h.name name then [h.value] else under name hs := by
  unfold setHeader
  rw [under_append, under_cons]
  cases same : sameName h.name name with
  | true =>
    rw [under_filter_none]
    · rfl
    · intro g mem named
      have eq : g.name = h.name := by
        rw [← lower g mem, ← own]
        exact (sameName_iff_lowerName_eq.1 named).trans (sameName_iff_lowerName_eq.1 same).symm
      rw [eq, bne_self_eq_false]
  | false =>
    rw [under_filter]
    · exact List.append_nil _
    · intro g mem named
      refine bne_iff_ne.2 fun eq => ?_
      rw [eq, same] at named
      cases named

theorem allLower_foldl_setHeader (lower : AllLower hs) (given : AllLower gs) :
    AllLower (gs.foldl setHeader hs) := by
  induction gs generalizing hs with
  | nil => exact lower
  | cons g gs ih =>
    obtain ⟨own, rest⟩ := List.forall_mem_cons.1 given
    exact ih (allLower_setHeader lower own) rest

/-- Of the headers set one after the other, the last with a name counts. -/
theorem under_foldl_setHeader (lower : AllLower hs) (given : AllLower gs) :
    under name (gs.foldl setHeader hs) =
      ((under name gs).getLast?.map ([·])).getD (under name hs) := by
  induction gs generalizing hs with
  | nil => rfl
  | cons g gs ih =>
    obtain ⟨own, rest⟩ := List.forall_mem_cons.1 given
    rw [List.foldl_cons, ih (allLower_setHeader lower own) rest, under_setHeader lower own,
      under_cons]
    cases sameName g.name name with
    | false => rfl
    | true =>
      simp only [if_true, List.getLast?_cons]
      cases (under name gs).getLast? <;> rfl

end Header

open Header

/-- What the entries of the settings for a name say, in the order of their keys. -/
def ClientSettings.entriesFor (settings : ClientSettings) (name : String) : List String :=
  (settings.defaultHeaders.entries.filter fun e => sameName e.1 name).map (·.2)

/-- What a client made from the settings has under a name: the last of the entries for it; without
one, there still are two names that a client has something for. -/
def ClientSettings.offered? (settings : ClientSettings) (name : String) : Option String :=
  (settings.entriesFor name).getLast?.or
    (if sameName "accept" name then some "*/*"
    else if sameName "user-agent" name then some settings.userAgent
    else none)

/-- What is sent under a name once the settings have filled in, if `own` is what a request says
itself: what they offer, only if the request says nothing. -/
def ClientSettings.filled (settings : ClientSettings) (own : String → List String)
    (name : String) : List String :=
  if own name = [] then (settings.offered? name).toList else own name

namespace Client

variable {c : Client} {settings : ClientSettings} {name : String} {m : Message}
  {given : List Header}

theorem defaultHeader_eq_ok_iff {name value : String} {h : Header} :
    defaultHeader name value = .ok h ↔
      (isName name = true ∧ isValue value = true) ∧ h = ⟨lowerName name, value⟩ := by
  unfold defaultHeader
  cases isName name <;> cases isValue value <;> simp [eq_comm]

theorem eq_of_givenHeaders (ok : givenHeaders settings = .ok given) :
    given = settings.defaultHeaders.entries.map fun e => ⟨lowerName e.1, e.2⟩ :=
  ((mapM_eq_ok_iff_map fun _ _ => defaultHeader_eq_ok_iff).1 ok).2

/-- The default headers of a client: those given are set after the two that each client has. -/
theorem defaults_of_ofSettings (ok : Client.ofSettings settings = .ok c) :
    c.defaults = (settings.defaultHeaders.entries.map fun e => ⟨lowerName e.1, e.2⟩).foldl
      setHeader [⟨"accept", "*/*"⟩, ⟨"user-agent", settings.userAgent⟩] := by
  unfold ofSettings at ok
  cases headers : givenHeaders settings with
  | error fault =>
    rw [headers] at ok
    cases ok
  | ok given =>
    rw [headers] at ok
    cases usable : isValue settings.userAgent with
    | false =>
      simp only [usable] at ok
      cases ok
    | true =>
      simp only [usable] at ok
      cases ok
      rw [eq_of_givenHeaders headers]

theorem allLower_standing (agent : String) :
    AllLower [⟨"accept", "*/*"⟩, ⟨"user-agent", agent⟩] := by
  have accept : lowerName "accept" = "accept" := by decide
  have userAgent : lowerName "user-agent" = "user-agent" := by decide
  exact List.forall_mem_cons.2 ⟨accept, List.forall_mem_cons.2 ⟨userAgent, nofun⟩⟩

theorem under_standing (agent name : String) :
    under name [⟨"accept", "*/*"⟩, ⟨"user-agent", agent⟩] =
      (if sameName "accept" name then some "*/*"
      else if sameName "user-agent" name then some agent
      else none).toList := by
  rw [under_cons, under_cons]
  by_cases first : sameName "accept" name = true
  · have other : sameName "user-agent" name = false := by
      refine Bool.eq_false_iff.2 fun second => ?_
      have eq := (sameName_iff.1 first).trans (sameName_iff.1 second).symm
      revert eq
      decide
    rw [if_pos first, if_pos first, other]
    rfl
  · rw [if_neg first, if_neg first]
    split <;> rfl

theorem allLower_defaults (ok : Client.ofSettings settings = .ok c) : AllLower c.defaults := by
  rw [defaults_of_ofSettings ok]
  exact allLower_foldl_setHeader (allLower_standing _) (allLower_map_lowerName _)

/-- What a client has under a name. -/
theorem under_defaults (ok : Client.ofSettings settings = .ok c) (name : String) :
    under name c.defaults = (settings.offered? name).toList := by
  rw [defaults_of_ofSettings ok,
    under_foldl_setHeader (allLower_standing _) (allLower_map_lowerName _),
    under_map_lowerName, under_standing]
  unfold ClientSettings.offered? ClientSettings.entriesFor
  cases ((settings.defaultHeaders.entries.filter fun e => sameName e.1 name).map
    (·.2)).getLast? <;> rfl

/-- **Defaults fill in.** With the default headers a message says under a name what it said before,
and only if that was nothing, what its client has under the name. -/
theorem under_filled (lower : AllLower m.headers) (defaults : AllLower c.defaults) (name : String) :
    under name (c.filledHeaders m.headers) =
      if under name m.headers = [] then under name c.defaults else under name m.headers := by
  unfold filledHeaders
  rw [under_append]
  by_cases none : under name m.headers = []
  · rw [if_pos none, none, List.nil_append]
    apply under_filter
    intro h mem same
    have absent := (hasHeader_iff lower (defaults h mem) same).not.2 (not_not.2 none)
    rw [Bool.not_eq_true] at absent
    rw [absent]
    rfl
  · rw [if_neg none, under_filter_none, List.append_nil]
    intro h mem same
    rw [(hasHeader_iff lower (defaults h mem) same).2 none]
    rfl

theorem allLower_filled (lower : AllLower m.headers) (defaults : AllLower c.defaults) :
    AllLower (c.filledHeaders m.headers) :=
  lower.append fun h mem => defaults h (List.mem_filter.1 mem).1

/-- A message asks for codings if it does not say what it takes, and does not ask for a part. -/
theorem under_codingHeader? {hs : List Header} (lower : AllLower hs) (name : String) :
    under name (codingHeader? hs).toList =
      if sameName "accept-encoding" name = true ∧ under "accept-encoding" hs = [] ∧
        under "range" hs = [] then [Coding.offer] else [] := by
  have present (n : String) (own : lowerName n = n) (same : sameName n n = true) :
      hasHeader hs n = true ↔ under n hs ≠ [] := hasHeader_iff (h := ⟨n, ""⟩) lower own same
  have asked : (hasHeader hs "accept-encoding" || hasHeader hs "range") = true ↔
      ¬ (under "accept-encoding" hs = [] ∧ under "range" hs = []) := by
    rw [Bool.or_eq_true, present _ (by decide) (by decide), present _ (by decide) (by decide)]
    exact not_and_or.symm
  unfold codingHeader?
  by_cases silent : under "accept-encoding" hs = [] ∧ under "range" hs = []
  · rw [if_neg (asked.not.2 (not_not.2 silent)), Option.toList_some, under_cons]
    cases sameName "accept-encoding" name with
    | true => rw [if_pos rfl, if_pos ⟨rfl, silent⟩]; rfl
    | false => rw [if_neg (by simp)]; rfl
  · rw [if_pos (asked.2 silent), if_neg fun both => silent both.2]
    rfl

/-- What a client sends under a name. -/
theorem under_dress (lower : AllLower m.headers) (defaults : AllLower c.defaults) (name : String) :
    under name (c.dress m).headers =
      under name (c.filledHeaders m.headers) ++
        if sameName "accept-encoding" name = true ∧
          under "accept-encoding" (c.filledHeaders m.headers) = [] ∧
          under "range" (c.filledHeaders m.headers) = [] then [Coding.offer] else [] := by
  unfold dress
  rw [under_append, under_codingHeader? (allLower_filled lower defaults)]

end Client

end Vigil

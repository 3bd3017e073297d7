import Vigil.Config.Encoding
import Vigil.Config.Loading
import Vigil.Proofs.Duration.RoundTrip
import Vigil.Proofs.Json.Containers
import Vigil.Proofs.Json.Numbers

/-!
# Reading configurations back

A configuration is read back from the document that is written for it (`decode_toJson`). Each type
of the configuration has its own reader, and each of these gives back what was written, from the
durations and the sets of codes up to the whole configuration. How deep brackets nest in what is
written is bounded by the types alone, so eight levels of room are enough for any configuration.
-/

set_option autoImplicit false

namespace Vigil

open Json (Reader)
open Json.Reader

variable {room : Nat}

/-! ## Small parts -/

theorem Duration.reads (d : Duration) : Reads Duration.reader d.toJson d := by
  have text := reads_text d.text
  refine ⟨text.takes.finish ?_, text.leads⟩
  rw [d.parse_text]
  exact .pure d

theorem Method.reads (m : Method) : Reads Method.reader m.toJson m := by
  have text := reads_text m.name
  have known : Method.ofName? (Text.trim m.name) = some m := by cases m <;> decide
  refine ⟨text.takes.finish ?_, text.leads⟩
  rw [known]
  exact .pure m

theorem LogFormat.reads (f : LogFormat) : Reads (LogFormat.reader room) f.toJson f := by
  have name : ∃ s, f.toJson = .string s ∧ Takes LogFormat.name Json.Reader.Closes
      (Json.bytes (.string s)) f := by
    cases f with
    | text => exact ⟨"text", rfl, (reads_stringAs _ "text").takes.finish (.pure _)⟩
    | json => exact ⟨"json", rfl, (reads_stringAs _ "json").takes.finish (.pure _)⟩
  obtain ⟨s, written, takes⟩ := name
  rw [written]
  refine ⟨?_, Json.leads_string s⟩
  rw [Json.bytes_string] at takes ⊢
  exact (takes_token (b := 34) (by decide)).looking takes fun _ _ => rfl

theorem reads_bool (b : Bool) : Reads bool (.bool b) b := by
  cases b with
  | true =>
    have written : Json.bytes (.bool true) = [116] ++ (trueTail ++ []) := rfl
    refine ⟨?_, 116, _, written, by decide, by decide⟩
    rw [written]
    refine (takes_opening (b := 116) (by decide)).looking ?_ fun _ _ => rfl
    exact (takes_advance 116).andThen ((takes_literal trueTail).andThen (.pure true))
  | false =>
    have written : Json.bytes (.bool false) = [102] ++ (falseTail ++ []) := rfl
    refine ⟨?_, 102, _, written, by decide, by decide⟩
    rw [written]
    refine (takes_opening (b := 102) (by decide)).looking ?_ fun _ _ => rfl
    exact (takes_advance 102).andThen ((takes_literal falseTail).andThen (.pure false))

theorem reads_optional (s : String) : Reads (optional text) (.string s) (some s) := by
  have given := (reads_text s).map some
  refine ⟨?_, given.leads⟩
  have takes := given.takes
  rw [Json.bytes_string] at takes ⊢
  exact (takes_token (b := 34) (by decide)).looking takes fun _ _ => rfl

theorem reads_texts (d : Dict String) (enough : 2 ≤ room) :
    Reads (dict room fun _ => text) (d.toJson .string) d :=
  reads_dict enough d fun e _ => reads_text e.2

theorem reads_lists (d : Dict (List String)) (enough : 3 ≤ room) :
    Reads (RequestSpec.readLists room) (d.toJson .texts) d :=
  reads_dict (by omega) d fun e _ => reads_list (by omega) fun s _ => reads_text s

namespace StatusCodes

theorem insertCode_last {c : UInt16} {codes : List UInt16} (last : ∀ d ∈ codes, d < c) :
    insertCode c codes = codes ++ [c] := by
  induction codes with
  | nil => rfl
  | cons d codes ih =>
    have less := last d List.mem_cons_self
    have not_less : ¬ c < d := fun lt => UInt16.lt_irrefl _ (UInt16.lt_trans lt less)
    have other : c ≠ d := fun same => UInt16.lt_irrefl _ (same ▸ less)
    unfold insertCode
    rw [if_neg not_less, if_neg other, ih fun x mem => last x (List.mem_cons_of_mem d mem)]
    rfl

theorem foldl_insert (before : StatusCodes) (todo : List UInt16)
    (ascending : (before.codes ++ todo).Pairwise (· < ·)) :
    (todo.foldl insert before).codes = before.codes ++ todo := by
  induction todo generalizing before with
  | nil => exact (List.append_nil _).symm
  | cons c todo ih =>
    have last : (before.insert c).codes = before.codes ++ [c] := insertCode_last fun d mem =>
      (List.pairwise_append.1 ascending).2.2 d mem c List.mem_cons_self
    rw [List.foldl_cons, ih, last, ← List.append_cons]
    rwa [last, ← List.append_cons]

theorem ofList_codes (s : StatusCodes) : ofList s.codes = s := by
  have codes : (ofList s.codes).codes = s.codes := foldl_insert empty s.codes s.ascending
  generalize ofList s.codes = t at codes
  cases s
  cases t
  cases codes
  rfl

theorem reads (s : StatusCodes) (enough : 2 ≤ room) : Reads (reader room) s.toJson s := by
  have each : ∀ n ∈ s.codes.map UInt16.toNat, Reads (natBelow 65536 "u16") (.nat n) n := by
    intro n mem
    obtain ⟨c, -, rfl⟩ := List.mem_map.1 mem
    exact reads_natBelow "u16" c.toNat_lt (by decide)
  have list : Reads (Json.Reader.list room fun _ => natBelow 65536 "u16")
      (.array ((s.codes.map UInt16.toNat).map Json.nat)) (s.codes.map UInt16.toNat) :=
    reads_list enough each
  have written : s.toJson = .array ((s.codes.map UInt16.toNat).map Json.nat) := by
    unfold toJson
    rw [List.map_map]
    rfl
  have codes : (s.codes.map UInt16.toNat).map UInt16.ofNat = s.codes := by
    rw [List.map_map]
    exact List.map_id'' (fun c => UInt16.ofNat_toNat) s.codes
  have made := list.map fun codes => ofList (codes.map UInt16.ofNat)
  rw [codes, ofList_codes, ← written] at made
  exact made

end StatusCodes

/-! ## Client settings -/

theorem ClientSettings.reads (c : ClientSettings) (enough : 3 ≤ room) :
    Reads (ClientSettings.reader room) c.toJson c := by
  have redirects := reads_natBelow "usize" c.maxRedirects.toNat_lt (Nat.le_refl UInt64.size)
  have headers := reads_texts c.defaultHeaders (by omega : 2 ≤ room - 1)
  have whole : UInt64.ofNat c.maxRedirects.toNat = c.maxRedirects := UInt64.ofNat_toNat
  let filled : Draft :=
    ⟨some c.defaultTimeout, some c.followRedirects, some c.maxRedirects, some c.validateSsl,
      some c.userAgent, some c.defaultHeaders⟩
  refine Reads.map (reads_record (t := filled) (by omega) ?_ ?_) ofDraft
  · refine .field rfl rfl (c.defaultTimeout.reads.map _) ?_
    refine .field rfl rfl ((reads_bool c.followRedirects).map _) ?_
    refine .field rfl rfl (redirects.map _) ?_
    refine .field rfl rfl ((reads_bool c.validateSsl).map _) ?_
    refine .field rfl rfl ((reads_text c.userAgent).map _) ?_
    refine .field rfl rfl (headers.map _) ?_
    rw [whole]
    exact .nil _
  · rfl

/-! ## Rules and requests -/

theorem Source.ofMembers_members (source : Source) : ofMembers source.members = .ok source := by
  cases source with
  | header name => rfl
  | jsonPath path => rfl
  | regex pattern => rfl
  | status => rfl

namespace Rule

/-- A member of a rule other than its name is kept for later. -/
theorem keep {name s : String} {ms : List (String × Json)} {d t : Draft} (other : name ≠ "name")
    (enough : 0 < room)
    (others : Steps (readMember room) ms { d with others := (name, .string s) :: d.others } t) :
    Steps (readMember room) ((name, .string s) :: ms) d t := by
  refine .cons ?_ others
  unfold readMember
  rw [if_neg other]
  exact takes_colon.andThen ((reads_value_string enough s).takes.finish (.pure _))

theorem steps_source (source : Source) (name : String) (enough : 0 < room) :
    Steps (readMember room) source.members ⟨some name, []⟩
      ⟨some name, source.members.reverse⟩ := by
  cases source with
  | header name' =>
    exact keep (by decide) enough (keep (by decide) enough (.nil _))
  | jsonPath path =>
    exact keep (by decide) enough (keep (by decide) enough (.nil _))
  | regex pattern =>
    exact keep (by decide) enough (keep (by decide) enough (.nil _))
  | status => exact keep (by decide) enough (.nil _)

theorem reads (r : Rule) (enough : 2 ≤ room) : Reads (reader room) r.toJson r := by
  have named : Takes (readMember (room - 1) "name" {}) Json.Reader.Closes
      (58 :: Json.bytes (.string r.name)) ⟨some r.name, []⟩ :=
    takes_colon.andThen ((reads_text r.name).map _).takes
  have steps : Steps (readMember (room - 1)) (("name", .string r.name) :: r.source.members) {}
      ⟨some r.name, r.source.members.reverse⟩ :=
    .cons named (steps_source r.source r.name (by omega))
  refine ⟨?_, leads_object _⟩
  unfold toJson
  rw [bytes_object]
  refine (takes_opening (b := 123) (by decide)).looking ?_ fun _ _ => rfl
  simp only [if_pos]
  refine (takes_enter enough 123).andThen ((takes_placed steps).finish ?_)
  rw [List.reverse_reverse, Source.ofMembers_members]
  exact .pure r

end Rule

namespace RequestSpec

/-- The member that a request has if it has a time limit of its own. -/
theorem steps_timeout (d : Draft) (timeout : Option String) (unset : d.timeout = none) :
    Steps (recordMember fields room)
      (match timeout with
        | some t => [("timeout", .string t)]
        | none => []) d { d with timeout := timeout.map some } := by
  cases timeout with
  | none =>
    have same : { d with timeout := Option.map some none } = d := by
      cases d
      cases unset
      rfl
    rw [same]
    exact .nil d
  | some t =>
    have free : d.timeout.isSome = false := by rw [unset]; rfl
    exact .field rfl free ((reads_optional t).map _) (.nil _)

theorem reads (s : RequestSpec) (enough : 4 ≤ room) : Reads (reader room) s.toJson s := by
  have codes := s.accepted.reads (by omega : 2 ≤ room - 1)
  have headers := reads_lists s.headers (by omega : 3 ≤ room - 1)
  have query := reads_lists s.query (by omega : 3 ≤ room - 1)
  have rules := reads_list (by omega : 2 ≤ room - 1) fun (r : Rule) (_ : r ∈ s.rules) =>
    r.reads (by omega : 2 ≤ room - 1 - 1)
  let unlimited : Draft := ⟨some s.name, some s.method, some s.url, some s.headers, some s.body,
    some s.query, some s.accepted, none, none⟩
  let filled : Draft := { unlimited with timeout := s.timeout.map some, rules := some s.rules }
  have same : ofDraft filled = s := by
    obtain ⟨name, method, url, headers, body, query, accepted, timeout, rules⟩ := s
    cases timeout with
    | none => rfl
    | some t => rfl
  have whole : Reads (record "struct RequestSpec" fields room {}) s.toJson filled := by
    refine reads_record (by omega) ?_ rfl
    refine .append (.append (t := unlimited) ?_ (steps_timeout unlimited s.timeout rfl)) ?_
    · refine .field rfl rfl ((reads_text s.name).map _) ?_
      refine .field rfl rfl (s.method.reads.map _) ?_
      refine .field rfl rfl ((reads_text s.url).map _) ?_
      refine .field rfl rfl (headers.map _) ?_
      refine .field rfl rfl ((reads_text s.body).map _) ?_
      refine .field rfl rfl (query.map _) ?_
      refine .field rfl rfl (codes.map _) ?_
      exact .nil _
    · exact .field rfl rfl (rules.map _) (.nil _)
  have made := whole.map ofDraft
  rwa [same] at made

end RequestSpec

/-! ## Monitors and the whole configuration -/

theorem Monitor.reads (m : Monitor) (enough : 6 ≤ room) : Reads (reader room) m.toJson m := by
  have provided := reads_texts m.provided (by omega : 2 ≤ room - 1)
  have specs := fun steps : List RequestSpec =>
    reads_list (by omega : 2 ≤ room - 1) fun (s : RequestSpec) (_ : s ∈ steps) =>
      s.reads (by omega : 4 ≤ room - 1 - 1)
  let filled : Draft := ⟨some m.name, some m.period, some m.provided, some m.requests,
    some m.cleanup⟩
  refine Reads.map (reads_record (t := filled) (by omega) ?_ ?_) ofDraft
  · refine .field rfl rfl ((reads_text m.name).map _) ?_
    refine .field rfl rfl (m.period.reads.map _) ?_
    refine .field rfl rfl (provided.map _) ?_
    refine .field rfl rfl ((specs m.requests).map _) ?_
    refine .field rfl rfl ((specs m.cleanup).map _) ?_
    exact .nil _
  · rfl

namespace ServiceConfig

theorem reads (c : ServiceConfig) (enough : 8 ≤ room) : Reads (reader room) c.toJson c := by
  have client := c.client.reads (by omega : 3 ≤ room - 1)
  have monitors := reads_list (by omega : 2 ≤ room - 1) fun (m : Monitor) (_ : m ∈ c.monitors) =>
    m.reads (by omega : 6 ≤ room - 1 - 1)
  let filled : Draft := ⟨some c.client, some c.logLevel, some c.logFormat, some c.monitors⟩
  refine Reads.map (reads_record (t := filled) (by omega) ?_ ?_) ofDraft
  · refine .field rfl rfl (client.map _) ?_
    refine .field rfl rfl ((reads_text c.logLevel).map _) ?_
    refine .field rfl rfl (c.logFormat.reads.map _) ?_
    refine .field rfl rfl (monitors.map _) ?_
    exact .nil _
  · rfl

theorem decode_toJson (c : ServiceConfig) : Json.decode reader c.toJson.text = .ok c := by
  have reads : Reads (reader maxRoom) c.toJson c := c.reads (by decide)
  have bytes : Text.encode c.toJson.text = c.toJson.bytes := Text.encode_ofList _
  unfold Json.decode
  rw [bytes]
  exact reads.takes.run

theorem ofText_of_decode {document : String} {c : ServiceConfig}
    (decoded : Json.decode reader document = .ok c) :
    ofText document = match c.validate with
      | .ok () => .ok c
      | .error reason => .error (.unusable reason) := by
  unfold ofText
  rw [decoded]
  simp only
  cases c.validate <;> rfl

/-- A document, read and written again. -/
def rewritten (document : String) : Except Json.Error String :=
  (Json.decode reader document).map fun c => c.toJson.text

/-- What is read back from the documents that are written for configurations. -/
structure RoundTrip : Prop where
  /-- A configuration is read back from its document. -/
  decoded : ∀ c : ServiceConfig, Json.decode reader c.toJson.text = .ok c
  /-- Its document is loaded exactly if the configuration is valid. -/
  loaded : ∀ c : ServiceConfig, ofText c.toJson.text = match c.validate with
    | .ok () => .ok c
    | .error reason => .error (.unusable reason)
  /-- Reading and writing a second time changes nothing. -/
  idempotent : ∀ document text, rewritten document = .ok text → rewritten text = .ok text

/-- **The round trip.** -/
theorem roundTrip : RoundTrip where
  decoded := decode_toJson
  loaded c := ofText_of_decode c.decode_toJson
  idempotent document text first := by
    unfold rewritten at first ⊢
    cases decoded : Json.decode reader document with
    | error fault =>
      rw [decoded] at first
      cases first
    | ok c =>
      rw [decoded] at first
      obtain rfl : c.toJson.text = text := Except.ok.inj first
      rw [c.decode_toJson]
      rfl

end ServiceConfig

end Vigil

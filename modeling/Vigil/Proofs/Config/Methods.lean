import Vigil.Config.Decoding
import Vigil.Proofs.Http.MethodName
import Vigil.Proofs.Json.Accepts

/-!
# Methods in configurations

A configuration is decoded only if the method of each of its requests is recognised
(`ServiceConfig.accepts_reader`): one that is not is refused wherever it stands in the document
(`Method.recognition`).
-/

set_option autoImplicit false

namespace Vigil

open Json.Reader

section Fields

variable {α σ : Type} {reader : Json.Reader α} {P : α → Json → Prop} {Q : Json → Prop}

/-- What is asked of the value of a field that is set from what a reader gives. -/
theorem Json.Reader.Accepts.set (accepts : Accepts reader P) (f : α → σ)
    (fits : ∀ a v, P a v → Q v) : Accepts (do pure (f (← reader))) fun _ v => Q v :=
  fun room => (accepts room).more (fun _ => stays_pure _) fun a v holds => .pure (fits a v holds)

/-- Nothing is asked of the value of a field that is not the one meant. -/
theorem Json.Reader.Accepts.other (accepts : Accepts reader P) (f : α → σ) {c : Prop} (not : ¬ c) :
    Accepts (do pure (f (← reader))) fun _ v => c → Q v :=
  accepts.set f fun _ _ _ meant => absurd meant not

end Fields

/-! ## What the records ask of a document -/

/-- A value names a method. -/
def Json.NamesMethod (v : Json) : Prop :=
  ∃ raw m, v = .string raw ∧ Method.ofName? (Text.trim raw) = some m

/-- The method of a request is named, if it is given. -/
def Json.RequestNamesMethod (v : Json) : Prop :=
  ∀ field ∈ v.fieldsOf (RequestSpec.fields.map (·.name)), field.1 = "method" → field.2.NamesMethod

/-- An array of requests, each with a named method. -/
def Json.ChainNamesMethods (v : Json) : Prop :=
  ∃ requests, v = .array requests ∧ ∀ r ∈ requests, r.RequestNamesMethod

theorem Duration.accepts_reader : Accepts Duration.reader fun _ _ => True := by
  refine fun room => (accepts_text room).more (fun raw => ?_) fun _ _ _ => gives_anything _
  split
  · exact stays_pure _
  · exact (refuses_mismatchBehind _).stays

theorem Method.accepts_reader : Accepts Method.reader fun _ v => v.NamesMethod := by
  refine fun room => (accepts_text room).more (fun raw => ?_) fun raw v same => ?_
  · split
    · exact stays_pure _
    · exact (refuses_mismatchBehind _).stays
  · split
    · rename_i m named
      exact .pure ⟨raw, m, same, named⟩
    · exact (refuses_mismatchBehind _).gives

theorem StatusCodes.accepts_reader (room : Nat) :
    Accepts (StatusCodes.reader room) fun _ _ => True :=
  (Accepts.list (fun _ => accepts_natBelow _ _) room).set _ fun _ _ _ => trivial

theorem Rule.accepts_reader (room : Nat) : Accepts (Rule.reader room) fun _ _ => True := by
  have member : ∀ room room' name (d : Rule.Draft) (ms : List (String × Json)),
      Alongside (Rule.readMember room name d)
        (do colon; pure (Json.member name (← Json.Reader.value room') ms)) fun _ _ => True := by
    intro room room' name d ms
    unfold Rule.readMember
    split
    · split
      · exact .of_refuses (refuses_mismatchBehind _)
      · exact .both fun _ => .maps (accepts_text room')
    · exact .both fun _ => .maps (accepts_value room room')
  refine .opening fun room' b => ?_
  split
  · subst b
    refine alongside_enter (fun room => .placing ?_ _) room room'
    refine ((Alongside.members (R := fun _ _ => True)
      (fun name d ms _ => member room room' name d ms) trivial).more (fun d => ?_)
      fun _ _ _ => gives_anything _).more_right fun _ _ _ => trivial
    split
    · exact (refuses_mismatch _).stays
    · split
      · exact stays_pure _
      · exact (refuses_mismatch _).stays
  · exact .of_refuses (refuses_wrongType _)

theorem RequestSpec.accepts_reader (room : Nat) :
    Accepts (RequestSpec.reader room) fun _ v => v.RequestNamesMethod := by
  refine (accepts_record (F := fun name v => name = "method" → v.NamesMethod) _ _ _ ?_).set _
    fun _ v fits => fits
  have lists : ∀ room, Accepts (RequestSpec.readLists room) fun _ _ => True := fun room =>
    .dict (fun room => (Accepts.list (fun _ => accepts_text.anything) room).anything) room
  intro f mem room d
  simp only [fields, List.mem_cons, List.not_mem_nil, or_false] at mem
  rcases mem with rfl | rfl | rfl | rfl | rfl | rfl | rfl | rfl | rfl
  case inr.inl => exact Method.accepts_reader.set _ fun _ _ named _ => named
  · exact accepts_text.other _ (by decide)
  · exact accepts_text.other _ (by decide)
  · exact (lists room).other _ (by decide)
  · exact accepts_text.other _ (by decide)
  · exact (lists room).other _ (by decide)
  · exact (StatusCodes.accepts_reader room).other _ (by decide)
  · exact accepts_optional_text.other _ (by decide)
  · exact (Accepts.list Rule.accepts_reader room).other _ (by decide)

theorem accepts_chain (room : Nat) :
    Accepts (Json.Reader.list room RequestSpec.reader) fun _ v => v.ChainNamesMethods :=
  .list RequestSpec.accepts_reader room

/-- Each chain of a monitor is an array of requests with named methods. -/
def Json.MonitorNamesMethods (v : Json) : Prop :=
  ∀ field ∈ v.fieldsOf (Monitor.fields.map (·.name)),
    field.1 = "requests" ∨ field.1 = "cleanup" → field.2.ChainNamesMethods

theorem Monitor.accepts_reader (room : Nat) :
    Accepts (Monitor.reader room) fun _ v => v.MonitorNamesMethods := by
  refine (accepts_record
    (F := fun name v => name = "requests" ∨ name = "cleanup" → v.ChainNamesMethods) _ _ _ ?_).set _
    fun _ v fits => fits
  intro f mem room d
  simp only [fields, List.mem_cons, List.not_mem_nil, or_false] at mem
  rcases mem with rfl | rfl | rfl | rfl | rfl
  · exact accepts_text.other _ (by decide)
  · exact Duration.accepts_reader.other _ (by decide)
  · exact (Accepts.dict (fun _ => accepts_text) room).other _ (by decide)
  · exact (accepts_chain room).set _ fun _ _ ok _ => ok
  · exact (accepts_chain room).set _ fun _ _ ok _ => ok

theorem ClientSettings.accepts_reader (room : Nat) :
    Accepts (ClientSettings.reader room) fun _ _ => True := by
  refine (accepts_record (F := fun _ _ => True) _ _ _ ?_).set _ fun _ _ _ => trivial
  intro f mem room d
  simp only [fields, List.mem_cons, List.not_mem_nil, or_false] at mem
  rcases mem with rfl | rfl | rfl | rfl | rfl | rfl
  · exact Duration.accepts_reader.set _ fun _ _ _ => trivial
  · exact accepts_bool.set _ fun _ _ _ => trivial
  · exact (accepts_natBelow _ _).set _ fun _ _ _ => trivial
  · exact accepts_bool.set _ fun _ _ _ => trivial
  · exact accepts_text.set _ fun _ _ _ => trivial
  · exact (Accepts.dict (fun _ => accepts_text) room).set _ fun _ _ _ => trivial

/-- The log format of this name. -/
def LogFormat.named (s : String) : Json.Reader LogFormat :=
  if s = "text" then pure .text
  else if s = "json" then pure .json
  else mismatch (.unknownVariant s ["text", "json"])

theorem LogFormat.stays_named (s : String) : Stays (named s) := by
  unfold named
  split
  · exact stays_pure _
  · split
    · exact stays_pure _
    · exact (refuses_mismatch _).stays

theorem LogFormat.accepts_name : Accepts LogFormat.name fun _ _ => True :=
  fun room => (accepts_stringAs _ room).more stays_named fun _ _ _ => gives_anything _

/-- The name of a log format in braces. -/
def LogFormat.braced (room : Nat) : Json.Reader LogFormat := do
  let _ ← enter room
  let f ← name
  colon
  if (← opening) = 110 then do
    advance
    literal nullTail
    match ← token? with
    | none => fail .endInObject
    | some b =>
      if b = 125 then do
        advance
        pure f
      else fail .valueExpected
  else wrongType "unit"

/-- The name of the first member of an object is read as a string. -/
theorem alongside_firstMember {α σ : Type} {more : String → Json.Reader α}
    {step : String → σ → Json.Reader σ} {count : Nat} {s : σ} {P : α → σ → Prop} (expected : String)
    (along : ∀ name,
      Alongside (more name) (do membersFrom step count false (← step name s)) P) :
    Alongside (stringAs expected >>= more) (membersFrom step (count + 1) true s) P := by
  rw [membersFrom, nextMember, bind_assoc, stringAs, opening]
  simp only [bind_assoc]
  refine .both fun b => ?_
  cases b with
  | none => exact .of_refuses (refuses_failPeek _).then
  | some b =>
    by_cases quote : b = 34
    · subst quote
      exact .both fun _ => .both along
    · simp only [pure_bind, quote, if_false]
      exact .of_refuses (refuses_wrongType _).then

theorem LogFormat.alongside_braced (room room' : Nat) :
    Alongside (braced room) (valueFrom room' 123) fun _ _ => True := by
  refine alongside_enter (fun _ => ?_) room room'
  refine Alongside.more_right (P := fun _ _ => True) ?_ fun _ _ _ => trivial
  refine .behindLeft fun count => ?_
  rw [name, bind_assoc]
  refine alongside_firstMember _ fun s => .behindStaying (stays_named s) fun f => ?_
  rw [bind_assoc]
  refine .both fun _ => ?_
  cases room' with
  | zero => exact .of_refuses_right (refuses_fail _).then
  | succ room' =>
    rw [value_succ, bind_assoc, bind_assoc]
    refine .both fun b => ?_
    by_cases null : b = 110
    · subst null
      have literal_null : valueFrom room' 110 = (do advance; literal nullTail; pure .null) := rfl
      simp only [literal_null, if_true, bind_assoc, pure_bind]
      refine .both fun _ => .both fun _ => ?_
      cases count with
      | zero => exact .of_refuses_right (refuses_fail _)
      | succ count =>
        rw [membersFrom_succ, elements]
        refine .both fun b => ?_
        cases b with
        | none => exact .of_refuses (refuses_fail _)
        | some b =>
          by_cases closes : b = 125
          · subst closes
            exact .both fun _ => .pure trivial
          · simp only [closes, if_false]
            exact .of_refuses (refuses_fail _)
    · simp only [null, if_false]
      exact .of_refuses (refuses_wrongType _)

theorem LogFormat.accepts_reader (room : Nat) :
    Accepts (LogFormat.reader room) fun _ _ => True := by
  -- The first byte is looked at twice, so this is said from behind the blanks.
  intro room' c f c₁ v c₂ one two
  cases room' with
  | zero => cases two
  | succ room' =>
    obtain ⟨b, d, looked, one⟩ := bind_ok_iff.1 one
    have here : token? d = .ok (b, d) := by
      cases looked
      exact token_pastBlanks c
    have two' : value (room' + 1) d = .ok (v, c₂) := by
      rw [value] at two ⊢
      rw [token_again here]
      obtain ⟨_, _, looked', two⟩ := bind_ok_iff.1 two
      cases looked.symm.trans looked'
      exact two
    cases b with
    | none => cases one
    | some b =>
      simp only at one
      split at one
      · exact accepts_name _ d f c₁ v c₂ one two'
      · split at one
        · rename_i brace
          subst brace
          have opened : opening d = .ok (123, d) := bind_ok_iff.2 ⟨some 123, d, here, rfl⟩
          rw [value_succ] at two'
          obtain ⟨_, _, opened', two'⟩ := bind_ok_iff.1 two'
          cases opened.symm.trans opened'
          exact alongside_braced room room' d f c₁ v c₂ one two'
        · cases one

/-- The monitors are an array, and the requests of each have named methods. -/
def Json.ConfigNamesMethods (v : Json) : Prop :=
  ∀ field ∈ v.fieldsOf (ServiceConfig.fields.map (·.name)), field.1 = "monitors" →
    ∃ monitors, field.2 = .array monitors ∧ ∀ m ∈ monitors, m.MonitorNamesMethods

theorem ServiceConfig.accepts_reader (room : Nat) :
    Accepts (ServiceConfig.reader room) fun _ v => v.ConfigNamesMethods := by
  refine (accepts_record (F := fun name v => name = "monitors" →
    ∃ monitors, v = .array monitors ∧ ∀ m ∈ monitors, m.MonitorNamesMethods) _ _ _ ?_).set _
    fun _ v fits => fits
  intro f mem room d
  simp only [fields, List.mem_cons, List.not_mem_nil, or_false] at mem
  rcases mem with rfl | rfl | rfl | rfl
  · exact (ClientSettings.accepts_reader room).other _ (by decide)
  · exact accepts_text.other _ (by decide)
  · exact (LogFormat.accepts_reader room).other _ (by decide)
  · exact (Accepts.list Monitor.accepts_reader room).set _ fun _ _ ok _ => ok

/-! ## Documents of configurations -/

/-- `w` is the value of the method of a request in the document of a configuration. -/
def Json.HoldsMethod (doc w : Json) : Prop :=
  ∃ monitors, ("monitors", .array monitors) ∈ doc.fieldsOf (ServiceConfig.fields.map (·.name)) ∧
    ∃ m ∈ monitors, ∃ chain requests, (chain = "requests" ∨ chain = "cleanup") ∧
      (chain, .array requests) ∈ m.fieldsOf (Monitor.fields.map (·.name)) ∧
      ∃ r ∈ requests, ("method", w) ∈ r.fieldsOf (RequestSpec.fields.map (·.name))

theorem Json.ConfigNamesMethods.namesMethod {doc w : Json} (names : doc.ConfigNamesMethods)
    (holds : doc.HoldsMethod w) : w.NamesMethod := by
  obtain ⟨monitors, field, m, mem, chain, requests, which, field', r, mem', field''⟩ := holds
  obtain ⟨_, ⟨⟩, each⟩ := names _ field rfl
  obtain ⟨_, ⟨⟩, each'⟩ := each m mem _ field' which
  exact each' r mem' _ field'' rfl

/-- The methods that a configuration holds are named if it is decoded. -/
theorem ServiceConfig.namesMethod_of_decode {text : String} {doc w : Json} {config : ServiceConfig}
    (read : Json.ofText text = .ok doc) (holds : doc.HoldsMethod w)
    (decoded : Json.decode ServiceConfig.reader text = .ok config) : w.NamesMethod := by
  obtain ⟨c, one⟩ := exists_of_run decoded
  obtain ⟨d, two⟩ := exists_of_run read
  obtain ⟨-, names⟩ := ServiceConfig.accepts_reader _ _ _ _ _ _ _ one two
  exact names.namesMethod holds

namespace Method

/-- What a string is recognised as, and what becomes of a configuration that has it for a method. -/
structure Recognition (s : String) : Prop where
  /-- It is recognised as the method that it spells once the strays are written out. -/
  recognised : ∀ m, ofName? s = some m ↔ IsSpelling m (s.toList.flatMap plain)
  /-- A spelling is always recognised. -/
  spelling : ∀ m, IsSpelling m s.toList → ofName? s = some m
  /-- That it is recognised only as what it spells is true unless it is recognised with a stray. -/
  documented_iff : ∀ m, (ofName? s = some m ↔ IsSpelling m s.toList) ↔
    ((∃ c ∈ s.toList, c ∈ strays) → ofName? s ≠ some m)
  /-- Only POST and OPTIONS are recognised in strings that do not spell them. -/
  astray : ∀ m, ofName? s = some m → ¬ IsSpelling m s.toList →
    (m = .post ∨ m = .options) ∧ ∃ c ∈ s.toList, c ∈ strays
  /-- With any other character outside ASCII it is not recognised. -/
  foreign : ∀ c ∈ s.toList, 128 ≤ c.toNat → c ∉ strays → ofName? s = none
  /-- If it spells no method even when the strays are written out, a configuration with a request
  whose method is this string between blanks is not decoded. -/
  rejected : (∀ m, ¬ IsSpelling m (s.toList.flatMap plain)) → ∀ text doc raw,
    Json.ofText text = .ok doc → doc.HoldsMethod (.string raw) → Text.trim raw = s →
      ∃ e, Json.decode ServiceConfig.reader text = .error e

/-- **Which strings are recognised as methods**: the spellings of their names, and besides those of
POST and OPTIONS with strays for some of the letters. -/
theorem recognition (s : String) : Recognition s where
  recognised _ := ofName?_eq_some_iff
  spelling _ := ofName?_of_isSpelling
  documented_iff m := by
    constructor
    · rintro same ⟨c, mem, stray⟩ found
      exact not_isSpelling_of_stray mem stray (same.1 found)
    · intro unfound
      refine ⟨fun found => ?_, ofName?_of_isSpelling⟩
      by_contra other
      exact unfound (ofName?_astray found other).2 found
  astray _ := ofName?_astray
  foreign _ := ofName?_foreign
  rejected none text doc raw read holds trimmed := by
    cases decoded : Json.decode ServiceConfig.reader text with
    | error e => exact ⟨e, rfl⟩
    | ok config =>
      obtain ⟨_, m, ⟨⟩, named⟩ := ServiceConfig.namesMethod_of_decode read holds decoded
      rw [trimmed] at named
      exact absurd (ofName?_eq_some_iff.1 named) (none m)

/-- A long s makes a string POST that spells no name, and a configuration with it is decoded. -/
theorem post_astray : ofName? "poſt" = some .post ∧ (∀ m, ¬ IsSpelling m "poſt".toList) ∧
    (Json.decode ServiceConfig.reader
      "[\x7b\x7d,\"\",\"text\",[[\"m\",\"1s\",\x7b\x7d,[[\"r\",\"poſt\",\"u\"]]]]]").isOk := by
  refine ⟨by decide, fun m => ?_, by decide +kernel⟩
  cases m <;> decide

end Method

end Vigil

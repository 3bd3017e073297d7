import Vigil.Json.Decoder
import Vigil.Proofs.Json.Skipping

/-!
# What readers of types accept

A reader of some type takes the same bytes as the reader of any value, and what the latter gives
tells something of the documents that the former accepts (`Accepts`). A record is accepted only if
the value of each of its fields is, whether it is read from an object or from an array
(`accepts_record`).
-/

set_option autoImplicit false

namespace Vigil.Json

/-- The fields that a value holds of a record with these names: the members of an object that bear
one of them, or the items of an array, named in order. -/
def fieldsOf (names : List String) : Json → List (String × Json)
  | .object ms => ms.filter fun m => m.1 ∈ names
  | .array vs => names.zip vs
  | _ => []

namespace Reader

variable {α β σ τ : Type} {reader : Reader α} {P : α → Json → Prop}

/-- Where a value is read, a reader takes the bytes of the value if it takes anything, and what it
gives and the value are as `P` says. -/
def Accepts (reader : Reader α) (P : α → Json → Prop) : Prop :=
  ∀ room, Alongside reader (value room) P

/-- Reads the value that begins with this byte. -/
def valueFrom (room : Nat) (b : UInt8) : Reader Json :=
  if b = 110 then do advance; literal nullTail; pure .null
  else if b = 116 then do advance; literal trueTail; pure (.bool true)
  else if b = 102 then do advance; literal falseTail; pure (.bool false)
  else if b = 45 then do advance; pure (.number (← number true))
  else if isDigit b then do pure (.number (← number false))
  else if b = 34 then do advance; pure (.string (← string))
  else if b = 91 then
    if room = 0 then failPeek .nestedTooDeep
    else do
      advance
      pure (.array (← items (value room)))
  else if b = 123 then
    if room = 0 then failPeek .nestedTooDeep
    else do
      advance
      let step (name : String) (ms : List (String × Json)) : Reader (List (String × Json)) := do
        colon
        pure (member name (← value room) ms)
      pure (.object (← members step []))
  else failPeek .valueExpected

theorem value_succ (room : Nat) : value (room + 1) = opening >>= valueFrom room := by
  rw [value, opening, bind_assoc]
  refine congrArg (token? >>= ·) (funext fun b => ?_)
  cases b with
  | none => rfl
  | some b => rfl

/-- A reader that goes by the first byte accepts what it accepts behind that byte. -/
theorem Accepts.opening {next : UInt8 → Reader α}
    (each : ∀ room b, Alongside (next b) (valueFrom room b) P) : Accepts (opening >>= next) P := by
  intro room
  cases room with
  | zero => exact .of_refuses_right (refuses_fail _)
  | succ room =>
    rw [value_succ]
    exact .both fun b => each room b

theorem Accepts.anything (accepts : Accepts reader P) : Accepts reader fun _ _ => True :=
  fun room => (accepts room).weaken fun _ _ _ => trivial

theorem refuses_wrongType (expected : String) : Refuses (wrongType expected : Reader α) := by
  unfold wrongType
  refine .past fun b => ?_
  cases b with
  | none => exact refuses_failPeek _
  | some b =>
    refine gives_ite (.past fun _ => .past fun _ => refuses_mismatch _) ?_
    refine gives_ite (.past fun _ => .past fun _ => refuses_mismatch _) ?_
    refine gives_ite (.past fun _ => .past fun _ => refuses_mismatch _) ?_
    refine gives_ite (.past fun _ => .past fun _ => refuses_mismatch _) ?_
    refine gives_ite (.past fun _ => refuses_mismatch _) ?_
    refine gives_ite (.past fun _ => .past fun _ => refuses_mismatch _) ?_
    refine gives_ite (refuses_mismatch _) ?_
    exact gives_ite (refuses_mismatch _) (refuses_failPeek _)

/-! ## Values without brackets -/

/-- Behind its first byte. -/
theorem alongside_string (expected : String) (room : Nat) (b : UInt8) :
    Alongside (if b = 34 then (do advance; string) else wrongType expected) (valueFrom room b)
      fun s v => v = .string s := by
  split
  · subst b
    exact .both fun _ =>
      (Alongside.refl string).more_right fun s t same => congrArg Json.string same.symm
  · exact .of_refuses (refuses_wrongType _)

theorem accepts_stringAs (expected : String) :
    Accepts (stringAs expected) fun s v => v = .string s :=
  .opening (alongside_string expected)

theorem accepts_text : Accepts text fun s v => v = .string s := accepts_stringAs "a string"

theorem accepts_bool : Accepts bool fun _ _ => True := by
  refine .opening fun room b => ?_
  unfold valueFrom
  split
  · subst b
    exact .both fun _ => .both fun _ => .pure trivial
  · split
    · subst b
      exact .both fun _ => .both fun _ => .pure trivial
    · exact .of_refuses (refuses_wrongType _)

theorem valueFrom_digit (room : Nat) {b : UInt8} (decimal : isDigit b = true) :
    valueFrom room b = (do pure (.number (← number false))) := by
  have other : ∀ x : UInt8, isDigit x = false → b ≠ x := by
    rintro x letter rfl
    rw [decimal] at letter
    cases letter
  rw [valueFrom, if_neg (other 110 rfl), if_neg (other 116 rfl), if_neg (other 102 rfl),
    if_neg (other 45 rfl), if_pos decimal]

/-- What is made of a number that has been read. -/
theorem alongside_number {next : Number → Reader α} (negative : Bool)
    (int : ∀ i, Stays (next (.int i))) (float : ∀ x, Stays (next (.float x))) :
    Alongside (number negative >>= next) (do pure (Json.number (← number negative)))
      fun _ _ => True := by
  refine ((Alongside.refl _).more (fun x => ?_) fun _ _ _ => gives_anything _).more_right
    fun _ _ _ => trivial
  cases x with
  | int i => exact int i
  | float x => exact float x

theorem accepts_natBelow (bound : Nat) (expected : String) :
    Accepts (natBelow bound expected) fun _ _ => True := by
  have int : ∀ i : Int, Stays (if 0 ≤ i ∧ i < bound then pure i.toNat
      else mismatch (.wrongValue (.int i) expected)) := by
    intro i
    split
    · exact stays_pure _
    · exact (refuses_mismatch _).stays
  refine .opening fun room b => ?_
  by_cases minus : b = 45
  · subst minus
    exact .both fun _ => alongside_number true int fun _ => (refuses_mismatch _).stays
  · by_cases decimal : isDigit b = true
    · rw [valueFrom_digit room decimal, if_pos (.inr decimal), if_neg minus, decide_eq_false minus]
      exact alongside_number false int fun _ => (refuses_mismatch _).stays
    · rw [if_neg (not_or.2 ⟨minus, decimal⟩)]
      exact .of_refuses (refuses_wrongType _)

theorem optional_opening (next : UInt8 → Reader α) :
    optional (opening >>= next) = opening >>= fun b =>
      if b = 110 then (do advance; literal nullTail; pure none)
      else (do pure (some (← next b))) := by
  rw [optional, opening]
  simp only [bind_assoc]
  refine token_congr fun b c here => ?_
  split
  · rfl
  · rename_i other
    rw [token_again here]
    cases b with
    | none => rfl
    | some b =>
      have letter : b ≠ 110 := fun eq => other (congrArg some eq)
      simp only [pure_bind, letter, if_false]

theorem accepts_optional_text : Accepts (optional text) fun _ _ => True := by
  rw [text, stringAs, optional_opening]
  refine .opening fun room b => ?_
  by_cases null : b = 110
  · subst null
    exact .both fun _ => .both fun _ => .pure trivial
  · rw [if_neg null]
    exact (alongside_string _ room b).more (fun _ => stays_pure _) fun _ _ _ => gives_anything _

/-! ## Arrays and dictionaries -/

theorem alongside_enter {next : Nat → Reader α} {other : Reader β} {Q : α → β → Prop}
    (behind : ∀ room, Alongside (next room) other Q) (room room' : Nat) :
    Alongside (enter room >>= next)
      (if room' = 0 then failPeek .nestedTooDeep else (do advance; other)) Q := by
  split
  · exact .of_refuses_right (refuses_failPeek _)
  · match room with
    | 0 | 1 => exact .of_refuses (refuses_failPeek _).then
    | n + 2 =>
      simp only [enter, bind_assoc, pure_bind]
      exact .both fun _ => behind (n + 1)

theorem Alongside.itemsFrom {item : Reader α} {item' : Reader β} {Q : β → Prop}
    (each : Alongside item item' fun _ b => Q b) (count : Nat) (first : Bool) {acc : List α}
    {acc' : List β} (read : ∀ b ∈ acc', Q b) :
    Alongside (itemsFrom item count first acc) (itemsFrom item' count first acc')
      fun _ bs => ∀ b ∈ bs, Q b := by
  induction count generalizing first acc acc' with
  | zero => exact .of_refuses (refuses_fail _)
  | succ count ih =>
    rw [Reader.itemsFrom, Reader.itemsFrom]
    refine .both fun more => ?_
    cases more with
    | true => exact each.bind fun a b holds => ih false (List.forall_mem_cons.2 ⟨holds, read⟩)
    | false => exact .both fun _ => .pure fun b mem => read b (List.mem_reverse.1 mem)

theorem Alongside.membersFrom {step : String → σ → Reader σ} {step' : String → τ → Reader τ}
    {R : σ → τ → Prop} (each : ∀ name s t, R s t → Alongside (step name s) (step' name t) R)
    (count : Nat) (first : Bool) {s : σ} {t : τ} (here : R s t) :
    Alongside (membersFrom step count first s) (membersFrom step' count first t) R := by
  induction count generalizing first s t with
  | zero => exact .of_refuses (refuses_fail _)
  | succ count ih =>
    rw [Reader.membersFrom, Reader.membersFrom]
    refine .both fun more => ?_
    cases more with
    | true =>
      exact .both fun _ => .both fun name => (each name s t here).bind fun s' t' there =>
        ih false there
    | false => exact .both fun _ => .pure here

theorem Alongside.items {item : Reader α} {item' : Reader β} {Q : β → Prop}
    (each : Alongside item item' fun _ b => Q b) :
    Alongside (items item) (items item') fun _ bs => ∀ b ∈ bs, Q b :=
  .both fun count => .itemsFrom each (count + 1) true nofun

theorem Alongside.members {step : String → σ → Reader σ} {step' : String → τ → Reader τ}
    {R : σ → τ → Prop} (each : ∀ name s t, R s t → Alongside (step name s) (step' name t) R)
    {s : σ} {t : τ} (here : R s t) : Alongside (members step s) (members step' t) R :=
  .both fun count => .membersFrom each (count + 1) true here

/-- A list is read from an array, each item of it from an item there. -/
theorem Accepts.list {item : Nat → Reader α} {Q : Json → Prop}
    (each : ∀ room, Accepts (item room) fun _ v => Q v) (room : Nat) :
    Accepts (list room item) fun _ v => ∃ vs, v = .array vs ∧ ∀ w ∈ vs, Q w := by
  refine .opening fun room' b => ?_
  split
  · subst b
    refine alongside_enter (fun room => ?_) room room'
    exact (Alongside.items (each room room')).more_right fun _ vs read => ⟨vs, rfl, read⟩
  · exact .of_refuses (refuses_wrongType _)

theorem Accepts.dict {item : Nat → Reader α} (each : ∀ room, Accepts (item room) P) (room : Nat) :
    Accepts (dict room item) fun _ _ => True := by
  refine .opening fun room' b => ?_
  split
  · subst b
    refine alongside_enter (fun room => ?_) room room'
    refine (Alongside.members (R := fun _ _ => True) ?_ trivial).more_right fun _ _ _ => trivial
    exact fun name d ms _ => .both fun _ => .maps (each room room')
  · exact .of_refuses (refuses_wrongType _)

theorem alongside_rooms {one : Reader α} {two : Reader β} {Q : α → β → Prop}
    (behind : Alongside one two Q) (room room' : Nat) :
    Alongside (if room = 0 then failPeek .nestedTooDeep else (do advance; one))
      (if room' = 0 then failPeek .nestedTooDeep else (do advance; two)) Q := by
  split
  · exact .of_refuses (refuses_failPeek _)
  · split
    · exact .of_refuses_right (refuses_failPeek _)
    · exact .both fun _ => behind

/-- A value is read in the same way however much room there is, if there is enough. -/
theorem accepts_value (room : Nat) : Accepts (value room) fun _ _ => True := by
  induction room with
  | zero => exact fun _ => .of_refuses (refuses_fail _)
  | succ room ih =>
    rw [value_succ]
    refine .opening fun room' b => ?_
    by_cases array : b = 91
    · subst array
      exact alongside_rooms (Alongside.items (ih room')).maps room room'
    · by_cases object : b = 123
      · subst object
        refine alongside_rooms (Alongside.members (R := fun _ _ => True) ?_ trivial).maps room room'
        exact fun name ms ns _ => .both fun _ => .maps (ih room')
      · have same : valueFrom room b = valueFrom room' b := by
          simp only [valueFrom, array, object, if_false]
        rw [same]
        exact (Alongside.refl _).weaken fun _ _ _ => trivial

/-! ## Records -/

/-- What is read with places for its mismatches is read without them. -/
theorem Alongside.placing {γ : Type} {next : α → Reader γ} {other : Reader β} {Q : γ → β → Prop}
    (along : Alongside (reader >>= next) other Q) (ending : Cursor → Cursor) :
    Alongside (placing ending reader >>= next) other Q := by
  intro c x c₁ b c₂ one two
  obtain ⟨a, d, got, one⟩ := bind_ok_iff.1 one
  refine along c x c₁ b c₂ (bind_ok_iff.2 ⟨a, d, ?_, one⟩) two
  unfold Reader.placing at got
  split at got
  · cases got
  · exact got

/-- Where an array ends, its items end. -/
theorem alongside_endArray (item : Reader α) (count : Nat) (first : Bool) (acc : List α) :
    Alongside endArray (itemsFrom item count first acc) fun _ as => as = acc.reverse := by
  cases count with
  | zero => exact .of_refuses_right (refuses_fail _)
  | succ count =>
    rw [endArray, itemsFrom_succ, elements]
    refine .both fun b => ?_
    cases b with
    | none => exact .of_refuses (refuses_failPeek _)
    | some b =>
      by_cases closes : b = 93
      · subst closes
        exact (Alongside.refl advance).more_right fun _ _ _ => rfl
      · simp only [closes, if_false]
        refine .of_refuses (gives_ite (.past fun _ => .past fun b => ?_) (refuses_failPeek _))
        split
        · exact refuses_failPeek _
        · exact refuses_failPeek _

variable {fields : List (FieldReader σ)} {F : String → Json → Prop} {expected : String}

/-- Fields behind the last item of an array are not read. -/
theorem alongside_absentItems (room index : Nat) (s : σ) (as : List α) :
    Alongside (do let s ← recordItems expected room fields index false s; endArray; pure s)
      (do endArray; pure as) fun _ as' => as' = as := by
  induction fields generalizing index s with
  | nil =>
    simp only [recordItems, pure_bind]
    exact .both fun _ => .pure rfl
  | cons f fields ih =>
    simp only [recordItems, pure_bind, Bool.false_eq_true, if_false]
    split
    · exact .of_refuses (refuses_mismatchBehind _).then
    · exact ih _ s

/-- The items of an array are read as the fields that stand in their places. -/
theorem alongside_recordItems
    (each : ∀ f ∈ fields, ∀ room s, Accepts (f.read room s) fun _ v => F f.name v)
    (room room' index count : Nat) (s : σ) (acc : List Json) :
    Alongside (do let s ← recordItems expected room fields index true s; endArray; pure s)
      (itemsFrom (value room') count (index == 0) acc)
      fun _ vs => ∃ more, vs = acc.reverse ++ more ∧
        ∀ m ∈ (fields.map (·.name)).zip more, F m.1 m.2 := by
  induction fields generalizing index count s acc with
  | nil =>
    simp only [recordItems, pure_bind]
    refine ((alongside_endArray _ _ _ _).more (Q := fun _ vs => vs = acc.reverse)
      (fun _ => stays_pure _) fun _ vs same => .pure same).weaken fun _ vs same => ?_
    exact ⟨[], by rw [same, List.append_nil], nofun⟩
  | cons f fields ih =>
    cases count with
    | zero => exact .of_refuses_right (refuses_fail _)
    | succ count =>
      rw [recordItems, Reader.itemsFrom]
      simp only [if_true, bind_assoc]
      refine .both fun more => ?_
      cases more with
      | true =>
        simp only [if_true, bind_assoc]
        refine (each f List.mem_cons_self room s room').bind fun s' v fits => ?_
        refine (ih (fun f mem => each f (List.mem_cons_of_mem _ mem)) (index + 1) count s'
          (v :: acc)).weaken fun _ vs => ?_
        rintro ⟨more, rfl, others⟩
        refine ⟨v :: more, by rw [List.reverse_cons, List.append_assoc]; rfl, fun m mem => ?_⟩
        rw [List.map_cons, List.zip_cons_cons] at mem
        rcases List.mem_cons.1 mem with rfl | mem
        · exact fits
        · exact others m mem
      | false =>
        simp only [Bool.false_eq_true, if_false]
        split
        · exact .of_refuses (refuses_mismatchBehind _).then
        · exact (alongside_absentItems room _ s _).weaken fun _ vs same =>
            ⟨[], by rw [same, List.append_nil], by simp⟩

/-- The members of an object are read as the fields whose names they bear. -/
theorem alongside_recordMember
    (each : ∀ f ∈ fields, ∀ room s, Accepts (f.read room s) fun _ v => F f.name v)
    (room room' : Nat) (name : String) (s : σ) (ms : List (String × Json))
    (read : ∀ m ∈ ms, m.1 ∈ fields.map (·.name) → F m.1 m.2) :
    Alongside (recordMember fields room name s)
      (do colon; pure (member name (← value room') ms))
      fun _ ms => ∀ m ∈ ms, m.1 ∈ fields.map (·.name) → F m.1 m.2 := by
  have more : ∀ v, (name ∈ fields.map (·.name) → F name v) →
      ∀ m ∈ member name v ms, m.1 ∈ fields.map (·.name) → F m.1 m.2 := by
    intro v fits m mem known
    rw [member_eq_insertEntry] at mem
    rcases Dict.mem_insertEntry mem with rfl | mem
    · exact fits known
    · exact read m mem known
  unfold recordMember
  cases found : fields.find? fun f => f.name == name with
  | none =>
    have unknown : name ∉ fields.map (·.name) := by
      intro mem
      obtain ⟨f, mem, same⟩ := List.mem_map.1 mem
      exact List.find?_eq_none.1 found f mem (beq_iff_eq.2 same)
    refine .both fun _ => ((alongside_skipValue room').more (fun _ => stays_pure _)
      fun _ _ _ => gives_anything _).more_right fun _ v _ => more v fun known => ?_
    exact absurd known unknown
  | some f =>
    have named : f.name = name := by simpa using List.find?_some found
    simp only
    split
    · exact .of_refuses (refuses_mismatchBehind _)
    · refine .both fun _ => (each f (List.mem_of_find?_eq_some found) room s room').more_right
        fun _ v fits => more v fun _ => ?_
      rw [← named]
      exact fits

theorem stays_checkFields (s : σ) (fields : List (FieldReader σ)) :
    Stays (checkFields s fields) := by
  induction fields with
  | nil => exact stays_pure _
  | cons f fields ih =>
    rw [checkFields]
    split
    · exact (refuses_mismatch _).stays
    · exact ih

/-- **A record is read from the values of its fields.** -/
theorem accepts_record (type : String) (init : σ) (room : Nat)
    (each : ∀ f ∈ fields, ∀ room s, Accepts (f.read room s) fun _ v => F f.name v) :
    Accepts (record type fields room init) fun _ v =>
      ∀ m ∈ v.fieldsOf (fields.map (·.name)), F m.1 m.2 := by
  refine .opening fun room' b => ?_
  split
  · subst b
    refine alongside_enter (fun room => ?_) room room'
    refine Alongside.more_right
      (P := fun _ vs => ∀ m ∈ (fields.map FieldReader.name).zip vs, F m.1 m.2) ?_
      fun _ vs fits => fits
    refine .placing (.behindLeft fun count => ?_) _
    refine (alongside_recordItems each room room' 0 (count + 1) init []).weaken fun _ vs => ?_
    rintro ⟨_, rfl, fits⟩
    exact fits
  · split
    · subst b
      refine alongside_enter (fun room => ?_) room room'
      refine Alongside.more_right
        (P := fun _ ms => ∀ m ∈ ms, m.1 ∈ fields.map FieldReader.name → F m.1 m.2) ?_
        fun _ ms fits m mem => ?_
      · refine .placing ?_ _
        refine Alongside.more (P := fun _ ms => ∀ m ∈ ms, m.1 ∈ fields.map (·.name) → F m.1 m.2) ?_
          ?_ ?_
        · exact .members (alongside_recordMember each room room') nofun
        · exact fun s => (stays_checkFields s fields).bind fun _ => stays_pure s
        · exact fun s ms fits => .past fun _ => .pure fits
      · obtain ⟨mem, known⟩ := List.mem_filter.1 mem
        exact fits m mem (of_decide_eq_true known)
    · exact .of_refuses (refuses_wrongType _)

end Reader

end Vigil.Json

import Mathlib.Data.List.Forall2
import Vigil.Proofs.Json.Strings

/-!
# Arrays and objects

What is read from an array is what is read from its items (`takes_items`), and what is read from an
object comes of its members one after the other (`takes_members`). So lists, dictionaries and
records are read back from what is written for them.
-/

set_option autoImplicit false

namespace Vigil.Json

namespace Reader

variable {α σ : Type}

/-! ## How arrays and objects are written -/

/-- The bytes of what is written with `written`, each behind a comma. -/
def behindCommas {β : Type} (written : β → List UInt8) (xs : List β) : List UInt8 :=
  xs.flatMap fun x => 44 :: written x

theorem length_le_behindCommas {β : Type} (written : β → List UInt8) (xs : List β) :
    xs.length ≤ (behindCommas written xs).length := by
  induction xs with
  | nil => exact Nat.le_refl _
  | cons x xs ih =>
    have split : behindCommas written (x :: xs) =
        44 :: (written x ++ behindCommas written xs) := rfl
    rw [split]
    simp only [List.length_cons, List.length_append]
    omega

/-- What stands behind an item or a member may be left behind a value. -/
theorem closes_behindCommas {β : Type} {b : UInt8} (bracket : b = 93 ∨ b = 125)
    (written : β → List UInt8) (xs : List β) (rest : List UInt8) :
    Closes (behindCommas written xs ++ [b] ++ rest) := by
  cases xs with
  | nil => exact closes_cons (.inr bracket) rest
  | cons x xs => exact closes_cons (.inl rfl) _

/-- The bytes of a member. -/
def memberBytes (m : String × Json) : List UInt8 := utf8 (quote m.1) ++ 58 :: m.2.bytes

theorem utf8_itemChars (v : Json) (vs : List Json) :
    utf8 (itemChars (v :: vs)) = v.bytes ++ behindCommas Json.bytes vs := by
  induction vs generalizing v with
  | nil =>
    unfold itemChars
    exact (List.append_nil _).symm
  | cons w vs ih =>
    have comma : String.utf8EncodeChar ',' = [44] := rfl
    unfold itemChars
    rw [utf8_append, utf8_cons, comma, ih]
    rfl

theorem utf8_memberChars (m : String × Json) (ms : List (String × Json)) :
    utf8 (memberChars (m :: ms)) = memberBytes m ++ behindCommas memberBytes ms := by
  have colon : String.utf8EncodeChar ':' = [58] := rfl
  have comma : String.utf8EncodeChar ',' = [44] := rfl
  induction ms generalizing m with
  | nil =>
    obtain ⟨k, v⟩ := m
    unfold memberChars
    rw [utf8_append, utf8_cons, colon]
    exact (List.append_nil _).symm
  | cons n ms ih =>
    obtain ⟨k, v⟩ := m
    unfold memberChars
    rw [utf8_append, utf8_cons, utf8_append, utf8_cons, colon, comma, ih]
    simp [memberBytes, behindCommas, Json.bytes]

theorem bytes_array (vs : List Json) :
    Json.bytes (.array vs) = 91 :: (utf8 (itemChars vs) ++ [93]) := by
  unfold Json.bytes chars
  rw [utf8_cons, utf8_append]
  rfl

theorem bytes_object (ms : List (String × Json)) :
    Json.bytes (.object ms) = 123 :: (utf8 (memberChars ms) ++ [125]) := by
  unfold Json.bytes chars
  rw [utf8_cons, utf8_append]
  rfl

theorem leads_array (vs : List Json) : Leads (Json.bytes (.array vs)) :=
  ⟨91, _, bytes_array vs, by decide, by decide⟩

theorem leads_object (ms : List (String × Json)) : Leads (Json.bytes (.object ms)) :=
  ⟨123, _, bytes_object ms, by decide, by decide⟩

/-! ## Arrays -/

section Items

variable {item : Reader α} {vs : List Json} {as : List α} {b : UInt8}

theorem takes_noItem (first : Bool) : Takes (nextItem first) (Next 93) [] false :=
  (takes_token (b := 93) (by decide)).looking (.pure false) fun _ next => next

theorem takes_firstItem (visible : Cursor.isBlank b = false) (other : b ≠ 93) :
    Takes (nextItem true) (Next b) [] true := by
  refine (takes_token visible).looking ?_ fun _ next => next
  simp only [if_neg other, if_pos]
  exact .pure true

theorem takes_nextItem (visible : Cursor.isBlank b = false) (other : b ≠ 93) :
    Takes (nextItem false) (Next b) [44] true := by
  refine (takes_token (b := 44) (by decide)).looking ?_ fun _ _ => rfl
  have comma : ¬ (44 : UInt8) = 93 := by decide
  simp only [if_neg comma, Bool.false_eq_true, if_false, if_pos]
  refine (takes_advance 44).andThen ((takes_token visible).looking ?_ fun _ next => next)
  simp only [if_neg other]
  exact .pure true

theorem takes_endArray : Takes endArray Anything [93] () :=
  (takes_token (b := 93) (by decide)).looking (takes_advance 93) fun _ _ => rfl

theorem takes_moreItems (each : List.Forall₂ (Reads item) vs as) (fuel : Nat) (acc : List α)
    (enough : vs.length < fuel) :
    Takes (itemsFrom item fuel false acc) Anything (behindCommas Json.bytes vs ++ [93])
      (acc.reverse ++ as) := by
  induction each generalizing fuel acc with
  | nil =>
    obtain ⟨fuel, rfl⟩ := Nat.exists_eq_add_of_le' enough
    refine (takes_noItem false).looking ?_ fun _ _ => rfl
    rw [List.append_nil]
    exact takes_endArray.andThen (.pure acc.reverse)
  | @cons v a vs as first _ ih =>
    obtain ⟨fuel, rfl⟩ := Nat.exists_eq_add_of_le' (Nat.lt_of_le_of_lt (Nat.zero_le _) enough)
    rw [List.length_cons] at enough
    obtain ⟨b, lead, eq, visible, other⟩ := first.leads
    have later := ih fuel (a :: acc) (Nat.lt_of_succ_lt_succ enough)
    rw [List.reverse_cons, List.append_assoc] at later
    have split : behindCommas Json.bytes (v :: vs) ++ [93] =
        [44] ++ (v.bytes ++ (behindCommas Json.bytes vs ++ [93])) := by
      simp [behindCommas]
    rw [split]
    refine (takes_nextItem visible other).bind ?_ fun rest _ => by rw [eq]; rfl
    exact first.takes.bind later fun rest _ => closes_behindCommas (.inl rfl) _ vs rest

/-- **Arrays.** The items of an array are read one after the other. -/
theorem takes_items (each : List.Forall₂ (Reads item) vs as) :
    Takes (items item) Anything (utf8 (itemChars vs) ++ [93]) as := by
  refine .left fun n enough => ?_
  cases each with
  | nil =>
    refine (takes_noItem true).looking ?_ fun _ _ => rfl
    exact takes_endArray.andThen (.pure [])
  | @cons v a vs as first others =>
    have commas := length_le_behindCommas Json.bytes vs
    rw [utf8_itemChars] at enough ⊢
    simp only [List.length_append, List.length_singleton] at enough
    have later := takes_moreItems others n [a] (by omega)
    obtain ⟨b, lead, eq, visible, other⟩ := first.leads
    rw [List.append_assoc]
    refine (takes_firstItem visible other).looking ?_ fun rest _ => by rw [eq]; rfl
    exact first.takes.bind later fun rest _ => closes_behindCommas (.inl rfl) _ vs rest

end Items

/-! ## Objects -/

/-- What `step` makes of the members of an object, one after the other. -/
inductive Steps (step : String → σ → Reader σ) : List (String × Json) → σ → σ → Prop where
  | nil (s : σ) : Steps step [] s s
  | cons {name : String} {v : Json} {ms : List (String × Json)} {s s' t : σ}
      (one : Takes (step name s) Closes (58 :: v.bytes) s') (others : Steps step ms s' t) :
      Steps step ((name, v) :: ms) s t

section Members

variable {step : String → σ → Reader σ} {ms : List (String × Json)} {s t : σ}

theorem Steps.append {more : List (String × Json)} {u : σ} (first : Steps step ms s t)
    (then_ : Steps step more t u) : Steps step (ms ++ more) s u := by
  induction first with
  | nil => exact then_
  | cons one _ ih => exact .cons one (ih then_)

theorem takes_noMember (first : Bool) : Takes (nextMember first) (Next 125) [] false :=
  (takes_token (b := 125) (by decide)).looking (.pure false) fun _ next => next

theorem takes_firstMember : Takes (nextMember true) (Next 34) [] true :=
  (takes_token (b := 34) (by decide)).looking (.pure true) fun _ next => next

theorem takes_nextMember : Takes (nextMember false) (Next 34) [44] true := by
  refine (takes_token (b := 44) (by decide)).looking ?_ fun _ _ => rfl
  have comma : ¬ (44 : UInt8) = 125 := by decide
  simp only [if_neg comma, Bool.false_eq_true, if_false, if_pos]
  refine (takes_advance 44).andThen ?_
  exact (takes_token (b := 34) (by decide)).looking (.pure true) fun _ next => next

theorem takes_endObject : Takes endObject Anything [125] () :=
  (takes_token (b := 125) (by decide)).looking (takes_advance 125) fun _ _ => rfl

theorem takes_moreMembers (steps : Steps step ms s t) (fuel : Nat) (enough : ms.length < fuel) :
    Takes (membersFrom step fuel false s) Anything (behindCommas memberBytes ms ++ [125]) t := by
  induction steps generalizing fuel with
  | nil s =>
    obtain ⟨fuel, rfl⟩ := Nat.exists_eq_add_of_le' enough
    refine (takes_noMember false).looking ?_ fun _ _ => rfl
    exact takes_endObject.andThen (.pure s)
  | @cons name v ms s s' t one _ ih =>
    obtain ⟨fuel, rfl⟩ := Nat.exists_eq_add_of_le' (Nat.lt_of_le_of_lt (Nat.zero_le _) enough)
    rw [List.length_cons] at enough
    have later := ih fuel (Nat.lt_of_succ_lt_succ enough)
    have split : behindCommas memberBytes ((name, v) :: ms) ++ [125] =
        [44] ++ ([34] ++ ((stringBody name ++ [34]) ++
          (58 :: v.bytes ++ (behindCommas memberBytes ms ++ [125])))) := by
      simp [behindCommas, memberBytes, utf8_quote]
    rw [split]
    refine takes_nextMember.bind ?_ fun _ _ => rfl
    refine (takes_advance 34).andThen ((takes_string name).andThen ?_)
    exact one.bind later fun rest _ => closes_behindCommas (.inr rfl) _ ms rest

/-- **Objects.** The members of an object are read one after the other. -/
theorem takes_members (steps : Steps step ms s t) :
    Takes (members step s) Anything (utf8 (memberChars ms) ++ [125]) t := by
  refine .left fun n enough => ?_
  cases steps with
  | nil =>
    refine (takes_noMember true).looking ?_ fun _ _ => rfl
    exact takes_endObject.andThen (.pure s)
  | @cons name v ms _ s' _ one others =>
    have commas := length_le_behindCommas memberBytes ms
    rw [utf8_memberChars] at enough ⊢
    simp only [List.length_append, List.length_singleton] at enough
    have later := takes_moreMembers others n (by omega)
    have split : memberBytes (name, v) ++ behindCommas memberBytes ms ++ [125] =
        [34] ++ ((stringBody name ++ [34]) ++
          (58 :: v.bytes ++ (behindCommas memberBytes ms ++ [125]))) := by
      simp [memberBytes, utf8_quote]
    rw [split]
    refine takes_firstMember.looking ?_ fun _ _ => rfl
    refine (takes_advance 34).andThen ((takes_string name).andThen ?_)
    exact one.bind later fun rest _ => closes_behindCommas (.inr rfl) _ ms rest

end Members

/-! ## Lists, dictionaries and records -/

section Typed

variable {room : Nat}

/-- A list is read back if each of its items is. -/
theorem reads_list {item : Nat → Reader α} {written : α → Json} {as : List α} (enough : 2 ≤ room)
    (each : ∀ a ∈ as, Reads (item (room - 1)) (written a) a) :
    Reads (list room item) (.array (as.map written)) as := by
  refine ⟨?_, leads_array _⟩
  have items : List.Forall₂ (Reads (item (room - 1))) (as.map written) as := by
    rw [List.forall₂_map_left_iff, List.forall₂_same]
    exact each
  rw [bytes_array]
  refine (takes_opening (b := 91) (by decide)).looking ?_ fun _ _ => rfl
  simp only [if_pos]
  exact (takes_enter enough 91).andThen (takes_items items).anywhere

/-- What is bound last in the order of keys comes last. -/
theorem insertEntry_last {k : String} {a : α} {entries : List (String × α)}
    (last : ∀ e ∈ entries, e.1 < k) : Dict.insertEntry k a entries = entries ++ [(k, a)] := by
  induction entries with
  | nil => rfl
  | cons e entries ih =>
    have less := last e List.mem_cons_self
    have not_less : ¬ k < e.1 := fun lt => String.lt_irrefl _ (String.lt_trans lt less)
    have other : k ≠ e.1 := fun same => String.lt_irrefl _ (same ▸ less)
    unfold Dict.insertEntry
    rw [if_neg not_less, if_neg other, ih fun x mem => last x (List.mem_cons_of_mem e mem)]
    rfl

theorem steps_dict {item : Reader α} {written : α → Json} (before todo : List (String × α))
    (ascending : (before ++ todo).Pairwise fun a b => a.1 < b.1)
    (each : ∀ e ∈ todo, Reads item (written e.2) e.2) :
    Steps (fun name d => do colon; pure (d.insert name (← item)))
      (todo.map fun e => (e.1, written e.2))
      (⟨before, (List.pairwise_append.1 ascending).1⟩ : Dict α) ⟨before ++ todo, ascending⟩ := by
  induction todo generalizing before with
  | nil =>
    have same : before ++ [] = before := List.append_nil before
    simp only [same]
    exact .nil _
  | cons e todo ih =>
    have last : ∀ x ∈ before, x.1 < e.1 := fun x mem =>
      (List.pairwise_append.1 ascending).2.2 x mem e List.mem_cons_self
    have regroup : before ++ e :: todo = before ++ [e] ++ todo := List.append_cons before e todo
    have later := ih (before ++ [e]) (regroup ▸ ascending)
      fun x mem => each x (List.mem_cons_of_mem e mem)
    simp only [← regroup] at later
    refine .cons ?_ later
    refine (takes_colon.andThen ((each e List.mem_cons_self).takes.finish ?_))
    have bound : (⟨before, (List.pairwise_append.1 ascending).1⟩ : Dict α).insert e.1 e.2 =
        ⟨before ++ [e], (List.pairwise_append.1 (regroup ▸ ascending)).1⟩ :=
      Dict.ext (insertEntry_last last)
    rw [bound]
    exact .pure _

/-- A dictionary is read back if each of its values is. -/
theorem reads_dict {item : Nat → Reader α} {written : α → Json} (enough : 2 ≤ room) (d : Dict α)
    (each : ∀ e ∈ d.entries, Reads (item (room - 1)) (written e.2) e.2) :
    Reads (dict room item) (.object (d.entries.map fun e => (e.1, written e.2))) d := by
  refine ⟨?_, leads_object _⟩
  have steps := steps_dict [] d.entries d.ascending each
  rw [bytes_object]
  refine (takes_opening (b := 123) (by decide)).looking ?_ fun _ _ => rfl
  simp only [if_pos]
  exact (takes_enter enough 123).andThen (takes_members steps).anywhere

/-- A member of a record fills the field of its name, if that has not been read yet. -/
theorem Steps.field {fields : List (FieldReader σ)} {f : FieldReader σ} {name : String} {v : Json}
    {ms : List (String × Json)} {s s' t : σ}
    (found : (fields.find? fun f => f.name == name) = some f) (unset : f.isSet s = false)
    (reads : Reads (f.read room s) v s') (others : Steps (recordMember fields room) ms s' t) :
    Steps (recordMember fields room) ((name, v) :: ms) s t := by
  refine .cons ?_ others
  unfold recordMember
  simp only [found, unset, Bool.false_eq_true, if_false]
  exact takes_colon.andThen reads.takes

/-- Where a mismatch in an object would be reported does not matter to what is read. -/
theorem takes_placed {step : String → σ → Reader σ} {ms : List (String × Json)} {init t : σ}
    (steps : Steps step ms init t) :
    Takes (placing Cursor.pastBrace (members step init)) Closes
      (utf8 (memberChars ms) ++ [125]) t :=
  ((takes_members steps).placing Cursor.pastBrace).anywhere

theorem takes_checkFields {fields : List (FieldReader σ)} {s : σ}
    (complete : (fields.all fun f => !f.required || f.isSet s) = true) :
    Takes (checkFields s fields) Anything [] () := by
  induction fields with
  | nil => exact .pure ()
  | cons f fields ih =>
    rw [List.all_cons, Bool.and_eq_true] at complete
    obtain ⟨here, later⟩ := complete
    have there : (f.required && !f.isSet s) = false := by
      cases required : f.required with
      | false => rfl
      | true =>
        rw [required] at here
        rw [show f.isSet s = true from here]
        rfl
    unfold checkFields
    rw [there]
    exact ih later

/-- A record is read from an object whose members fill its fields. -/
theorem reads_record {type : String} {fields : List (FieldReader σ)} {init t : σ}
    {ms : List (String × Json)} (enough : 2 ≤ room)
    (steps : Steps (recordMember fields (room - 1)) ms init t)
    (complete : (fields.all fun f => !f.required || f.isSet t) = true) :
    Reads (record type fields room init) (.object ms) t := by
  refine ⟨?_, leads_object ms⟩
  rw [bytes_object]
  refine (takes_opening (b := 123) (by decide)).looking ?_ fun _ _ => rfl
  have object : ¬ (123 : UInt8) = 91 := by decide
  simp only [if_neg object, if_pos]
  refine (takes_enter enough 123).andThen ((takes_placed steps).finish ?_)
  exact (takes_checkFields complete).anywhere.finish (.pure t)

end Typed

end Reader

end Vigil.Json

import Mathlib.Data.List.Nodup
import Vigil.Extraction.Path
import Vigil.Json.Document
import Vigil.Ordered.Dict
import Vigil.Proofs.Sequence

/-!
# The nodes of a document

From the root of a document steps lead to its nodes: a name from an object to its member of that
name, and an index from an array to its item at that index (`Json.Reaches`). Where names occur twice
in an object, a step could lead to two nodes. In documents that were read the names of each object
are in order, so none does (`ofBytes_inOrder`).
-/

set_option autoImplicit false

namespace Vigil

namespace Json

/-- One step below a value. -/
inductive Below : Json → PathStep → Json → Prop where
  | member {ms : List (String × Json)} {name : String} {w : Json} (mem : (name, w) ∈ ms) :
      Below (.object ms) (.field name) w
  | item {items : List Json} {i : Nat} {w : Json} (here : items[i]? = some w) :
      Below (.array items) (.index i) w

/-- Steps lead from a value to one of its nodes. -/
inductive Reaches : Json → List PathStep → Json → Prop where
  | root (v : Json) : Reaches v [] v
  | step {v u w : Json} {s : PathStep} {rest : List PathStep} (below : v.Below s u)
      (on : Reaches u rest w) : Reaches v (s :: rest) w

/-- The names of each object in a document are as `P` says. -/
def EachObject (P : List String → Prop) (v : Json) : Prop :=
  ∀ path ms, v.Reaches path (.object ms) → P (ms.map Prod.fst)

/-- No object in a document has two members of one name. -/
def IsDistinct (v : Json) : Prop := v.EachObject List.Nodup

/-- The names of each object in a document are in order. -/
def IsInOrder (v : Json) : Prop := v.EachObject (List.Pairwise (· < ·))

variable {v u w : Json} {s : PathStep} {path before after : List PathStep}
  {P : List String → Prop}

theorem EachObject.below (each : v.EachObject P) (below : v.Below s w) : w.EachObject P :=
  fun path ms on => each (s :: path) ms (.step below on)

theorem EachObject.reaches (each : v.EachObject P) (reaches : v.Reaches path w) :
    w.EachObject P := by
  induction reaches with
  | root => exact each
  | step below _ ih => exact ih (each.below below)

theorem EachObject.of_below (own : ∀ ms, v = .object ms → P (ms.map Prod.fst))
    (below : ∀ s w, v.Below s w → w.EachObject P) : v.EachObject P := by
  intro path ms reaches
  cases reaches with
  | root => exact own ms rfl
  | step first on => exact below _ _ first _ ms on

theorem EachObject.array {items : List Json} (each : ∀ v ∈ items, v.EachObject P) :
    (Json.array items).EachObject P := by
  refine .of_below nofun fun s w below => ?_
  cases below with
  | item here => exact each w (List.mem_of_getElem? here)

theorem EachObject.object {ms : List (String × Json)} (own : P (ms.map Prod.fst))
    (each : ∀ m ∈ ms, m.2.EachObject P) : (Json.object ms).EachObject P := by
  refine .of_below (fun ms' eq => ?_) fun s w below => ?_
  · cases eq
    exact own
  · cases below with
    | member mem => exact each _ mem

/-- A value without brackets has no objects in it. -/
theorem EachObject.scalar (noArray : ∀ items, v ≠ .array items) (noObject : ∀ ms, v ≠ .object ms) :
    v.EachObject P := by
  refine .of_below (fun ms eq => absurd eq (noObject ms)) fun s w below => ?_
  cases below with
  | member => exact absurd rfl (noObject _)
  | item => exact absurd rfl (noArray _)

theorem IsInOrder.isDistinct (ordered : v.IsInOrder) : v.IsDistinct :=
  fun path ms reaches => (ordered path ms reaches).imp String.ne_of_lt

/-- In a distinct document a step leads to one node. -/
theorem IsDistinct.unique (distinct : v.IsDistinct) (first : v.Below s u) (second : v.Below s w) :
    u = w := by
  cases first with
  | @member ms name u mem =>
    cases second with
    | member mem' =>
      have nodup : (ms.map Prod.fst).Nodup := distinct [] ms (.root _)
      exact congrArg Prod.snd (List.inj_on_of_nodup_map nodup mem mem' rfl)
  | item here =>
    cases second with
    | item here' => exact Option.some.inj (here.symm.trans here')

/-! ## Documents that were read -/

/-- Members are put into an object as entries are into a dictionary. -/
theorem member_eq_insertEntry (name : String) (value : Json) (ms : List (String × Json)) :
    member name value ms = Dict.insertEntry name value ms := by
  induction ms with
  | nil => rfl
  | cons m ms ih => rw [member, Dict.insertEntry, ih]

namespace Reader

variable {α β σ : Type} {reader : Reader α} {next : α → Reader β} {Q : α → Prop} {R : β → Prop}

/-- Whatever a reader gives is as `Q` says. -/
def Gives (reader : Reader α) (Q : α → Prop) : Prop :=
  ∀ c a c', reader c = .ok (a, c') → Q a

theorem gives_anything (reader : Reader α) : Gives reader fun _ => True :=
  fun _ _ _ _ => trivial

theorem gives_fail (f : Fault) : Gives (fail f) Q := fun _ _ _ eq => nomatch eq

theorem gives_failPeek (f : Fault) : Gives (failPeek f) Q := fun _ _ _ eq => nomatch eq

protected theorem Gives.pure {a : α} (fits : Q a) : Gives (pure a) Q := by
  intro c a' c' eq
  cases eq
  exact fits

protected theorem Gives.bind (first : Gives reader Q) (then_ : ∀ a, Q a → Gives (next a) R) :
    Gives (reader >>= next) R := by
  intro c b c' eq
  have both : (reader c).bind (fun p => next p.1 p.2) = .ok (b, c') := eq
  cases got : reader c with
  | error e =>
    rw [got] at both
    cases both
  | ok p =>
    rw [got] at both
    exact then_ p.1 (first c p.1 p.2 got) p.2 b c' both

/-- What is read first does not matter. -/
theorem Gives.past (then_ : ∀ a, Gives (next a) R) : 
    Gives (reader >>= next) R :=
  (gives_anything reader).bind fun a _ => then_ a

theorem gives_ite {c : Prop} [Decidable c] {yes no : Reader α} (ifTrue : Gives yes Q)
    (ifFalse : Gives no Q) : Gives (if c then yes else no) Q := by
  split
  · exact ifTrue
  · exact ifFalse

theorem gives_itemsFrom {item : Reader α} (each : Gives item Q) (fuel : Nat) (first : Bool)
    {acc : List α} (read : ∀ a ∈ acc, Q a) :
    Gives (itemsFrom item fuel first acc) fun as => ∀ a ∈ as, Q a := by
  induction fuel generalizing first acc with
  | zero => exact gives_fail _
  | succ fuel ih =>
    rw [itemsFrom]
    refine .past fun more => ?_
    cases more with
    | true =>
      refine each.bind fun a fits => ih false ?_
      intro x mem
      rcases List.mem_cons.1 mem with rfl | mem
      · exact fits
      · exact read x mem
    | false =>
      refine .past fun _ => .pure ?_
      intro a mem
      exact read a (List.mem_reverse.1 mem)

theorem gives_items {item : Reader α} (each : Gives item Q) :
    Gives (items item) fun as => ∀ a ∈ as, Q a :=
  .past fun _ => gives_itemsFrom each _ _ nofun

theorem gives_membersFrom {step : String → σ → Reader σ} {I : σ → Prop}
    (keeps : ∀ name s, I s → Gives (step name s) I) (fuel : Nat) (first : Bool) {s : σ}
    (here : I s) :
    Gives (membersFrom step fuel first s) I := by
  induction fuel generalizing first s with
  | zero => exact gives_fail _
  | succ fuel ih =>
    rw [membersFrom]
    refine .past fun more => ?_
    cases more with
    | true =>
      exact .past fun _ => .past fun name => (keeps name s here).bind fun s' there => ih false there
    | false => exact .past fun _ => .pure here

theorem gives_members {step : String → σ → Reader σ} {I : σ → Prop} {init : σ}
    (keeps : ∀ name s, I s → Gives (step name s) I) (start : I init) :
    Gives (members step init) I :=
  .past fun _ => gives_membersFrom keeps _ _ start

/-- Members in the order of their names, each with a value as `R` says. -/
def MembersInOrder (R : Json → Prop) (ms : List (String × Json)) : Prop :=
  (ms.Pairwise fun a b => a.1 < b.1) ∧ ∀ m ∈ ms, R m.2

/-- They stay so when one more is put where its name belongs. -/
theorem MembersInOrder.member {R : Json → Prop} {ms : List (String × Json)}
    (ordered : MembersInOrder R ms) (name : String) {v : Json} (value : R v) :
    MembersInOrder R (Json.member name v ms) := by
  rw [member_eq_insertEntry]
  refine ⟨Dict.ascending_insertEntry name v ordered.1, fun m mem => ?_⟩
  rcases Dict.mem_insertEntry mem with rfl | mem
  · exact value
  · exact ordered.2 m mem

/-- **What is read.** What holds of values without brackets, and of brackets with such values between
them, the members in order, holds of every value that is read. -/
theorem gives_value {P : Nat → Json → Prop}
    (scalar : ∀ n v, (∀ items, v ≠ .array items) → (∀ ms, v ≠ .object ms) → P (n + 1) v)
    (array : ∀ n items, (∀ v ∈ items, P (n + 1) v) → P (n + 2) (.array items))
    (object : ∀ n ms, MembersInOrder (P (n + 1)) ms → P (n + 2) (.object ms)) (room : Nat) :
    Gives (value room) (P room) := by
  induction room with
  | zero => exact gives_fail _
  | succ room ih =>
    have scalar : ∀ v : Json, (∀ items, v ≠ .array items) → (∀ ms, v ≠ .object ms) →
        Gives (pure v) (P (room + 1)) := fun v noArray noObject =>
      .pure (scalar room v noArray noObject)
    rw [value]
    refine .past fun token => ?_
    cases token with
    | none => exact gives_failPeek _
    | some b =>
      refine gives_ite (.past fun _ => .past fun _ => scalar _ nofun nofun) ?_
      refine gives_ite (.past fun _ => .past fun _ => scalar _ nofun nofun) ?_
      refine gives_ite (.past fun _ => .past fun _ => scalar _ nofun nofun) ?_
      refine gives_ite (.past fun _ => .past fun _ => scalar _ nofun nofun) ?_
      refine gives_ite (.past fun _ => scalar _ nofun nofun) ?_
      refine gives_ite (.past fun _ => .past fun _ => scalar _ nofun nofun) ?_
      cases room with
      | zero => exact gives_ite (gives_failPeek _) (gives_ite (gives_failPeek _) (gives_failPeek _))
      | succ n =>
        have more : ¬ n + 1 = 0 := Nat.succ_ne_zero n
        rw [if_neg more, if_neg more]
        refine gives_ite ?array (gives_ite ?object (gives_failPeek _))
        case array =>
          exact .past fun _ => (gives_items ih).bind fun items each => .pure (array n items each)
        case object =>
          refine .past fun _ => (gives_members (I := MembersInOrder (P (n + 1))) ?_
            ⟨.nil, nofun⟩).bind fun ms ordered => .pure (object n ms ordered)
          intro name ms ordered
          exact .past fun _ => ih.bind fun v value => .pure (ordered.member name value)

theorem gives_inOrder (room : Nat) : Gives (value room) IsInOrder := by
  refine gives_value (P := fun _ => IsInOrder) ?scalar ?array ?object room
  case scalar => exact fun _ _ noArray noObject => .scalar noArray noObject
  case array => exact fun _ _ each => .array each
  case object => exact fun _ _ ordered => .object (List.pairwise_map.2 ordered.1) ordered.2

/-- What is read from a whole document is taken from its start. -/
theorem exists_of_run {bytes : List UInt8} {a : α} (read : Reader.run reader bytes = .ok a) :
    ∃ c, reader (.start bytes) = .ok (a, c) := by
  obtain ⟨⟨a', c⟩, got, rest⟩ := bind_eq_ok_iff.1 read
  obtain ⟨_, _, same⟩ := bind_eq_ok_iff.1 rest
  cases same
  exact ⟨c, got⟩

/-- What holds of all that a reader gives holds of a document that it reads. -/
theorem Gives.run {bytes : List UInt8} {a : α} (gives : Gives reader Q)
    (read : Reader.run reader bytes = .ok a) : Q a := by
  obtain ⟨c, got⟩ := exists_of_run read
  exact gives _ _ _ got

end Reader

/-- **The names of each object that is read are in order**, and so no name occurs twice. -/
theorem ofBytes_inOrder {bytes : List UInt8} {v : Json} (read : ofBytes bytes = .ok v) :
    v.IsInOrder :=
  (Reader.gives_inOrder Reader.maxRoom).run read

end Json

end Vigil

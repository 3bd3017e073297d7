import Vigil.Json.Decoder
import Vigil.Json.Printer

/-!
# What readers take off a document

`Takes` says that a reader takes certain bytes off the front of any document and gives a certain
value, whatever comes behind them, as long as that is as it may be. Lines and columns do not matter
to it. Readers in a row take their bytes in a row (`Takes.bind`).
-/

set_option autoImplicit false

namespace Vigil.Json

/-- The bytes of some characters. -/
def utf8 (cs : List Char) : List UInt8 := cs.flatMap String.utf8EncodeChar

/-- The bytes of a value as it is written. -/
def bytes (v : Json) : List UInt8 := utf8 (chars v)

theorem utf8_append (cs ds : List Char) : utf8 (cs ++ ds) = utf8 cs ++ utf8 ds :=
  List.flatMap_append

theorem utf8_cons (c : Char) (cs : List Char) :
    utf8 (c :: cs) = String.utf8EncodeChar c ++ utf8 cs := rfl

/-- Bytes that begin with no blank and no closing bracket. -/
def Leads (taken : List UInt8) : Prop :=
  ∃ b rest, taken = b :: rest ∧ Cursor.isBlank b = false ∧ b ≠ 93

namespace Reader

variable {α β : Type} {reader : Reader α} {next : α → Reader β} {behind between : List UInt8 → Prop}
  {bytes more : List UInt8} {a : α} {b : UInt8} {x : β}

/-- `reader` takes `bytes` off the front of a document and gives `a`, if what is left then is as
`behind` says. -/
def Takes (reader : Reader α) (behind : List UInt8 → Prop) (bytes : List UInt8) (a : α) : Prop :=
  ∀ (c : Cursor) (rest : List UInt8), c.rest = bytes ++ rest → behind rest →
    ∃ c', reader c = .ok (a, c') ∧ c'.rest = rest

/-- Anything may be left. -/
def Anything (_ : List UInt8) : Prop := True

/-- What may be left behind a value: nothing, or what begins with a comma or a closing bracket. -/
def Closes (rest : List UInt8) : Prop := ∀ b ∈ rest.head?, b = 44 ∨ b = 93 ∨ b = 125

/-- What is left begins with the byte `b`. -/
def Next (b : UInt8) (rest : List UInt8) : Prop := rest.head? = some b

theorem closes_nil : Closes [] := fun _ mem => nomatch mem

theorem closes_cons (bracket : b = 44 ∨ b = 93 ∨ b = 125) (rest : List UInt8) :
    Closes (b :: rest) := by
  intro x mem
  cases mem
  exact bracket

/-- `reader` gives `a` for the text of `v`, wherever a value may be. -/
structure Reads (reader : Reader α) (v : Json) (a : α) : Prop where
  takes : Takes reader Closes v.bytes a
  leads : Leads v.bytes

/-! ## Readers in a row -/

namespace Takes

protected theorem pure (a : α) : Takes (pure a) behind [] a :=
  fun c _ here _ => ⟨c, rfl, here⟩

protected theorem bind (first : Takes reader between bytes a) (then_ : Takes (next a) behind more x)
    (fits : ∀ rest, behind rest → between (more ++ rest)) :
    Takes (reader >>= next) behind (bytes ++ more) x := by
  intro c rest here allowed
  rw [List.append_assoc] at here
  obtain ⟨c₁, read, left⟩ := first c (more ++ rest) here (fits rest allowed)
  obtain ⟨c₂, read', left'⟩ := then_ c₁ rest left allowed
  refine ⟨c₂, ?_, left'⟩
  show Except.bind (reader c) (fun p => next p.1 p.2) = _
  rw [read]
  exact read'

/-- A reader behind which anything may be left, and then another. -/
theorem andThen (first : Takes reader Anything bytes a) (then_ : Takes (next a) behind more x) :
    Takes (reader >>= next) behind (bytes ++ more) x :=
  first.bind then_ fun _ _ => trivial

/-- A reader that only looks at what comes, and then another. -/
theorem looking (first : Takes reader between [] a) (then_ : Takes (next a) behind bytes x)
    (fits : ∀ rest, behind rest → between (bytes ++ rest)) :
    Takes (reader >>= next) behind bytes x :=
  first.bind then_ fits

/-- A reader, and then one that takes nothing. -/
theorem finish (first : Takes reader behind bytes a) (then_ : Takes (next a) behind [] x) :
    Takes (reader >>= next) behind bytes x := by
  have whole := first.bind then_ fun _ allowed => allowed
  rwa [List.append_nil] at whole

theorem weaken (first : Takes reader between bytes a) (fits : ∀ rest, behind rest → between rest) :
    Takes reader behind bytes a :=
  fun c rest here allowed => first c rest here (fits rest allowed)

/-- A reader behind which anything may be left can stand anywhere. -/
theorem anywhere (first : Takes reader Anything bytes a) : Takes reader behind bytes a :=
  first.weaken fun _ _ => trivial

/-- A reader that is told how many bytes are left. -/
theorem left {next : Nat → Reader β}
    (then_ : ∀ n, bytes.length ≤ n → Takes (next n) behind bytes x) :
    Takes (left >>= next) behind bytes x := by
  intro c rest here allowed
  have enough : bytes.length ≤ c.rest.length := by
    rw [here, List.length_append]
    exact Nat.le_add_right _ _
  exact then_ c.rest.length enough c rest here allowed

theorem placing (first : Takes reader behind bytes a) (ending : Cursor → Cursor) :
    Takes (Reader.placing ending reader) behind bytes a := by
  intro c rest here allowed
  obtain ⟨c', read, left⟩ := first c rest here allowed
  refine ⟨c', ?_, left⟩
  unfold Reader.placing
  rw [read]

/-- A reader that takes a whole document. -/
theorem run (first : Takes reader Closes bytes a) : Reader.run reader bytes = .ok a := by
  obtain ⟨c, read, left⟩ := first (.start bytes) [] (List.append_nil bytes).symm closes_nil
  have ended : endOfText c = .ok ((), c) := by
    obtain ⟨line, column, rest⟩ := c
    cases left
    rfl
  show Except.bind (reader (.start bytes)) _ = _
  rw [read]
  show Except.bind (endOfText c) _ = _
  rw [ended]
  rfl

end Takes

/-- What is made of a value that is read. -/
theorem Reads.map {v : Json} (reads : Reads reader v a) (f : α → β) :
    Reads (do pure (f (← reader))) v (f a) :=
  ⟨reads.takes.finish (.pure (f a)), reads.leads⟩

/-! ## Tokens -/

theorem skipBlanks_of_next (line column : Nat) {rest : List UInt8}
    (visible : Cursor.isBlank b = false) (next : Next b rest) :
    Cursor.skipBlanks line column rest = ⟨line, column, rest⟩ := by
  cases rest with
  | nil => cases next
  | cons b' rest =>
    cases next
    unfold Cursor.skipBlanks
    rw [visible]
    rfl

theorem takes_token (visible : Cursor.isBlank b = false) : Takes token? (Next b) [] (some b) := by
  intro c rest here next
  have read : token? c = .ok (some b, ⟨c.line, c.column, rest⟩) := by
    unfold token?
    rw [here, List.nil_append, skipBlanks_of_next _ _ visible next]
    show Except.ok (rest.head?, _) = _
    rw [next]
  exact ⟨_, read, rfl⟩

theorem takes_peek : Takes peek? (Next b) [] (some b) := by
  intro c rest here next
  refine ⟨c, ?_, here⟩
  show Except.ok (c.rest.head?, c) = _
  rw [here]
  show Except.ok (rest.head?, c) = _
  rw [next]

theorem peek_bind (next : Option UInt8 → Reader β) (c : Cursor) :
    (peek? >>= next) c = next c.rest.head? c := rfl

theorem rest_past (c : Cursor) (b : UInt8) (rest : List UInt8) : (c.past b rest).rest = rest := by
  unfold Cursor.past
  split <;> rfl

theorem takes_advance (b : UInt8) : Takes advance Anything [b] () := by
  intro c rest here _
  refine ⟨c.past b rest, ?_, rest_past c b rest⟩
  show Except.ok ((), c.ahead) = _
  unfold Cursor.ahead
  rw [here]
  rfl

theorem takes_next (b : UInt8) : Takes next? Anything [b] (some b) := by
  intro c rest here _
  refine ⟨c.past b rest, ?_, rest_past c b rest⟩
  unfold next?
  rw [here]
  rfl

theorem takes_opening (visible : Cursor.isBlank b = false) : Takes opening (Next b) [] b :=
  (takes_token visible).looking (.pure b) fun _ next => next

theorem takes_literal (tail : List UInt8) : Takes (literal tail) Anything tail () := by
  induction tail with
  | nil => exact .pure ()
  | cons b tail ih =>
    refine (takes_next b).andThen ?_
    simp only [if_pos]
    exact ih

theorem takes_colon : Takes colon Anything [58] () :=
  (takes_token (b := 58) (by decide)).looking (takes_advance 58) fun _ _ => rfl

/-- Enters brackets if there is room for a value between them. -/
theorem takes_enter {room : Nat} (enough : 2 ≤ room) (b : UInt8) :
    Takes (enter room) Anything [b] (room - 1) := by
  obtain ⟨n, rfl⟩ := Nat.exists_eq_add_of_le' enough
  exact (takes_advance b).andThen (.pure (n + 1))

end Reader

end Vigil.Json

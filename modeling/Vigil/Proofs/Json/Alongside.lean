import Vigil.Proofs.Json.Nodes
import Vigil.Proofs.Sequence

/-!
# Readers side by side

Two readers that begin at the same place go alongside each other if they are behind the same bytes
whenever both take something (`Alongside`). Readers in a row go alongside others in a row
(`Alongside.bind`). Passing over a number or a string goes alongside reading it
(`alongside_skipNumber`, `alongside_skipString`).
-/

set_option autoImplicit false

namespace Vigil.Json.Reader

variable {α β γ δ : Type} {reader : Reader α} {other : Reader β} {next : α → Reader γ}
  {next' : β → Reader δ} {P : α → β → Prop} {Q : γ → δ → Prop}

/-- Where both readers take something, they are then at the same place, and `P` holds of what they
give. -/
def Alongside (reader : Reader α) (other : Reader β) (P : α → β → Prop) : Prop :=
  ∀ c a c₁ b c₂, reader c = .ok (a, c₁) → other c = .ok (b, c₂) → c₁ = c₂ ∧ P a b

/-- A reader that never takes anything. -/
def Refuses (reader : Reader α) : Prop := Gives reader fun _ => False

/-- A reader that stays where it is. -/
def Stays (reader : Reader α) : Prop := ∀ c a c', reader c = .ok (a, c') → c' = c

/-- A reader takes something if what it is made of does, one after the other. -/
theorem bind_ok_iff {c c' : Cursor} {x : γ} :
    (reader >>= next) c = .ok (x, c') ↔
      ∃ a c₁, reader c = .ok (a, c₁) ∧ next a c₁ = .ok (x, c') := by
  show (reader c >>= fun p => next p.1 p.2) = _ ↔ _
  rw [bind_eq_ok_iff, Prod.exists]

/-! ## Readers that take nothing, or stay -/

theorem Refuses.then (refuses : Refuses reader) : Refuses (reader >>= next) :=
  Gives.bind refuses fun _ never => never.elim

theorem stays_pure (a : α) : Stays (pure a) := by
  intro c a' c' eq
  cases eq
  rfl

protected theorem Stays.bind (first : Stays reader) (then_ : ∀ a, Stays (next a)) :
    Stays (reader >>= next) := by
  intro c x c' eq
  obtain ⟨a, d, got, rest⟩ := bind_ok_iff.1 eq
  rw [then_ a d x c' rest, first c a d got]

theorem Refuses.gives {Q : α → Prop} (refuses : Refuses reader) : Gives reader Q :=
  fun c a c' eq => (refuses c a c' eq).elim

theorem Refuses.stays (refuses : Refuses reader) : Stays reader :=
  fun c a c' eq => (refuses c a c' eq).elim

theorem refuses_fail (f : Fault) : Refuses (fail f : Reader α) := gives_fail f

theorem refuses_failPeek (f : Fault) : Refuses (failPeek f : Reader α) := gives_failPeek f

theorem refuses_mismatch (m : Mismatch) : Refuses (mismatch m : Reader α) :=
  fun _ _ _ eq => nomatch eq

theorem refuses_mismatchBehind (m : Mismatch) : Refuses (mismatchBehind m : Reader α) :=
  fun _ _ _ eq => nomatch eq

theorem stays_float (negative : Bool) (n : Numeral) : Stays (float negative n) := by
  unfold float
  split
  · exact stays_pure _
  · exact (refuses_fail _).stays

namespace Alongside

theorem refl (reader : Reader α) : Alongside reader reader (· = ·) := by
  intro c a c₁ b c₂ first second
  obtain ⟨rfl, rfl⟩ := Prod.mk.inj (Except.ok.inj (first.symm.trans second))
  exact ⟨rfl, rfl⟩

theorem weaken {Q : α → β → Prop} (along : Alongside reader other P) (fits : ∀ a b, P a b → Q a b) :
    Alongside reader other Q := by
  intro c a c₁ b c₂ first second
  obtain ⟨rfl, holds⟩ := along c a c₁ b c₂ first second
  exact ⟨rfl, fits a b holds⟩

protected theorem pure {a : α} {b : β} (holds : P a b) : Alongside (pure a) (pure b) P := by
  intro c a' c₁ b' c₂ first second
  cases first
  cases second
  exact ⟨rfl, holds⟩

protected theorem bind (first : Alongside reader other P)
    (then_ : ∀ a b, P a b → Alongside (next a) (next' b) Q) :
    Alongside (reader >>= next) (other >>= next') Q := by
  intro c x c₁ y c₂ one two
  obtain ⟨a, d, got, one⟩ := bind_ok_iff.1 one
  obtain ⟨b, e, got', two⟩ := bind_ok_iff.1 two
  obtain ⟨rfl, holds⟩ := first c a d b e got got'
  exact then_ a b holds d x c₁ y c₂ one two

/-- The one makes something more of what it reads. -/
theorem more (along : Alongside reader other P) {Q : γ → β → Prop} (stays : ∀ a, Stays (next a))
    (gives : ∀ a b, P a b → Gives (next a) (Q · b)) : Alongside (reader >>= next) other Q := by
  intro c x c₁ b c₂ one two
  obtain ⟨a, d, got, one⟩ := bind_ok_iff.1 one
  obtain ⟨rfl, holds⟩ := along c a d b c₂ got two
  exact ⟨stays a d x c₁ one, gives a b holds d x c₁ one⟩

/-- The other makes something more of what it reads. -/
theorem more_right (along : Alongside reader other P) {Q : α → δ → Prop} {f : β → δ}
    (fits : ∀ a b, P a b → Q a (f b)) : Alongside reader (do pure (f (← other))) Q := by
  intro c a c₁ x c₂ one two
  obtain ⟨b, d, got, two⟩ := bind_ok_iff.1 two
  obtain ⟨rfl, holds⟩ := along c a c₁ b d one got
  cases two
  exact ⟨rfl, fits a b holds⟩

/-- Each makes something of what it reads. -/
theorem maps (along : Alongside reader other P) {f : α → γ} {g : β → δ} :
    Alongside (do pure (f (← reader))) (do pure (g (← other))) fun _ _ => True :=
  along.bind fun _ _ _ => .pure trivial

/-- Both begin in the same way. -/
theorem both {next : α → Reader γ} {next' : α → Reader δ} {Q : γ → δ → Prop}
    (then_ : ∀ a, Alongside (next a) (next' a) Q) :
    Alongside (reader >>= next) (reader >>= next') Q :=
  (refl reader).bind fun a _ same => same ▸ then_ a

theorem of_refuses (refuses : Refuses reader) : Alongside reader other P :=
  fun c a c₁ _ _ first _ => (refuses c a c₁ first).elim

theorem of_refuses_right (refuses : Refuses other) : Alongside reader other P :=
  fun c _ _ b c₂ _ second => (refuses c b c₂ second).elim

/-- How much is left is seen without moving. -/
theorem behindLeft {next' : Nat → Reader β} (then_ : ∀ n, Alongside reader (next' n) P) :
    Alongside reader (left >>= next') P :=
  fun c a c₁ b c₂ first second => then_ c.rest.length c a c₁ b c₂ first second

/-- The one first does something without moving. -/
theorem behindStaying {Q : γ → β → Prop} (stays : Stays reader)
    (then_ : ∀ a, Alongside (next a) other Q) : Alongside (reader >>= next) other Q := by
  intro c x c₁ b c₂ one two
  obtain ⟨a, d, got, one⟩ := bind_ok_iff.1 one
  rw [stays c a d got] at one
  exact then_ a c x c₁ b c₂ one two

/-- Neither moves. -/
theorem of_stays (first : Stays reader) (second : Stays other) :
    Alongside reader other fun _ _ => True :=
  fun c a c₁ b c₂ one two => ⟨(first c a c₁ one).trans (second c b c₂ two).symm, trivial⟩

end Alongside

/-! ## Numbers -/

/-- How many bytes the digits of an exponent take that is small enough, and at least how many
otherwise. -/
theorem exponentDigits_cases (bytes : List UInt8) (n used : Nat) :
    (∃ e, exponentDigits bytes n used = .ok (e, used + (bytes.takeWhile isDigit).length)) ∨
      ∃ k ≤ (bytes.takeWhile isDigit).length, exponentDigits bytes n used = .error (used + k) := by
  induction bytes generalizing n used with
  | nil => exact .inl ⟨n, rfl⟩
  | cons b bytes ih =>
    rw [exponentDigits]
    cases decimal : isDigit b with
    | false =>
      rw [List.takeWhile_cons_of_neg (by rw [decimal]; exact Bool.false_ne_true)]
      exact .inl ⟨n, rfl⟩
    | true =>
      rw [List.takeWhile_cons_of_pos decimal, if_pos rfl, List.length_cons]
      split
      · rcases ih (n * 10 + digit b) (used + 1) with ⟨e, small⟩ | ⟨k, le, large⟩
        · exact .inl ⟨e, by rw [small, Nat.add_assoc, Nat.add_comm 1]⟩
        · exact .inr ⟨k + 1, Nat.succ_le_succ le, by rw [large, Nat.add_assoc, Nat.add_comm 1]⟩
      · exact .inr ⟨1, Nat.succ_le_succ (Nat.zero_le _), rfl⟩

/-- The place behind the digits that come next. -/
def behindDigits (c : Cursor) : Cursor :=
  ⟨c.line, c.column + (c.rest.takeWhile isDigit).length, c.rest.dropWhile isDigit⟩

theorem drop_length_takeWhile (bytes : List UInt8) :
    bytes.drop (bytes.takeWhile isDigit).length = bytes.dropWhile isDigit := by
  conv => lhs; arg 2; rw [← List.takeWhile_append_dropWhile (p := isDigit) (l := bytes)]
  exact List.drop_left

/-- The digits that come next can be taken in two parts. -/
theorem digits_drop (bytes : List UInt8) {k : Nat} (le : k ≤ (bytes.takeWhile isDigit).length) :
    k + ((bytes.drop k).takeWhile isDigit).length = (bytes.takeWhile isDigit).length ∧
      (bytes.drop k).dropWhile isDigit = bytes.dropWhile isDigit := by
  induction bytes generalizing k with
  | nil =>
    obtain rfl := Nat.le_zero.1 le
    exact ⟨rfl, rfl⟩
  | cons b bytes ih =>
    cases k with
    | zero => exact ⟨Nat.zero_add _, rfl⟩
    | succ k =>
      cases decimal : isDigit b with
      | false => simp [decimal] at le
      | true =>
        rw [List.takeWhile_cons_of_pos decimal, List.length_cons] at le
        obtain ⟨length, rest⟩ := ih (Nat.le_of_succ_le_succ le)
        rw [List.takeWhile_cons_of_pos decimal, List.dropWhile_cons_of_pos decimal,
          List.drop_succ_cons, List.length_cons, ← length]
        exact ⟨by omega, rest⟩

theorem behindDigits_skip (c : Cursor) {k : Nat} (le : k ≤ (c.rest.takeWhile isDigit).length) :
    behindDigits ⟨c.line, c.column + k, c.rest.drop k⟩ = behindDigits c := by
  obtain ⟨length, rest⟩ := digits_drop c.rest le
  unfold behindDigits
  simp only [rest, ← length, Nat.add_assoc]

/-- The digits of an exponent, behind the first of them. -/
def exponentRest (negative : Bool) (n : Numeral) (down : Bool) (first : UInt8) : Reader Number := do
  let c ← get
  match exponentDigits c.rest (digit first) 0 with
  | .ok (e, used) => do
    skip used
    float negative ⟨n.digits, if down then n.exponent - e else n.exponent + e⟩
  | .error used => do
    skip used
    if n.digits ≠ 0 ∧ ¬ down then fail .numberOutOfRange
    else do
      let _ ← digits
      pure (.float (.zero negative))

/-- An exponent is read up to the end of its digits. -/
theorem alongside_exponentRest (negative : Bool) (n : Numeral) (down : Bool) (first : UInt8) :
    Alongside (do let _ ← digits) (exponentRest negative n down first) fun _ _ => True := by
  intro c ⟨⟩ c₁ x c₂ one two
  have passed : c₁ = behindDigits c := (Prod.mk.inj (Except.ok.inj one)).2.symm
  refine ⟨?_, trivial⟩
  obtain ⟨_, _, ⟨⟩, two⟩ := bind_ok_iff.1 two
  -- A large exponent is taken in two parts: up to where it gets large, and then the other digits.
  rcases exponentDigits_cases c.rest (digit first) 0 with ⟨e, small⟩ | ⟨k, le, large⟩
  · rw [small] at two
    obtain ⟨_, c₃, skipped, two⟩ := bind_ok_iff.1 two
    rw [stays_float _ _ _ _ _ two, passed]
    cases skipped
    simp only [behindDigits, Nat.zero_add, drop_length_takeWhile]
  · rw [large] at two
    obtain ⟨_, c₃, skipped, two⟩ := bind_ok_iff.1 two
    cases skipped
    split at two
    · cases two
    · obtain ⟨_, c₄, taken, two⟩ := bind_ok_iff.1 two
      have last : c₄ = c₂ := by
        cases two
        rfl
      have passed' := (Prod.mk.inj (Except.ok.inj taken)).2
      rw [passed, ← last, ← passed', Nat.zero_add]
      exact (behindDigits_skip c le).symm

theorem alongside_skipExponent (negative : Bool) (n : Numeral) :
    Alongside skipExponent (exponentPart negative n) fun _ _ => True := by
  unfold skipExponent exponentPart
  refine .both fun _ => .both fun sign => ?_
  extract_lets behindSign behindSign'
  have behind : ∀ down,
      Alongside (behindSign PUnit.unit) (behindSign' down) fun _ _ => True := by
    intro down
    refine .both fun b => ?_
    cases b with
    | none => exact .of_refuses (refuses_fail _)
    | some b =>
      simp only
      split
      · exact alongside_exponentRest negative n down b
      · exact .of_refuses (refuses_fail _)
  by_cases plus : sign = some 43
  · subst plus
    exact .both fun _ => behind false
  by_cases minus : sign = some 45
  · subst minus
    exact .both fun _ => behind true
  simp only
  exact behind false

theorem alongside_skipNumber (negative : Bool) :
    Alongside skipNumber (number negative) fun _ _ => True := by
  unfold skipNumber number
  extract_lets behindDecimals behindWhole
  have decimals : ∀ n, Alongside (behindDecimals PUnit.unit) (floatEnd negative n)
      fun _ _ => True := by
    intro n
    unfold floatEnd
    refine .both fun b => ?_
    by_cases lower : b = some 101
    · subst lower
      exact alongside_skipExponent negative n
    by_cases upper : b = some 69
    · subst upper
      exact alongside_skipExponent negative n
    simp only
    exact .of_stays (stays_pure _) (stays_float negative n)
  have whole : ∀ n, Alongside (behindWhole PUnit.unit) (numberEnd negative n) fun _ _ => True := by
    intro n
    unfold numberEnd decimalPart
    refine .both fun b => ?_
    by_cases point : b = some 46
    · subst point
      refine .both fun _ => .both fun ds => ?_
      split
      · exact .of_refuses (refuses_failPeek _).then
      · exact decimals _
    by_cases lower : b = some 101
    · subst lower
      exact alongside_skipExponent negative n
    by_cases upper : b = some 69
    · subst upper
      exact alongside_skipExponent negative n
    simp only
    refine .of_stays (stays_pure _) ?_
    split
    · exact stays_float negative n
    · split
      · split
        · exact stays_float true n
        · exact stays_pure _
      · exact stays_pure _
  refine .both fun b => ?_
  cases b with
  | none => exact .of_refuses (refuses_fail _).then
  | some b =>
    simp only
    split
    · refine .both fun d => ?_
      cases d with
      | none => exact whole _
      | some d =>
        simp only
        split
        · exact .of_refuses (refuses_failPeek _).then
        · exact whole _
    · split
      · exact .both fun ds => whole _
      · exact .of_refuses (refuses_fail _).then

/-! ## Strings -/

/-- To take a byte is to look at it and to pass it. -/
theorem next_eq : next? = (do let b ← peek?; advance; pure b) := by
  funext c
  obtain ⟨line, column, rest⟩ := c
  cases rest <;> rfl

/-- An escaped code unit that is passed over may be the first of a pair that is read at once. -/
theorem alongside_unicodeEscape {rest : List UInt8 → Reader β}
    (behind : ∀ fuel bytes, Alongside (skipString fuel) (rest bytes) fun _ _ => True) (fuel : Nat) :
    Alongside (do let _ ← codeUnit; skipString fuel) (unicodeEscape >>= rest) fun _ _ => True := by
  rw [unicodeEscape, bind_assoc]
  refine .both fun n => ?_
  split
  · exact .of_refuses_right (refuses_fail _).then
  · split
    · cases fuel with
      | zero => exact .of_refuses (refuses_fail _)
      | succ fuel =>
        -- The second of the pair is passed over as an escape of its own.
        rw [skipString, next_eq]
        simp only [bind_assoc, pure_bind]
        refine .both fun b => ?_
        cases b with
        | none => exact .of_refuses (refuses_fail _)
        | some b =>
          by_cases slash : b = 92
          · subst slash
            refine .both fun _ => ?_
            simp only [ne_eq, not_true_eq_false, if_false, bind_assoc]
            refine .both fun u => .both fun _ => ?_
            cases u with
            | none => exact .of_refuses (refuses_fail _)
            | some u =>
              by_cases letter : u = 117
              · subst letter
                simp only [not_true_eq_false, if_false, if_true, bind_assoc]
                refine .both fun m => ?_
                split
                · exact behind fuel _
                · exact .of_refuses_right (refuses_fail _).then
              · simp only [letter, not_false_eq_true, if_true]
                exact .of_refuses_right (refuses_fail _).then
          · simp only [ne_eq, slash, not_false_eq_true, if_true]
            exact .of_refuses_right (.past fun _ => (refuses_fail _).then)
    · rw [pure_bind]
      exact behind fuel _

/-- A string is passed over up to where it is read, behind its closing quotation mark. -/
theorem alongside_skipStringFrom {next : List UInt8 → Reader β}
    (closing : ∀ bytes, Alongside advance (next bytes) fun _ _ => True) (fuel fuel' : Nat)
    (acc : List UInt8) :
    Alongside (skipString fuel) (stringBytes fuel' acc >>= next) fun _ _ => True := by
  induction fuel' generalizing fuel acc with
  | zero => exact .of_refuses_right (refuses_fail _).then
  | succ fuel' ih =>
    cases fuel with
    | zero => exact .of_refuses (refuses_fail _)
    | succ fuel =>
      rw [skipString, stringBytes, bind_assoc]
      refine .both fun b => ?_
      cases b with
      | none => exact .of_refuses (refuses_fail _)
      | some b =>
        simp only
        split
        · simp only [pure_bind]
          exact closing _
        · simp only [bind_assoc]
          split
          · rw [escape]
            simp only [bind_assoc]
            refine .both fun _ => .both fun e => ?_
            cases e with
            | none => exact .of_refuses (refuses_fail _)
            | some e =>
              simp only
              split
              · exact alongside_unicodeEscape (fun fuel bytes => ih fuel _) fuel
              · cases escapedByte? e with
                | none => exact .of_refuses (refuses_fail _)
                | some x => exact ih fuel _
          · split
            · exact .of_refuses (refuses_fail _)
            · exact .both fun _ => ih _ _

theorem alongside_skipString (fuel : Nat) :
    Alongside (skipString fuel) string fun _ _ => True := by
  unfold string
  refine .behindLeft fun n => alongside_skipStringFrom (fun bytes => ?_) fuel (n + 1) []
  cases Text.decode? bytes with
  | none => exact .of_refuses_right (refuses_fail _)
  | some s =>
    intro c a c₁ b c₂ one two
    cases one
    cases two
    exact ⟨rfl, trivial⟩

end Vigil.Json.Reader

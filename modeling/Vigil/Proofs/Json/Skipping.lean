import Vigil.Proofs.Json.Alongside

/-!
# Passing over a value

A value is passed over up to where it is read (`alongside_skipValue`). Reading goes into brackets by
recursion, while passing over keeps a list of those that are open; behind each value it resumes with
them (`resume`). What carries the proof is therefore said of whatever is read behind the value
(`Resumes`).
-/

set_option autoImplicit false

namespace Vigil.Json.Reader

variable {α β σ : Type}

theorem pastBlanks_twice (c : Cursor) : c.pastBlanks.pastBlanks = c.pastBlanks := by
  obtain ⟨line, column, rest⟩ := c
  show (Cursor.skipBlanks line column rest).pastBlanks = Cursor.skipBlanks line column rest
  induction rest generalizing line column with
  | nil => rfl
  | cons b rest ih =>
    rw [Cursor.skipBlanks]
    split
    · split
      · exact ih _ _
      · exact ih _ _
    · rename_i visible
      rw [Cursor.pastBlanks, Cursor.skipBlanks, if_neg visible]

theorem token_pastBlanks (c : Cursor) :
    token? c.pastBlanks = .ok (c.pastBlanks.rest.head?, c.pastBlanks) :=
  congrArg (fun d : Cursor => Except.ok (d.rest.head?, d)) (pastBlanks_twice c)

/-- Behind the blanks there are no more. -/
theorem token_twice (next : Option UInt8 → Reader β) :
    (token? >>= fun _ => token? >>= next) = token? >>= next := by
  funext c
  show token? c.pastBlanks >>= (fun p => next p.1 p.2) = next _ _
  rw [token_pastBlanks]
  rfl

/-- What is read behind blanks may look at the next byte once more. -/
theorem token_congr {next next' : Option UInt8 → Reader β}
    (same : ∀ b c, token? c = .ok (b, c) → next b c = next' b c) :
    token? >>= next = token? >>= next' := by
  funext c
  exact same _ c.pastBlanks (token_pastBlanks c)

/-! ## Items and members -/

/-- Reads what is between brackets, from behind a value if it is not the `first`: its end or more of
it. -/
def elements (k : Bracket) (first : Bool) (more done : Reader β) : Reader β := do
  match ← token? with
  | none => failPeek k.atEnd
  | some b =>
    if b = k.closing then do
      advance
      done
    else if first then more
    else if b = 44 then do
      advance
      more
    else failPeek k.noComma

/-- Reads an item that has to follow. -/
def atItem (more : Reader β) : Reader β := do
  match ← token? with
  | none => failPeek .endInValue
  | some b => if b = 93 then failPeek .trailingComma else more

/-- Reads a member that has to follow. -/
def atName (more : Reader β) : Reader β := do
  match ← token? with
  | none => failPeek .endInValue
  | some b =>
    if b = 34 then more
    else if b = 125 then failPeek .trailingComma
    else failPeek .nameExpected

theorem elements_bind (k : Bracket) (first : Bool) (more done : Reader α) (next : α → Reader β) :
    elements k first more done >>= next = elements k first (more >>= next) (done >>= next) := by
  rw [elements, elements, bind_assoc]
  refine congrArg (token? >>= ·) (funext fun b => ?_)
  cases b with
  | none => rfl
  | some b => simp only [apply_ite (· >>= next), bind_assoc]; rfl

/-- The next byte does not change by being looked at. -/
theorem token_again {next : Option UInt8 → Reader β} {b : Option UInt8} {c : Cursor}
    (here : token? c = .ok (b, c)) : (token? >>= next) c = next b c := by
  show (token? c >>= fun p => next p.1 p.2) = next b c
  rw [here]
  rfl

theorem atItem_bind (more : Reader α) (next : α → Reader β) :
    atItem more >>= next = atItem (more >>= next) := by
  rw [atItem, atItem, bind_assoc]
  refine congrArg (token? >>= ·) (funext fun b => ?_)
  cases b with
  | none => rfl
  | some b => simp only [apply_ite (· >>= next)]; rfl

theorem atName_bind (more : Reader α) (next : α → Reader β) :
    atName more >>= next = atName (more >>= next) := by
  rw [atName, atName, bind_assoc]
  refine congrArg (token? >>= ·) (funext fun b => ?_)
  cases b with
  | none => rfl
  | some b => simp only [apply_ite (· >>= next)]; rfl

theorem itemsFrom_succ (item : Reader α) (count : Nat) (first : Bool) (acc : List α) :
    itemsFrom item (count + 1) first acc =
      elements .array first (atItem do let a ← item; itemsFrom item count false (a :: acc))
        (pure acc.reverse) := by
  rw [itemsFrom, nextItem, bind_assoc]
  refine token_congr fun b c here => ?_
  cases b with
  | none => rfl
  | some b =>
    by_cases closes : b = 93
    · subst closes
      show (endArray >>= fun _ => pure acc.reverse) c = _
      rw [endArray, bind_assoc, token_again here]
      rfl
    · have closes' : ¬ b = Bracket.array.closing := closes
      simp only [closes, closes', if_false]
      cases first with
      | true =>
        rw [atItem]
        simp only [if_true]
        rw [token_again here]
        simp only [closes, if_false]
        rfl
      | false =>
        refine congrFun (a := c) ?_
        simp only [Bool.false_eq_true, if_false]
        split
        · rw [atItem, bind_assoc]
          refine congrArg (advance >>= ·) (funext fun _ => ?_)
          rw [bind_assoc]
          refine congrArg (token? >>= ·) (funext fun b => ?_)
          cases b with
          | none => rfl
          | some b =>
            simp only
            split
            · rfl
            · rfl
        · rfl

theorem membersFrom_succ (step : String → σ → Reader σ) (count : Nat) (first : Bool) (s : σ) :
    membersFrom step (count + 1) first s =
      elements .object first
        (atName do advance; let name ← string; membersFrom step count false (← step name s))
        (pure s) := by
  rw [membersFrom, nextMember, bind_assoc]
  refine token_congr fun b c here => ?_
  cases b with
  | none => rfl
  | some b =>
    by_cases closes : b = 125
    · subst closes
      show (endObject >>= fun _ => pure s) c = _
      rw [endObject, bind_assoc, token_again here]
      rfl
    · have closes' : ¬ b = Bracket.object.closing := closes
      simp only [closes, closes', if_false]
      cases first with
      | true =>
        rw [atName]
        simp only [if_true]
        rw [token_again here]
        simp only [closes, if_false]
        split
        · rfl
        · rfl
      | false =>
        refine congrFun (a := c) ?_
        simp only [Bool.false_eq_true, if_false]
        split
        · rw [atName, bind_assoc]
          refine congrArg (advance >>= ·) (funext fun _ => ?_)
          rw [bind_assoc]
          refine congrArg (token? >>= ·) (funext fun b => ?_)
          cases b with
          | none => rfl
          | some b =>
            simp only
            split
            · rfl
            · split
              · rfl
              · rfl
        · rfl

/-! ## Going on behind a value -/

/-- Goes on within brackets that are open. -/
def within (fuel : Nat) : List Bracket → Reader Unit
  | [] => pure ()
  | .array :: outer => skipValues fuel (.array :: outer)
  | .object :: outer => do
    skipName (fuel + 1)
    skipValues fuel (.object :: outer)

/-- Goes on behind a value or an opening bracket, as passing over does: closes brackets and goes on
within those that are still open. -/
def resume (closing fuel : Nat) (afterValue : Bool) (opened : List Bracket) : Reader Unit := do
  within fuel (← closeBrackets closing afterValue opened)

theorem resume_succ (closing fuel : Nat) (afterValue : Bool) (k : Bracket) (outer : List Bracket) :
    resume (closing + 1) fuel afterValue (k :: outer) =
      elements k (!afterValue) (within fuel (k :: outer)) (resume closing fuel true outer) := by
  have comma : (44 : UInt8) ≠ k.closing := by cases k <;> decide
  rw [resume, closeBrackets, elements, bind_assoc]
  refine congrArg (token? >>= ·) (funext fun b => ?_)
  cases b with
  | none => rfl
  | some b =>
    cases afterValue with
    | true =>
      by_cases follows : b = 44
      · subst follows
        simp [comma]
      · by_cases closes : b = k.closing
        · simp [closes, comma.symm]
          rfl
        · simp [follows, closes]
          rfl
    | false =>
      by_cases closes : b = k.closing
      · simp [closes]
        rfl
      · simp [closes]

/-- Passing over goes alongside `next`, wherever it resumes behind a value with these brackets
open. -/
def Resumes (opened : List Bracket) (next : Reader β) : Prop :=
  ∀ closing fuel, Alongside (resume closing fuel true opened) next fun _ _ => True

/-- No value and no name begins with a comma or a closing bracket. -/
theorem alongside_punctuation (fuel : Nat) (k : Bracket) (outer : List Bracket)
    (more done : Reader β) :
    Alongside (within fuel (k :: outer)) (elements k false more done) fun _ _ => True := by
  have stops : ∀ b : UInt8, b = k.closing ∨ b = 44 ∨ Refuses (if b = k.closing then
      (do advance; done) else if false = true then more else if b = 44 then (do advance; more)
      else failPeek k.noComma) := by
    intro b
    by_cases closes : b = k.closing
    · exact .inl closes
    · by_cases follows : b = 44
      · exact .inr (.inl follows)
      · simp only [closes, follows, if_false, Bool.false_eq_true]
        exact .inr (.inr (refuses_failPeek _))
  rw [elements]
  cases k with
  | array =>
    cases fuel with
    | zero => exact .of_refuses (refuses_fail _)
    | succ fuel =>
      rw [within, skipValues, bind_assoc]
      refine .both fun b => ?_
      cases b with
      | none => exact .of_refuses (refuses_failPeek _).then
      | some b =>
        rcases stops b with rfl | rfl | refuses
        · exact .of_refuses (refuses_failPeek _).then
        · exact .of_refuses (refuses_failPeek _).then
        · exact .of_refuses_right refuses
  | object =>
    rw [within, skipName]
    simp only [bind_assoc]
    refine .both fun b => ?_
    cases b with
    | none => exact .of_refuses (refuses_failPeek _).then
    | some b =>
      rcases stops b with rfl | rfl | refuses
      · exact .of_refuses (refuses_failPeek _).then
      · exact .of_refuses (refuses_failPeek _).then
      · exact .of_refuses_right refuses

theorem Resumes.elements {k : Bracket} {opened : List Bracket} {more done : Reader β}
    (enters : ∀ fuel, Alongside (within fuel (k :: opened)) more fun _ _ => True)
    (leaves : Resumes opened done) : Resumes (k :: opened) (elements k false more done) := by
  intro closing fuel
  cases closing with
  -- If nothing more may be closed, a value would have to come next, but punctuation does.
  | zero => exact alongside_punctuation fuel k opened more done
  | succ closing =>
    rw [resume_succ, Reader.elements, Reader.elements]
    refine .both fun b => ?_
    cases b with
    | none => exact .of_refuses (refuses_failPeek _)
    | some b =>
      simp only [Bool.not_true, Bool.false_eq_true, if_false]
      split
      · exact .both fun _ => leaves closing fuel
      · split
        · exact .both fun _ => enters fuel
        · exact .of_refuses (refuses_failPeek _)

theorem alongside_first {k : Bracket} {opened : List Bracket} {more done : Reader β}
    (enters : ∀ fuel, Alongside (within fuel (k :: opened)) more fun _ _ => True)
    (leaves : Resumes opened done) (closing fuel : Nat) :
    Alongside (resume (closing + 1) fuel false (k :: opened)) (elements k true more done)
      fun _ _ => True := by
  rw [resume_succ, elements, elements]
  refine .both fun b => ?_
  cases b with
  | none => exact .of_refuses (refuses_failPeek _)
  | some b =>
    simp only
    split
    · exact .both fun _ => leaves closing fuel
    · exact enters fuel

theorem Alongside.atItem {fuel : Nat} {opened : List Bracket} {more : Reader β}
    (item : Alongside (skipValues fuel (.array :: opened)) more fun _ _ => True) :
    Alongside (within fuel (.array :: opened)) (atItem more) fun _ _ => True := by
  rw [within]
  cases fuel with
  | zero => exact .of_refuses (refuses_fail _)
  | succ fuel =>
    have looked : skipValues (fuel + 1) (.array :: opened) =
        token? >>= fun _ => skipValues (fuel + 1) (.array :: opened) := by
      rw [skipValues, bind_assoc]
      exact (token_twice _).symm
    rw [looked, Reader.atItem]
    refine .both fun b => ?_
    cases b with
    | none => exact .of_refuses_right (refuses_failPeek _)
    | some b =>
      simp only
      split
      · exact .of_refuses_right (refuses_failPeek _)
      · exact item

theorem Alongside.atName {fuel : Nat} {opened : List Bracket} {more : String → Reader β}
    (member : ∀ name, Alongside (do colon; skipValues fuel (.object :: opened)) (more name)
      fun _ _ => True) :
    Alongside (within fuel (.object :: opened)) (atName do advance; more (← string))
      fun _ _ => True := by
  rw [within, skipName, Reader.atName]
  simp only [bind_assoc]
  refine .both fun b => ?_
  cases b with
  | none => exact .of_refuses (refuses_failPeek _).then
  | some b =>
    simp only
    split
    · simp only [bind_assoc]
      refine .both fun _ => (alongside_skipString (fuel + 1)).bind fun _ name _ => ?_
      have same := member name
      rw [colon, bind_assoc] at same
      exact same
    · exact .of_refuses (refuses_failPeek _).then

/-- What is known of an item carries over to the items behind it. -/
theorem resumes_itemsFrom {item : Reader α} {opened : List Bracket} {next : List α → Reader β}
    (each : ∀ fuel (rest : α → Reader β), (∀ a, Resumes (.array :: opened) (rest a)) →
      Alongside (skipValues fuel (.array :: opened)) (item >>= rest) fun _ _ => True)
    (behind : ∀ as, Resumes opened (next as)) (count : Nat) (acc : List α) :
    Resumes (.array :: opened) (itemsFrom item count false acc >>= next) := by
  induction count generalizing acc with
  | zero => exact fun _ _ => .of_refuses_right (refuses_fail _).then
  | succ count ih =>
    rw [itemsFrom_succ, elements_bind, atItem_bind, bind_assoc, pure_bind]
    exact .elements (fun fuel => .atItem (each fuel _ fun a => ih (a :: acc))) (behind _)

theorem alongside_items {item : Reader α} {opened : List Bracket} {next : List α → Reader β}
    (each : ∀ fuel (rest : α → Reader β), (∀ a, Resumes (.array :: opened) (rest a)) →
      Alongside (skipValues fuel (.array :: opened)) (item >>= rest) fun _ _ => True)
    (behind : ∀ as, Resumes opened (next as)) (closing fuel : Nat) :
    Alongside (resume (closing + 1) fuel false (.array :: opened)) (items item >>= next)
      fun _ _ => True := by
  rw [items, bind_assoc]
  refine .behindLeft fun count => ?_
  rw [itemsFrom_succ, elements_bind, atItem_bind, bind_assoc, pure_bind]
  exact alongside_first
    (fun fuel => .atItem (each fuel _ fun a => resumes_itemsFrom each behind count [a]))
    (behind _) closing fuel

theorem resumes_membersFrom {step : String → σ → Reader σ} {opened : List Bracket}
    {next : σ → Reader β}
    (each : ∀ fuel name s (rest : σ → Reader β), (∀ s, Resumes (.object :: opened) (rest s)) →
      Alongside (do colon; skipValues fuel (.object :: opened)) (step name s >>= rest)
        fun _ _ => True)
    (behind : ∀ s, Resumes opened (next s)) (count : Nat) (s : σ) :
    Resumes (.object :: opened) (membersFrom step count false s >>= next) := by
  induction count generalizing s with
  | zero => exact fun _ _ => .of_refuses_right (refuses_fail _).then
  | succ count ih =>
    rw [membersFrom_succ, elements_bind, atName_bind]
    simp only [bind_assoc, pure_bind]
    exact .elements (fun fuel => .atName fun name => each fuel name s _ ih) (behind s)

theorem alongside_members {step : String → σ → Reader σ} {opened : List Bracket}
    {next : σ → Reader β}
    (each : ∀ fuel name s (rest : σ → Reader β), (∀ s, Resumes (.object :: opened) (rest s)) →
      Alongside (do colon; skipValues fuel (.object :: opened)) (step name s >>= rest)
        fun _ _ => True)
    (behind : ∀ s, Resumes opened (next s)) (closing fuel : Nat) (s : σ) :
    Alongside (resume (closing + 1) fuel false (.object :: opened)) (members step s >>= next)
      fun _ _ => True := by
  rw [members, bind_assoc]
  refine .behindLeft fun count => ?_
  rw [membersFrom_succ, elements_bind, atName_bind]
  simp only [bind_assoc, pure_bind]
  exact alongside_first
    (fun fuel => .atName fun name => each fuel name s _ fun s' =>
      resumes_membersFrom each behind count s')
    (behind s) closing fuel

/-- **Passing over a value leads to where it is read.** -/
theorem alongside_skipValues (room fuel : Nat) {opened : List Bracket} {next : Json → Reader β}
    (behind : ∀ v, Resumes opened (next v)) :
    Alongside (skipValues fuel opened) (value room >>= next) fun _ _ => True := by
  -- The induction is on the room that reading has; what is open and what is read behind the value
  -- change with the brackets that are gone into.
  induction room generalizing fuel opened next with
  | zero => exact .of_refuses_right (refuses_fail _).then
  | succ room ih =>
    cases fuel with
    | zero => exact .of_refuses (refuses_fail _)
    | succ fuel =>
      rw [skipValues, value]
      simp only [bind_assoc]
      refine .both fun b => ?_
      cases b with
      | none => exact .of_refuses (refuses_failPeek _).then
      | some b =>
        simp only
        split
        · simp only [bind_assoc, pure_bind]
          exact .both fun _ => .both fun _ => behind _ (fuel + 1) fuel
        split
        · simp only [bind_assoc, pure_bind]
          exact .both fun _ => .both fun _ => behind _ (fuel + 1) fuel
        split
        · simp only [bind_assoc, pure_bind]
          exact .both fun _ => .both fun _ => behind _ (fuel + 1) fuel
        split
        · simp only [bind_assoc, pure_bind]
          exact .both fun _ =>
            (alongside_skipNumber true).bind fun _ _ _ => behind _ (fuel + 1) fuel
        split
        · simp only [bind_assoc, pure_bind]
          exact (alongside_skipNumber false).bind fun _ _ _ => behind _ (fuel + 1) fuel
        split
        · simp only [bind_assoc, pure_bind]
          exact .both fun _ =>
            (alongside_skipString _).bind fun _ _ _ => behind _ (fuel + 1) fuel
        split
        · by_cases deep : room = 0
          · simp only [deep, if_true]
            exact .of_refuses_right (refuses_failPeek _).then
          · simp only [deep, if_false, bind_assoc, pure_bind]
            exact .both fun _ => alongside_items (fun fuel rest => ih fuel) (fun vs => behind _) _ _
        split
        · by_cases deep : room = 0
          · simp only [deep, if_true]
            exact .of_refuses_right (refuses_failPeek _).then
          · simp only [deep, if_false, bind_assoc, pure_bind]
            refine .both fun _ => alongside_members (fun fuel name ms rest more => ?_)
              (fun vs => behind _) _ _ _
            simp only [bind_assoc, pure_bind]
            exact .both fun _ => ih fuel fun v => more _
        · exact .of_refuses (refuses_failPeek _).then

/-- **Passing over a value leads to where it is read.** -/
theorem alongside_skipValue (room : Nat) :
    Alongside skipValue (value room) fun _ _ => True := by
  have ends : ∀ v : Json, Resumes [] (pure v : Reader Json) := by
    intro v closing fuel
    cases closing with
    | zero => exact .pure trivial
    | succ closing => exact .pure trivial
  intro c a c₁ v c₂ one two
  rw [← bind_pure (value room)] at two
  exact alongside_skipValues room (c.rest.length + 1) ends c a c₁ v c₂ one two

end Vigil.Json.Reader

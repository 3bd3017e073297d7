import Vigil.Proofs.Json.Takes
import Vigil.Proofs.Text.Utf8

/-!
# Strings

A string is read back from what is written for it (`takes_string`), character by character: either
the bytes of a character stand for themselves (`Plain`), or an escape stands for it.
-/

set_option autoImplicit false

namespace Vigil.Json

/-- The bytes of what stands between the quotation marks of a string. -/
def stringBody (s : String) : List UInt8 := utf8 (s.toList.flatMap escapeChar)

theorem utf8_quote (s : String) : utf8 (quote s) = 34 :: (stringBody s ++ [34]) := by
  have mark : String.utf8EncodeChar '"' = [34] := rfl
  unfold quote stringBody
  rw [utf8_cons, utf8_append, mark]
  rfl

theorem bytes_string (s : String) : bytes (.string s) = 34 :: (stringBody s ++ [34]) := by
  unfold bytes chars
  exact utf8_quote s

theorem leads_string (s : String) : Leads (Json.bytes (.string s)) :=
  ⟨34, _, bytes_string s, by decide, by decide⟩

namespace Reader

variable {behind : List UInt8 → Prop} {taken more tail out acc result : List UInt8} {fuel : Nat}

/-! ## Bytes that stand for themselves -/

/-- Bytes that stand for themselves in a string. -/
def Plain (taken : List UInt8) : Prop := ∀ b ∈ taken, b ≠ 34 ∧ b ≠ 92 ∧ ¬ b < 32

theorem takes_plain (plain : Plain taken)
    (later : Takes (stringBytes fuel (taken.reverse ++ acc)) behind more result) :
    Takes (stringBytes (fuel + taken.length) acc) behind (taken ++ more) result := by
  induction taken generalizing acc with
  | nil => exact later
  | cons b taken ih =>
    obtain ⟨quote, backslash, control⟩ := plain b List.mem_cons_self
    have rest : Takes (stringBytes (fuel + taken.length) (b :: acc)) behind (taken ++ more)
        result := by
      apply ih fun x mem => plain x (List.mem_cons_of_mem b mem)
      rwa [List.reverse_cons, List.append_assoc] at later
    refine takes_peek.looking ?_ fun _ _ => rfl
    simp only [if_neg quote]
    refine (takes_advance b).andThen ?_
    simp only [if_neg backslash, if_neg control]
    exact rest

/-! ## Escapes -/

theorem takes_escaped (escaped : Takes escape Anything tail out)
    (later : Takes (stringBytes fuel (out.reverse ++ acc)) behind more result) :
    Takes (stringBytes (fuel + 1) acc) behind (92 :: tail ++ more) result := by
  refine takes_peek.looking ?_ fun _ _ => rfl
  have quote : ¬ (92 : UInt8) = 34 := by decide
  simp only [if_neg quote]
  refine (takes_advance 92).andThen ?_
  simp only [if_pos]
  exact escaped.andThen later

/-- An escape by one letter. -/
theorem takes_letter {letter b : UInt8} (other : letter ≠ 117)
    (meant : escapedByte? letter = some b) : Takes escape Anything [letter] [b] := by
  refine (takes_next letter).andThen ?_
  simp only [if_neg other, meant]
  exact .pure [b]

theorem hexValue?_hexDigit (n : Nat) (small : n < 16) :
    hexValue? (UInt8.ofNat (hexDigit n).toNat) = some n := by
  have each : ∀ n : Fin 16, hexValue? (UInt8.ofNat (hexDigit n).toNat) = some n.val := by decide
  exact each ⟨n, small⟩

theorem utf8EncodeChar_hexDigit (n : Nat) (small : n < 16) :
    String.utf8EncodeChar (hexDigit n) = [UInt8.ofNat (hexDigit n).toNat] := by
  have each : ∀ n : Fin 16, (hexDigit n).toNat < 128 := by decide
  exact Text.utf8EncodeChar_of_lt (each ⟨n, small⟩)

theorem takes_codeUnit {b₁ b₂ b₃ b₄ : UInt8} {w x y z : Nat} (first : hexValue? b₁ = some w)
    (second : hexValue? b₂ = some x) (third : hexValue? b₃ = some y)
    (fourth : hexValue? b₄ = some z) :
    Takes codeUnit Anything [b₁, b₂, b₃, b₄] (((w * 16 + x) * 16 + y) * 16 + z) := by
  intro c rest here _
  have read : codeUnit c = .ok (((w * 16 + x) * 16 + y) * 16 + z,
      (((c.past b₁ rest).past b₂ rest).past b₃ rest).past b₄ rest) := by
    unfold codeUnit
    rw [here]
    simp only [List.cons_append, List.nil_append, first, second, third, fourth]
  exact ⟨_, read, rest_past _ b₄ rest⟩

/-- An escape of a control character by its number. -/
theorem takes_number {c : Char} (control : c.toNat < 32) :
    Takes escape Anything
      (utf8 ['u', '0', '0', hexDigit (c.toNat / 16), hexDigit (c.toNat % 16)])
      (String.utf8EncodeChar c) := by
  have high : c.toNat / 16 < 16 := by omega
  have low : c.toNat % 16 < 16 := by omega
  have written : utf8 ['u', '0', '0', hexDigit (c.toNat / 16), hexDigit (c.toNat % 16)] =
      [117] ++ ([48, 48, UInt8.ofNat (hexDigit (c.toNat / 16)).toNat,
        UInt8.ofNat (hexDigit (c.toNat % 16)).toNat] ++ []) := by
    simp only [utf8_cons, utf8EncodeChar_hexDigit _ high, utf8EncodeChar_hexDigit _ low]
    rfl
  have value : ((0 * 16 + 0) * 16 + c.toNat / 16) * 16 + c.toNat % 16 = c.toNat := by omega
  have zero : hexValue? 48 = some 0 := by decide
  have unit := takes_codeUnit zero zero (hexValue?_hexDigit _ high) (hexValue?_hexDigit _ low)
  rw [value] at unit
  rw [written]
  refine (takes_next 117).andThen ?_
  simp only [if_pos]
  refine unit.andThen ?_
  rw [if_neg (by omega), if_neg (by omega)]
  have bytes : codePointBytes c.toNat = String.utf8EncodeChar c := by
    unfold codePointBytes
    rw [Char.ofNat_toNat]
  rw [bytes]
  exact .pure _

/-! ## Characters -/

/-- How a character is written in a string. -/
inductive Written (c : Char) : Prop where
  | plain (same : escapeChar c = [c]) (plain : Plain (String.utf8EncodeChar c))
  | escaped (tail : List Char) (slash : escapeChar c = '\\' :: tail)
      (takes : Takes escape Anything (utf8 tail) (String.utf8EncodeChar c))

theorem plain_of_unescaped {c : Char} (quote : c ≠ '"') (backslash : c ≠ '\\')
    (control : ¬ c.toNat < 32) : Plain (String.utf8EncodeChar c) := by
  intro b mem
  by_cases ascii : c.toNat < 128
  · rw [Text.utf8EncodeChar_of_lt ascii, List.mem_singleton] at mem
    have value : b.toNat = c.toNat := by
      rw [mem, UInt8.toNat_ofNat_of_lt' (Nat.lt_trans ascii (by decide))]
    refine ⟨?_, ?_, ?_⟩
    · rintro rfl
      exact quote (Char.toNat_inj.1 value.symm)
    · rintro rfl
      exact backslash (Char.toNat_inj.1 value.symm)
    · intro less
      have lt : b.toNat < 32 := less
      omega
  · have large := Text.le_of_mem_utf8EncodeChar (Nat.le_of_not_lt ascii) mem
    refine ⟨?_, ?_, ?_⟩
    · rintro rfl
      exact absurd large (by decide)
    · rintro rfl
      exact absurd large (by decide)
    · intro less
      have lt : b.toNat < 32 := less
      omega

theorem written_by_letter {c letter : Char} {b₁ b₂ : UInt8} (slash : escapeChar c = ['\\', letter])
    (byte : utf8 [letter] = [b₁]) (other : b₁ ≠ 117) (meant : escapedByte? b₁ = some b₂)
    (itself : String.utf8EncodeChar c = [b₂]) : Written c := by
  refine .escaped [letter] slash ?_
  rw [byte, itself]
  exact takes_letter other meant

theorem written (c : Char) : Written c := by
  by_cases quote : c = '"'
  · subst quote
    exact written_by_letter rfl rfl (by decide) rfl rfl
  by_cases backslash : c = '\\'
  · subst backslash
    exact written_by_letter rfl rfl (by decide) rfl rfl
  by_cases newline : c = '\n'
  · subst newline
    exact written_by_letter rfl rfl (by decide) rfl rfl
  by_cases tab : c = '\t'
  · subst tab
    exact written_by_letter rfl rfl (by decide) rfl rfl
  by_cases return_ : c = '\r'
  · subst return_
    exact written_by_letter rfl rfl (by decide) rfl rfl
  by_cases backspace : c.toNat = 8
  · obtain rfl : c = '\x08' := Char.toNat_inj.1 backspace
    exact written_by_letter rfl rfl (by decide) rfl rfl
  by_cases feed : c.toNat = 12
  · obtain rfl : c = '\x0c' := Char.toNat_inj.1 feed
    exact written_by_letter rfl rfl (by decide) rfl rfl
  by_cases control : c.toNat < 32
  · refine .escaped _ ?_ (takes_number control)
    simp only [escapeChar, if_neg quote, if_neg backslash, if_neg newline, if_neg tab,
      if_neg return_, if_neg backspace, if_neg feed, if_pos control]
  · refine .plain ?_ (plain_of_unescaped quote backslash control)
    simp only [escapeChar, if_neg quote, if_neg backslash, if_neg newline, if_neg tab,
      if_neg return_, if_neg backspace, if_neg feed, if_neg control]

/-- The bytes of a string up to the quotation mark that ends it. -/
theorem takes_stringBytes (cs : List Char) (enough : (utf8 (cs.flatMap escapeChar)).length < fuel) :
    Takes (stringBytes fuel acc) (Next 34) (utf8 (cs.flatMap escapeChar))
      (acc.reverse ++ utf8 cs) := by
  induction cs generalizing fuel acc with
  | nil =>
    obtain ⟨fuel, rfl⟩ := Nat.exists_eq_add_of_lt enough
    refine takes_peek.looking ?_ fun _ next => next
    simp only [if_pos]
    have same : acc.reverse ++ utf8 [] = acc.reverse := List.append_nil _
    rw [same]
    exact .pure _
  | cons c cs ih =>
    have split : utf8 ((c :: cs).flatMap escapeChar) =
        utf8 (escapeChar c) ++ utf8 (cs.flatMap escapeChar) := by
      rw [List.flatMap_cons, utf8_append]
    have result : acc.reverse ++ utf8 (c :: cs) =
        ((String.utf8EncodeChar c).reverse ++ acc).reverse ++ utf8 cs := by
      rw [List.reverse_append, List.reverse_reverse, List.append_assoc, utf8_cons]
    rw [split, List.length_append] at enough
    rw [split, result]
    cases written c with
    | plain same plain =>
      have one : utf8 (escapeChar c) = String.utf8EncodeChar c := by
        rw [same]
        exact List.append_nil _
      rw [one] at enough ⊢
      obtain ⟨more, rfl⟩ := Nat.exists_eq_add_of_le' (Nat.le_of_lt (Nat.lt_of_le_of_lt
        (Nat.le_add_right _ _) enough))
      exact takes_plain plain (ih (by omega))
    | escaped tail slash takes =>
      have bytes : utf8 (escapeChar c) = 92 :: utf8 tail := by
        rw [slash]
        rfl
      rw [bytes, List.length_cons] at enough
      rw [bytes]
      obtain ⟨more, rfl⟩ := Nat.exists_eq_add_of_le' (show 1 ≤ fuel by omega)
      exact takes_escaped takes (ih (by omega))

/-- **Strings.** A string is read back from what is written for it. -/
theorem takes_string (s : String) : Takes string Anything (stringBody s ++ [34]) s := by
  refine .left fun n enough => ?_
  rw [List.length_append] at enough
  have read : Takes (stringBytes (n + 1) []) (Next 34) (stringBody s) (utf8 s.toList) :=
    takes_stringBytes s.toList (by unfold stringBody at enough; omega)
  refine read.bind ?_ fun _ _ => rfl
  have meant : Text.decode? (utf8 s.toList) = some s := Text.decode?_encode s
  rw [meant]
  exact (takes_advance 34).andThen (.pure s)

theorem reads_stringAs (expected : String) (s : String) :
    Reads (stringAs expected) (.string s) s := by
  refine ⟨?_, leads_string s⟩
  rw [bytes_string]
  refine (takes_opening (b := 34) (by decide)).looking ?_ fun _ _ => rfl
  simp only [if_pos]
  exact (takes_advance 34).andThen (takes_string s).anywhere

theorem reads_text (s : String) : Reads text (.string s) s := reads_stringAs "a string" s

/-- A string as any value. -/
theorem reads_value_string {room : Nat} (enough : 0 < room) (s : String) :
    Reads (value room) (.string s) (.string s) := by
  refine ⟨?_, leads_string s⟩
  obtain ⟨n, rfl⟩ := Nat.exists_eq_add_of_le' enough
  rw [bytes_string]
  refine (takes_token (b := 34) (by decide)).looking ?_ fun _ _ => rfl
  refine (takes_advance 34).andThen ((takes_string s).anywhere.finish (.pure _))

end Reader

end Vigil.Json

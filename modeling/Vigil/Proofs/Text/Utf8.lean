import Vigil.Text.Utf8

/-!
# UTF-8

A text is read back from its bytes (`decode?_encode`), also by a reader that refuses nothing
(`decodeLossy_encode`), because the bytes of a character are cut off from whatever follows them
(`continuation_utf8EncodeChar`). The bytes of a character outside ASCII are all outside ASCII, so a
byte of ASCII is a character by itself wherever it occurs.
-/

set_option autoImplicit false

namespace Vigil.Text

theorem toByteArray_eq (s : String) : ByteArray.mk (encode s).toArray = s.toByteArray := by
  have chars := String.toByteArray_ofList (l := s.toList)
  rw [String.ofList_toList] at chars
  rw [chars]
  exact ByteArray.ext List.data_toByteArray.symm

/-- **UTF-8.** A text is read back from its bytes. -/
theorem decode?_encode (s : String) : decode? (encode s) = some s := by
  unfold decode? String.fromUTF8?
  simp only [toByteArray_eq]
  rw [dif_pos s.isValidUTF8]
  rfl

theorem encode_ofList (cs : List Char) :
    encode (String.ofList cs) = cs.flatMap String.utf8EncodeChar := by
  unfold encode
  rw [String.toList_ofList]

/-- A character of ASCII is one byte. -/
theorem utf8EncodeChar_of_lt {c : Char} (ascii : c.toNat < 128) :
    String.utf8EncodeChar c = [UInt8.ofNat c.toNat] := by
  unfold String.utf8EncodeChar
  exact if_pos (Nat.le_of_lt_succ ascii)

/-- The bytes of any other character are outside ASCII. -/
theorem le_of_mem_utf8EncodeChar {c : Char} (other : 128 ≤ c.toNat) {b : UInt8}
    (mem : b ∈ String.utf8EncodeChar c) : 128 ≤ b.toNat := by
  have large : ∀ k n : Nat, 128 ≤ k → k + n < 256 → 128 ≤ (UInt8.ofNat (n + k)).toNat := by
    intro k n le lt
    rw [UInt8.toNat_ofNat_of_lt' (by simpa [UInt8.size] using (by omega : n + k < 256))]
    omega
  have not_le : ¬ c.val.toNat ≤ 0x7f := Nat.not_le.2 other
  unfold String.utf8EncodeChar at mem
  simp only [if_neg not_le] at mem
  split at mem
  · simp only [List.mem_cons, List.not_mem_nil, or_false] at mem
    rcases mem with rfl | rfl
    all_goals exact large _ _ (by omega) (by omega)
  · split at mem
    · simp only [List.mem_cons, List.not_mem_nil, or_false] at mem
      rcases mem with rfl | rfl | rfl
      all_goals exact large _ _ (by omega) (by omega)
    · simp only [List.mem_cons, List.not_mem_nil, or_false] at mem
      rcases mem with rfl | rfl | rfl | rfl
      all_goals exact large _ _ (by omega) (by omega)

/-! ## Reading without refusal -/

/-- The first byte of a character tells how many follow, and what the second one may be. -/
theorem following?_eq (b : UInt8) :
    following? b =
      if 0xC2 ≤ b.toNat ∧ b.toNat ≤ 0xDF then some (0x80, 0xBF, 0)
      else if 0xE0 ≤ b.toNat ∧ b.toNat ≤ 0xEF then
        some (if b.toNat = 0xE0 then 0xA0 else 0x80, if b.toNat = 0xED then 0x9F else 0xBF, 1)
      else if 0xF0 ≤ b.toNat ∧ b.toNat ≤ 0xF4 then
        some (if b.toNat = 0xF0 then 0x90 else 0x80, if b.toNat = 0xF4 then 0x8F else 0xBF, 2)
      else none := by
  have each : ∀ n : Fin 256, following? (UInt8.ofFin n) =
      if 0xC2 ≤ n.val ∧ n.val ≤ 0xDF then some (0x80, 0xBF, 0)
      else if 0xE0 ≤ n.val ∧ n.val ≤ 0xEF then
        some (if n.val = 0xE0 then 0xA0 else 0x80, if n.val = 0xED then 0x9F else 0xBF, 1)
      else if 0xF0 ≤ n.val ∧ n.val ≤ 0xF4 then
        some (if n.val = 0xF0 then 0x90 else 0x80, if n.val = 0xF4 then 0x8F else 0xBF, 2)
      else none := by decide +kernel
  exact each b.toFin

theorem between {low high : UInt8} {n : Nat} (lt : n < 256) (least : low.toNat ≤ n)
    (most : n ≤ high.toNat) : (low ≤ UInt8.ofNat n && UInt8.ofNat n ≤ high) = true := by
  have val : (UInt8.ofNat n).toNat = n := UInt8.toNat_ofNat_of_lt' lt
  rw [Bool.and_eq_true, decide_eq_true_eq, decide_eq_true_eq, UInt8.le_iff_toNat_le,
    UInt8.le_iff_toNat_le, val]
  exact ⟨least, most⟩

/-- The bytes of a character are cut off from whatever follows them. -/
theorem continuation_utf8EncodeChar {c : Char} {b : UInt8} {r : List UInt8}
    (bytes : String.utf8EncodeChar c = b :: r) (rest : List UInt8) :
    continuation b (r ++ rest) = r := by
  have valid : c.val.toNat < 0xD800 ∨ 0xDFFF < c.val.toNat ∧ c.val.toNat < 0x110000 := c.valid
  have further : ∀ n, (0x80 ≤ UInt8.ofNat (n % 64 + 128) && UInt8.ofNat (n % 64 + 128) ≤ 0xBF) =
      true := fun n => between (by omega) (by show 128 ≤ _; omega) (by show _ ≤ 191; omega)
  unfold String.utf8EncodeChar at bytes
  generalize c.val.toNat = v at valid bytes
  simp only at bytes
  unfold continuation
  rw [following?_eq]
  split at bytes
  · obtain ⟨rfl, rfl⟩ := List.cons.inj bytes
    have first : (UInt8.ofNat v).toNat = v := UInt8.toNat_ofNat_of_lt' (by show _ < 256; omega)
    rw [first, if_neg (by omega), if_neg (by omega), if_neg (by omega)]
  · split at bytes
    · obtain ⟨rfl, rfl⟩ := List.cons.inj bytes
      have first : (UInt8.ofNat (v / 64 % 32 + 192)).toNat = v / 64 % 32 + 192 :=
        UInt8.toNat_ofNat_of_lt' (by show _ < 256; omega)
      rw [first, if_pos (by omega)]
      simp only [List.cons_append, List.nil_append, further, if_true, List.take_zero,
        List.takeWhile_nil]
    · split at bytes
      · obtain ⟨rfl, rfl⟩ := List.cons.inj bytes
        have first : (UInt8.ofNat (v / 4096 % 16 + 224)).toNat = v / 4096 % 16 + 224 :=
          UInt8.toNat_ofNat_of_lt' (by show _ < 256; omega)
        rw [first, if_neg (by omega), if_pos (by omega)]
        simp only [List.cons_append, List.nil_append]
        rw [if_pos]
        · simp only [List.take_succ_cons, List.take_zero, List.takeWhile_cons, further, if_true,
            List.takeWhile_nil]
        · apply between (by omega)
          · split
            · show 160 ≤ _
              omega
            · show 128 ≤ _
              omega
          · split
            · show _ ≤ 159
              omega
            · show _ ≤ 191
              omega
      · obtain ⟨rfl, rfl⟩ := List.cons.inj bytes
        have first : (UInt8.ofNat (v / 262144 % 8 + 240)).toNat = v / 262144 % 8 + 240 :=
          UInt8.toNat_ofNat_of_lt' (by show _ < 256; omega)
        rw [first, if_neg (by omega), if_neg (by omega), if_pos (by omega)]
        simp only [List.cons_append, List.nil_append]
        rw [if_pos]
        · simp only [List.take_succ_cons, List.take_zero, List.takeWhile_cons, further, if_true,
            List.takeWhile_nil]
        · apply between (by omega)
          · split
            · show 144 ≤ _
              omega
            · show 128 ≤ _
              omega
          · split
            · show _ ≤ 143
              omega
            · show _ ≤ 191
              omega

theorem lossyChars_append (c : Char) (rest : List UInt8) :
    lossyChars (String.utf8EncodeChar c ++ rest) = c :: lossyChars rest := by
  have whole : encode (String.ofList [c]) = String.utf8EncodeChar c := by
    rw [encode_ofList, List.flatMap_singleton]
  cases bytes : String.utf8EncodeChar c with
  | nil => exact absurd bytes (by simp)
  | cons b r =>
    have here : leadingChar b (r ++ rest) = c := by
      unfold leadingChar
      rw [continuation_utf8EncodeChar bytes, ← bytes, ← whole, decode?_encode]
      simp
    rw [List.cons_append, lossyChars, here, continuation_utf8EncodeChar bytes,
      List.drop_left]

/-- **UTF-8 without refusal.** A text is read back from its bytes. -/
theorem decodeLossy_encode (s : String) : decodeLossy (encode s) = s := by
  have chars : ∀ cs : List Char, lossyChars (cs.flatMap String.utf8EncodeChar) = cs := by
    intro cs
    induction cs with
    | nil => rw [List.flatMap_nil, lossyChars]
    | cons c cs ih => rw [List.flatMap_cons, lossyChars_append, ih]
  unfold decodeLossy encode
  rw [chars, String.ofList_toList]

end Vigil.Text

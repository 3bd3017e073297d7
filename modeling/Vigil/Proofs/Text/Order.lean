import Vigil.Text.Utf8

/-!
# The order of texts

Texts are ordered by their characters, and in the same way by their bytes: UTF-8 keeps the order
(`encode_lt_encode`). Where two characters differ, the first of their bytes that differ tell which
one is larger (`precedes_units`).
-/

set_option autoImplicit false

namespace Vigil.Text

/-- The numbers that the bytes of a character stand for. -/
def units (v : Nat) : List Nat :=
  if v ≤ 0x7F then [v]
  else if v ≤ 0x7FF then [v / 64 % 32 + 192, v % 64 + 128]
  else if v ≤ 0xFFFF then [v / 4096 % 16 + 224, v / 64 % 64 + 128, v % 64 + 128]
  else [v / 262144 % 8 + 240, v / 4096 % 64 + 128, v / 64 % 64 + 128, v % 64 + 128]

theorem utf8EncodeChar_eq (c : Char) :
    String.utf8EncodeChar c = (units c.val.toNat).map UInt8.ofNat := by
  unfold String.utf8EncodeChar units
  simp only
  split
  · rfl
  · split
    · rfl
    · split
      · rfl
      · rfl

/-- The first numbers in which two lists differ, which both have, tell that one is smaller. -/
def Precedes : List Nat → List Nat → Prop
  | m :: ms, n :: ns => m < n ∨ m = n ∧ Precedes ms ns
  | _, _ => False

theorem Precedes.bytes {ms ns : List Nat} (precedes : Precedes ms ns) (small : ∀ n ∈ ms, n < 256)
    (small' : ∀ n ∈ ns, n < 256) (xs ys : List UInt8) :
    ms.map UInt8.ofNat ++ xs < ns.map UInt8.ofNat ++ ys := by
  induction ms generalizing ns with
  | nil => exact precedes.elim
  | cons m ms ih =>
    cases ns with
    | nil => exact precedes.elim
    | cons n ns =>
      have val : (UInt8.ofNat m).toNat = m :=
        UInt8.toNat_ofNat_of_lt' (small m List.mem_cons_self)
      have val' : (UInt8.ofNat n).toNat = n :=
        UInt8.toNat_ofNat_of_lt' (small' n List.mem_cons_self)
      rw [List.map_cons, List.map_cons, List.cons_append, List.cons_append, List.cons_lt_cons_iff,
        UInt8.lt_iff_toNat_lt, val, val']
      rcases precedes with lt | ⟨rfl, later⟩
      · exact .inl lt
      · exact .inr ⟨rfl, ih later (fun n mem => small n (List.mem_cons_of_mem _ mem))
          fun n mem => small' n (List.mem_cons_of_mem _ mem)⟩

theorem units_lt {v : Nat} : ∀ n ∈ units v, n < 256 := by
  unfold units
  intro n mem
  split at mem
  · simp only [List.mem_singleton] at mem
    omega
  · split at mem
    · simp only [List.mem_cons, List.not_mem_nil, or_false] at mem
      omega
    · split at mem
      · simp only [List.mem_cons, List.not_mem_nil, or_false] at mem
        omega
      · simp only [List.mem_cons, List.not_mem_nil, or_false] at mem
        omega

theorem precedes_units {v w : Nat} (lt : v < w) (valid : w < 0x110000) :
    Precedes (units v) (units w) := by
  unfold units
  split
  · split
    · exact .inl lt
    · split
      · exact .inl (by omega)
      · split
        · exact .inl (by omega)
        · exact .inl (by omega)
  · rw [if_neg (show ¬ w ≤ 0x7F by omega)]
    split
    · split
      · simp only [Precedes]
        omega
      · split
        · exact .inl (by omega)
        · exact .inl (by omega)
    · rw [if_neg (show ¬ w ≤ 0x7FF by omega)]
      split
      · split
        · simp only [Precedes]
          omega
        · exact .inl (by omega)
      · have sixes : ∀ n, n / 4096 = n / 64 / 64 ∧ n / 262144 = n / 64 / 64 / 64 := by omega
        rw [if_neg (show ¬ w ≤ 0xFFFF by omega)]
        simp only [Precedes, (sixes v).1, (sixes v).2, (sixes w).1, (sixes w).2]
        omega

/-- The bytes of a larger character are larger, whatever follows. -/
theorem utf8EncodeChar_lt {c d : Char} (lt : c < d) (xs ys : List UInt8) :
    String.utf8EncodeChar c ++ xs < String.utf8EncodeChar d ++ ys := by
  have valid : d.val.toNat < 0xD800 ∨ 0xDFFF < d.val.toNat ∧ d.val.toNat < 0x110000 := d.valid
  have bound : d.val.toNat < 0x110000 := by omega
  rw [utf8EncodeChar_eq, utf8EncodeChar_eq]
  exact (precedes_units lt bound).bytes units_lt units_lt xs ys

/-- **UTF-8 keeps the order** of texts. -/
theorem encode_lt_encode {s t : String} (lt : s < t) : encode s < encode t := by
  have chars : ∀ {cs ds : List Char}, List.Lex (· < ·) cs ds →
      cs.flatMap String.utf8EncodeChar < ds.flatMap String.utf8EncodeChar := by
    intro cs ds lt
    induction lt with
    | @nil d ds =>
      rw [List.flatMap_nil, List.flatMap_cons]
      cases bytes : String.utf8EncodeChar d with
      | nil => exact absurd bytes (by simp)
      | cons b bs => exact List.nil_lt_cons _ _
    | cons _ ih => exact List.append_left_lt ih
    | rel lt => exact utf8EncodeChar_lt lt _ _
  exact chars (String.lt_iff.1 lt)

end Vigil.Text

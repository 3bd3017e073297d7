import Mathlib.Data.List.Basic
import Vigil.Proofs.Text.Utf8
import Vigil.Proofs.Url.Fragment

/-!
# Percent-encoding read back

A triple is read as the byte that it was written for (`decode_triple`), and any byte but the
percent sign is read as itself (`decode_cons`). What has been encoded for a place in a URL stands
there for itself, so it is not encoded again (`stands_of_mem_encode`).
-/

set_option autoImplicit false

namespace Vigil

/-- All bytes, one by one. -/
theorem forall_byte {P : UInt8 → Prop} (each : ∀ n < 256, P (UInt8.ofNat n)) (b : UInt8) :
    P b := by
  have here := each b.toNat b.toNat_lt
  rwa [UInt8.ofNat_toNat] at here

/-- All characters that are written for bytes, byte by byte. -/
theorem forall_written (write : UInt8 → List Char) (p : Char → Bool)
    (each : ∀ n < 256, (write (UInt8.ofNat n)).all p = true) {b : UInt8} {c : Char}
    (mem : c ∈ write b) : p c = true :=
  List.all_eq_true.1 (forall_byte (P := fun b => (write b).all p = true) each b) c mem

namespace Percent

theorem hexValue?_hexDigit {n : Nat} (digit : n < 16) :
    hexValue? (UInt8.ofNat (hexDigit n).toNat) = some (UInt8.ofNat n) := by
  have each : ∀ n < 16,
      hexValue? (UInt8.ofNat (hexDigit n).toNat) = some (UInt8.ofNat n) := by decide
  exact each n digit

theorem hexDigit_lt {n : Nat} (digit : n < 16) : (hexDigit n).toNat < 128 := by
  have each : ∀ n < 16, (hexDigit n).toNat < 128 := by decide
  exact each n digit

/-- The bytes of a triple. -/
theorem bytes_triple (b : UInt8) :
    (triple b).flatMap String.utf8EncodeChar =
      [37, UInt8.ofNat (hexDigit (b.toNat / 16)).toNat,
        UInt8.ofNat (hexDigit (b.toNat % 16)).toNat] := by
  have upper : b.toNat / 16 < 16 := by have := b.toNat_lt; omega
  have lower : b.toNat % 16 < 16 := Nat.mod_lt _ (by omega)
  simp only [triple, List.flatMap_cons, List.flatMap_nil,
    Text.utf8EncodeChar_of_lt (hexDigit_lt upper), Text.utf8EncodeChar_of_lt (hexDigit_lt lower)]
  rfl

/-- A triple is read as the byte it was written for. -/
theorem decode_triple (b : UInt8) (rest : List UInt8) :
    decode ((triple b).flatMap String.utf8EncodeChar ++ rest) = b :: decode rest := by
  have upper : b.toNat / 16 < 16 := by have := b.toNat_lt; omega
  have lower : b.toNat % 16 < 16 := Nat.mod_lt _ (by omega)
  have worth : UInt8.ofNat (b.toNat / 16) * 16 + UInt8.ofNat (b.toNat % 16) = b :=
    forall_byte (P := fun b => UInt8.ofNat (b.toNat / 16) * 16 + UInt8.ofNat (b.toNat % 16) = b)
      (by decide +kernel) b
  rw [bytes_triple, List.cons_append, List.cons_append, List.cons_append, List.nil_append, decode,
    hexValue?_hexDigit upper, hexValue?_hexDigit lower]
  simp only [worth]

/-- Any byte but the percent sign is read as itself. -/
theorem decode_cons {b : UInt8} (ne : b ≠ 37) (rest : List UInt8) :
    decode (b :: rest) = b :: decode rest := by
  rw [decode]
  rintro first second r rfl
  exact absurd rfl ne

/-- What has been encoded for a query of the web stands there for itself. -/
theorem stands_of_mem_encode {text : List Char} {c : Char} (mem : c ∈ encode .webQuery text) :
    StandsIn .webQuery c := by
  obtain ⟨b, -, written⟩ := List.mem_flatMap.1 mem
  have stands := forall_written (encodeByte .webQuery)
    (fun c => decide (StandsIn .webQuery c)) (by decide +kernel) written
  exact of_decide_eq_true stands

/-- What has been encoded for a path does not hold the mark that ends that part of a URL. -/
theorem ne_of_mem_encode {text : List Char} {c : Char} (mem : c ∈ encode .path text) :
    c ≠ '?' := by
  obtain ⟨b, -, written⟩ := List.mem_flatMap.1 mem
  have other := forall_written (encodeByte .path) (fun c => c != '?') (by decide +kernel)
    written
  exact bne_iff_ne.1 other

end Percent

end Vigil

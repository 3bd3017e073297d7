import Vigil.Proofs.Url.Percent
import Vigil.Url.Query

/-!
# Queries as forms

A server reads a query as a form, byte by byte: pairs are parted by `&`, the first `=` of a pair
ends its key, a plus sign is a space, percent-encoding is undone, and what is no UTF-8 is
replaced. `Form.read` says so without regard to how queries are written, and the pairs of a query
are what it reads (`Form.read_bytes`). What is written for a key or a value is read as that key or
that value, whatever its characters (`Query.decode_encode`).
-/

set_option autoImplicit false

namespace Vigil

namespace Form

/-- What a part of a form stands for. -/
def text (part : List UInt8) : String :=
  Text.decodeLossy (Percent.decode (part.map Query.plusToSpace))

/-- The key and the value in a piece of a form; without `=` the value is empty. -/
def pair (piece : List UInt8) : String × String :=
  (text (piece.takeWhile (· != 61)), text ((piece.dropWhile (· != 61)).drop 1))

/-- The pairs in a form; empty pieces are none. -/
def read (form : List UInt8) : List (String × String) :=
  ((form.splitOn 38).filter fun piece => !piece.isEmpty).map pair

end Form

namespace Text

/-- A byte of ASCII occurs in the bytes of no other character. -/
theorem ne_of_mem_utf8EncodeChar {c d : Char} (ascii : d.toNat < 128) (ne : c ≠ d) {b : UInt8}
    (mem : b ∈ String.utf8EncodeChar c) : b ≠ UInt8.ofNat d.toNat := by
  rintro rfl
  have val : (UInt8.ofNat d.toNat).toNat = d.toNat :=
    UInt8.toNat_ofNat_of_lt' (by show _ < 256; omega)
  by_cases small : c.toNat < 128
  · rw [utf8EncodeChar_of_lt small, List.mem_singleton] at mem
    have same := congrArg UInt8.toNat mem
    rw [val, UInt8.toNat_ofNat_of_lt' (by show _ < 256; omega)] at same
    exact ne (Char.toNat_inj.1 same.symm)
  · have large := le_of_mem_utf8EncodeChar (Nat.le_of_not_lt small) mem
    omega

section Separators

variable {d : Char} (ascii : d.toNat < 128)

include ascii

/-- Up to a character of ASCII, and up to its byte. -/
theorem takeWhile_bytes (cs : List Char) :
    (cs.flatMap String.utf8EncodeChar).takeWhile (· != UInt8.ofNat d.toNat) =
      (cs.takeWhile (· != d)).flatMap String.utf8EncodeChar := by
  induction cs with
  | nil => rfl
  | cons c cs ih =>
    by_cases same : c = d
    · subst same
      rw [List.flatMap_cons, utf8EncodeChar_of_lt ascii]
      simp
    · have before : ∀ b ∈ String.utf8EncodeChar c, (b != UInt8.ofNat d.toNat) = true := fun b mem =>
        bne_iff_ne.2 (ne_of_mem_utf8EncodeChar ascii same mem)
      have other : (c != d) = true := bne_iff_ne.2 same
      rw [List.flatMap_cons, List.takeWhile_append_of_pos before, ih, List.takeWhile_cons,
        if_pos other, List.flatMap_cons]

/-- From a character of ASCII on, and from its byte on. -/
theorem dropWhile_bytes (cs : List Char) :
    ((cs.flatMap String.utf8EncodeChar).dropWhile (· != UInt8.ofNat d.toNat)).drop 1 =
      ((cs.dropWhile (· != d)).drop 1).flatMap String.utf8EncodeChar := by
  induction cs with
  | nil => rfl
  | cons c cs ih =>
    by_cases same : c = d
    · subst same
      rw [List.flatMap_cons, utf8EncodeChar_of_lt ascii]
      simp
    · have before : ∀ b ∈ String.utf8EncodeChar c, (b != UInt8.ofNat d.toNat) = true := fun b mem =>
        bne_iff_ne.2 (ne_of_mem_utf8EncodeChar ascii same mem)
      have other : (c != d) = true := bne_iff_ne.2 same
      rw [List.flatMap_cons, List.dropWhile_append_of_pos before, ih, List.dropWhile_cons,
        if_pos other]

/-- Cut at a character of ASCII, and at its byte. -/
theorem splitOn_bytes (cs : List Char) :
    (cs.flatMap String.utf8EncodeChar).splitOn (UInt8.ofNat d.toNat) =
      (cs.splitOn d).map (·.flatMap String.utf8EncodeChar) := by
  have skip : ∀ bytes : List UInt8, (∀ b ∈ bytes, b ≠ UInt8.ofNat d.toNat) → ∀ rest,
      (bytes ++ rest).splitOn (UInt8.ofNat d.toNat) =
        (rest.splitOn (UInt8.ofNat d.toNat)).modifyHead (bytes ++ ·) := by
    intro bytes others rest
    induction bytes with
    | nil => exact (congrFun List.modifyHead_id _).symm
    | cons b bytes ih =>
      have other := others b List.mem_cons_self
      rw [List.cons_append, List.splitOn_cons_eq_if_modifyHead, if_neg (by simpa using other),
        ih fun b mem => others b (List.mem_cons_of_mem _ mem), List.modifyHead_modifyHead]
      rfl
  induction cs with
  | nil => rfl
  | cons c cs ih =>
    by_cases same : c = d
    · subst same
      rw [List.flatMap_cons, utf8EncodeChar_of_lt ascii, List.singleton_append,
        List.splitOn_cons_eq_if_modifyHead, if_pos (beq_self_eq_true _), ih,
        List.splitOn_cons_eq_if_modifyHead, if_pos (beq_self_eq_true _)]
      rfl
    · rw [List.flatMap_cons, skip _ fun b mem => ne_of_mem_utf8EncodeChar ascii same mem, ih,
        List.splitOn_cons_eq_if_modifyHead, if_neg (by simpa using same)]
      cases cs.splitOn d with
      | nil => rfl
      | cons piece pieces => rfl

end Separators

end Text

namespace Query

/-- A query is cut at every `&`. -/
theorem cut_eq (query : List Char) : cut query = query.splitOn '&' := by
  induction query with
  | nil => rfl
  | cons c query ih =>
    rw [cut, List.splitOn_cons_eq_if_modifyHead, ih]
    by_cases here : c = '&'
    · rw [if_pos here, if_pos (by simpa using here)]
    · rw [if_neg here, if_neg (by simpa using here)]
      cases pieces : query.splitOn '&' with
      | nil => exact absurd pieces (List.splitOn_ne_nil _ _)
      | cons piece pieces => rfl

end Query

/-- **Queries as forms.** The pairs of a query are what is read from its bytes. -/
theorem Form.read_bytes (query : List Char) :
    read (query.flatMap String.utf8EncodeChar) = Query.pairs query := by
  have amp : (38 : UInt8) = UInt8.ofNat '&'.toNat := rfl
  have eq : (61 : UInt8) = UInt8.ofNat '='.toNat := rfl
  have bare : ∀ piece : List Char,
      (piece.flatMap String.utf8EncodeChar).isEmpty = piece.isEmpty := by
    rintro (_ | ⟨c, piece⟩)
    · rfl
    · simp
  have same : ∀ piece : List Char, pair (piece.flatMap String.utf8EncodeChar) =
      (Query.keyOf piece, Query.valueOf piece) := by
    intro piece
    unfold pair
    rw [eq, Text.takeWhile_bytes (by decide), Text.dropWhile_bytes (by decide)]
    rfl
  unfold read Query.pairs Query.written
  rw [amp, Text.splitOn_bytes (by decide), Query.cut_eq, List.filter_map, List.map_map]
  simp only [Function.comp_def, bare, same]

namespace Query

/-! ## What is written for a key or a value -/

/-- A plain byte is a character of its own, and not one that is read as another. -/
theorem bytes_of_isPlain {b : UInt8} (plain : isPlain b = true) :
    String.utf8EncodeChar (Char.ofNat b.toNat) = [b] ∧ b ≠ 37 ∧ b ≠ 43 :=
  forall_byte (P := fun b => isPlain b = true →
    String.utf8EncodeChar (Char.ofNat b.toNat) = [b] ∧ b ≠ 37 ∧ b ≠ 43) (by decide +kernel) b plain

/-- No byte of a triple is a plus sign. -/
theorem plusToSpace_triple (b : UInt8) :
    ((Percent.triple b).flatMap String.utf8EncodeChar).map plusToSpace =
      (Percent.triple b).flatMap String.utf8EncodeChar :=
  forall_byte (P := fun b => ((Percent.triple b).flatMap String.utf8EncodeChar).map plusToSpace =
    (Percent.triple b).flatMap String.utf8EncodeChar) (by decide +kernel) b

/-- What is written for a byte is read as that byte. -/
theorem decode_encodeByte (b : UInt8) (rest : List UInt8) :
    Percent.decode (((encodeByte b).flatMap String.utf8EncodeChar).map plusToSpace ++ rest) =
      b :: Percent.decode rest := by
  unfold encodeByte
  split
  · next space =>
    subst space
    exact Percent.decode_cons (by decide) rest
  · split
    · next plain =>
      obtain ⟨bytes, percent, plus⟩ := bytes_of_isPlain plain
      have kept : plusToSpace b = b := if_neg plus
      rw [List.flatMap_singleton, bytes, List.map_singleton, kept, List.singleton_append,
        Percent.decode_cons percent]
    · rw [plusToSpace_triple, Percent.decode_triple]

/-- **Keys and values.** What is written for a text is read as that text. -/
theorem decode_encode (text : String) : decode (encode text) = text := by
  have bytes : ∀ bs : List UInt8,
      Percent.decode (((bs.flatMap encodeByte).flatMap String.utf8EncodeChar).map plusToSpace) =
        bs := by
    intro bs
    induction bs with
    | nil => rfl
    | cons b bs ih =>
      rw [List.flatMap_cons, List.flatMap_append, List.map_append, decode_encodeByte, ih]
  unfold decode encode
  rw [bytes, Text.decodeLossy_encode]

/-- What is written for a text stands for itself in a query and parts no pairs. -/
theorem stands_of_mem_encode {text : String} {c : Char} (mem : c ∈ encode text) :
    Percent.StandsIn .webQuery c ∧ c ≠ '&' ∧ c ≠ '=' := by
  obtain ⟨b, -, written⟩ := List.mem_flatMap.1 mem
  have stands := forall_written encodeByte
    (fun c => decide (Percent.StandsIn .webQuery c ∧ c ≠ '&' ∧ c ≠ '=')) (by decide +kernel)
    written
  exact of_decide_eq_true stands

theorem stands_of_mem_encodePair {key value : String} {c : Char}
    (mem : c ∈ encodePair key value) : Percent.StandsIn .webQuery c ∧ c ≠ '&' := by
  have mark : Percent.StandsIn .webQuery '=' := by decide
  rcases List.mem_append.1 mem with mem | mem
  · exact ⟨(stands_of_mem_encode mem).1, (stands_of_mem_encode mem).2.1⟩
  · rcases List.mem_cons.1 mem with rfl | mem
    · exact ⟨mark, by decide⟩
    · exact ⟨(stands_of_mem_encode mem).1, (stands_of_mem_encode mem).2.1⟩

/-- What is written for a pair is read as that pair. -/
theorem pair_encodePair (key value : String) :
    (keyOf (encodePair key value), valueOf (encodePair key value)) = (key, value) := by
  have inside : ∀ c ∈ encode key, (c != '=') = true := fun c mem =>
    bne_iff_ne.2 (stands_of_mem_encode mem).2.2
  unfold keyOf valueOf encodePair
  rw [List.takeWhile_append_of_pos inside, List.dropWhile_append_of_pos inside,
    List.takeWhile_cons_of_neg (by decide), List.append_nil, List.dropWhile_cons_of_neg (by decide),
    List.drop_one, List.tail_cons, decode_encode, decode_encode]

end Query

end Vigil

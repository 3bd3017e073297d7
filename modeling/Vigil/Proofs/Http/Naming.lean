import Vigil.Http.Header
import Vigil.Response

/-!
# Headers by their names

Names of headers are compared without regard to the case of letters. What a message says under a
name are the values of all its headers with that name, in order (`Header.under`). Names are kept in
lower case, so that names that are the same are spelled the same (`sameName_iff_lowerName_eq`).
-/

set_option autoImplicit false

namespace Vigil

variable {a b : String}

theorem toLower_toLower (c : Char) : c.toLower.toLower = c.toLower := by
  by_cases upper : c.val ≥ 'A'.val ∧ c.val ≤ 'Z'.val
  · have lower : c.toLower.val = c.val + 32 := by
      unfold Char.toLower
      rw [dif_pos upper]
      rfl
    have small : ¬ (c.toLower.val ≥ 'A'.val ∧ c.toLower.val ≤ 'Z'.val) := by
      rw [lower]
      simp only [ge_iff_le, UInt32.le_iff_toNat_le, UInt32.toNat_add] at upper ⊢
      have letters : 'A'.val.toNat = 65 ∧ 'Z'.val.toNat = 90 ∧ (32 : UInt32).toNat = 32 := by decide
      omega
    rw [Char.toLower.eq_def c.toLower, dif_neg small]
  · have same : c.toLower = c := by
      unfold Char.toLower
      rw [dif_neg upper]
    rw [same, same]

theorem sameName_iff :
    sameName a b = true ↔ a.toList.map Char.toLower = b.toList.map Char.toLower :=
  beq_iff_eq

/-- Names that are the same are the same as the same names. -/
theorem sameName_congr_right (same : sameName a b = true) (c : String) :
    sameName c a = sameName c b := by
  unfold sameName
  rw [sameName_iff.1 same]

/-- A name and the same name in lower case cannot be told apart. -/
theorem sameName_lowerName (a b : String) : sameName (Header.lowerName a) b = sameName a b := by
  have lower : (Header.lowerName a).toList.map Char.toLower = a.toList.map Char.toLower := by
    unfold Header.lowerName
    rw [String.toList_ofList, List.map_map]
    exact List.map_congr_left fun c _ => toLower_toLower c
  unfold sameName
  rw [lower]

/-- Names that are the same are spelled the same in lower case. -/
theorem sameName_iff_lowerName_eq :
    sameName a b = true ↔ Header.lowerName a = Header.lowerName b := by
  rw [sameName_iff]
  constructor
  · exact congrArg String.ofList
  · intro eq
    have chars := congrArg String.toList eq
    rwa [Header.lowerName, Header.lowerName, String.toList_ofList, String.toList_ofList] at chars

namespace Header

theorem lowerName_lowerName (s : String) : lowerName (lowerName s) = lowerName s :=
  sameName_iff_lowerName_eq.1 ((sameName_lowerName s s).trans (sameName_iff.2 rfl))

/-- What some headers say under a name: the values of those with that name, in order. -/
def under (name : String) (headers : List Header) : List String :=
  (headers.filter fun h => sameName h.name name).map (·.value)

variable {name : String} {hs : List Header}

theorem under_cons (name : String) (h : Header) (hs : List Header) :
    under name (h :: hs) = if sameName h.name name then h.value :: under name hs
      else under name hs := by
  unfold under
  rw [List.filter_cons]
  split <;> rfl

theorem under_append (name : String) (hs gs : List Header) :
    under name (hs ++ gs) = under name hs ++ under name gs := by
  unfold under
  rw [List.filter_append, List.map_append]

theorem mem_under_iff {name value : String} {hs : List Header} :
    value ∈ under name hs ↔ ∃ h ∈ hs, sameName h.name name = true ∧ h.value = value := by
  unfold under
  simp only [List.mem_map, List.mem_filter, and_assoc]

theorem under_congr {other : String} (same : sameName name other = true) (hs : List Header) :
    under name hs = under other hs := by
  unfold under
  simp only [sameName_congr_right same]

/-- Leaving out headers with other names changes nothing. -/
theorem under_filter {keep : Header → Bool}
    (kept : ∀ h ∈ hs, sameName h.name name = true → keep h = true) :
    under name (hs.filter keep) = under name hs := by
  unfold under
  rw [List.filter_filter]
  apply congrArg
  apply List.filter_congr
  intro h mem
  cases same : sameName h.name name with
  | false => rfl
  | true => rw [kept h mem same]; rfl

/-- Nothing is left under a name if all headers with it are left out. -/
theorem under_filter_none {keep : Header → Bool}
    (gone : ∀ h ∈ hs, sameName h.name name = true → keep h = false) :
    under name (hs.filter keep) = [] := by
  refine List.eq_nil_iff_forall_not_mem.2 fun value said => ?_
  obtain ⟨h, mem, same, -⟩ := mem_under_iff.1 said
  obtain ⟨mem, keeps⟩ := List.mem_filter.1 mem
  rw [gone h mem same] at keeps
  cases keeps

/-- Headers made of names and values say what is given under these names. -/
theorem under_map_lowerName (name : String) (pairs : List (String × String)) :
    under name (pairs.map fun p => ⟨lowerName p.1, p.2⟩) =
      (pairs.filter fun p => sameName p.1 name).map (·.2) := by
  unfold under
  rw [List.filter_map, List.map_map]
  apply congrArg
  apply List.filter_congr
  intro p _
  exact sameName_lowerName p.1 name

end Header

end Vigil

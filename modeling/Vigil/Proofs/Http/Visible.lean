import Mathlib.Data.List.DropRight
import Mathlib.Data.List.TakeWhile
import Vigil.Http.Server
import Vigil.Proofs.Http.Naming
import Vigil.Proofs.Text.Utf8

/-!
# Header values that can be shown

The value of a header is what its bytes hold between blanks (`Answer.Holds`), and there is one such
value (`Holds.trim_eq`). It is kept as a text if all of it is visible (`visibleText?_eq_some_iff`).
What a response says under a name is the first value that an answer shows under it, whatever else
comes before, between and behind (`header?_response_eq_some_iff`, `header?_response_eq_none_iff`);
but it says nothing under the two names that are left out when a coding is undone (`leavesOut_iff`).
-/

set_option autoImplicit false

namespace Vigil

namespace Answer

variable {bytes core : List UInt8} {a : Answer} {name text : String} {h : String × List UInt8}

/-- Bytes hold a value: there are blanks around it, and it neither begins nor ends with one. -/
structure Holds (bytes core : List UInt8) : Prop where
  around : ∃ before after, bytes = before ++ core ++ after ∧
    (∀ b ∈ before, isBlank b = true) ∧ ∀ b ∈ after, isBlank b = true
  front : ∀ b ∈ core.head?, isBlank b = false
  back : ∀ b ∈ core.getLast?, isBlank b = false

/-- An answer comes in a coding that is undone: a header about that has the name of the coding as
its value, and the first one about the length of the body does not say that there is none. -/
structure IsEncoded (a : Answer) : Prop where
  told : ∃ h ∈ a.headers, (∃ n ∈ Coding.tellingHeaders, sameName h.1 n = true) ∧
    ∃ c : Coding, Holds h.2 (Text.encode c.name)
  notEmpty : ∀ before h after, a.headers = before ++ h :: after →
    sameName h.1 Coding.lengthHeader = true →
    (∀ e ∈ before, sameName e.1 Coding.lengthHeader = false) → ¬ Holds h.2 (Text.encode "0")

/-- A header shows a text under a name: its name is that one up to the case of letters, and its
value is the text, all of it visible characters of ASCII, spaces and tabs. -/
structure Shows (name : String) (h : String × List UInt8) (text : String) : Prop where
  named : sameName h.1 name = true
  holds : Holds h.2 (Text.encode text)
  visible : ∀ c ∈ text.toList, c = '\t' ∨ (32 ≤ c.toNat ∧ c.toNat < 127)

/-- The first text that an answer shows under a name. -/
def ShowsFirst (a : Answer) (name text : String) : Prop :=
  ∃ before h after, a.headers = before ++ h :: after ∧ Shows name h text ∧
    ∀ e ∈ before, ∀ other, ¬ Shows name e other

/-- An answer shows nothing under a name. -/
def ShowsNone (a : Answer) (name : String) : Prop :=
  ∀ h ∈ a.headers, ∀ text, ¬ Shows name h text

/-! ## Blanks around a value -/

theorem trim_eq (bytes : List UInt8) :
    trim bytes = (bytes.dropWhile isBlank).rdropWhile isBlank := rfl

theorem not_blank_of_head_dropWhile {b : UInt8} (mem : b ∈ (bytes.dropWhile isBlank).head?) :
    isBlank b = false := by
  have first := List.head?_dropWhile_not isBlank bytes
  rw [Option.mem_def.1 mem] at first
  exact first

/-- Bytes hold what is left of them without the blanks at their ends. -/
theorem holds_trim (bytes : List UInt8) : Holds bytes (trim bytes) := by
  rw [trim_eq]
  constructor
  case around =>
    refine ⟨bytes.takeWhile isBlank, (bytes.dropWhile isBlank).rtakeWhile isBlank, ?_, ?_, ?_⟩
    · rw [List.append_assoc, List.rdropWhile_append_rtakeWhile, List.takeWhile_append_dropWhile]
    · exact fun b mem => List.mem_takeWhile_imp mem
    · exact fun b mem => List.mem_rtakeWhile_imp mem
  case front =>
    intro b mem
    obtain ⟨rest, eq⟩ := List.rdropWhile_prefix isBlank (bytes.dropWhile isBlank)
    refine not_blank_of_head_dropWhile (?_ : b ∈ (bytes.dropWhile isBlank).head?)
    rw [← eq, List.head?_append, Option.mem_def.1 mem]
    rfl
  case back =>
    intro b mem
    obtain ⟨nonempty, rfl⟩ := List.mem_getLast?_eq_getLast mem
    exact Bool.eq_false_iff.2 (List.rdropWhile_last_not isBlank _ nonempty)

/-- Nothing else is held by them. -/
theorem Holds.trim_eq (holds : Holds bytes core) : trim bytes = core := by
  obtain ⟨before, after, rfl, blank, blank'⟩ := holds.around
  have turned : ∀ b ∈ after.reverse, isBlank b = true := fun b mem =>
    blank' b (List.mem_reverse.1 mem)
  have solid : core.rdropWhile isBlank = core := by
    refine List.rdropWhile_eq_self_iff.2 fun nonempty => ?_
    rw [holds.back _ (List.getLast_mem_getLast? nonempty)]
    exact Bool.false_ne_true
  rw [Answer.trim_eq, List.append_assoc, List.dropWhile_append_of_pos blank]
  cases core with
  | nil =>
    have gone : after.dropWhile isBlank = [] := List.dropWhile_eq_nil_iff.2 blank'
    rw [List.nil_append, gone, List.rdropWhile_nil]
  | cons b core =>
    have first : ¬ isBlank b = true := Bool.eq_false_iff.1 (holds.front b rfl)
    rw [List.cons_append, List.dropWhile_cons_of_neg first, ← List.cons_append, List.rdropWhile,
      List.reverse_append, List.dropWhile_append_of_pos turned]
    exact solid

theorem holds_iff : Holds bytes core ↔ trim bytes = core := by
  constructor
  · exact Holds.trim_eq
  · rintro rfl
    exact holds_trim bytes

/-! ## Values as texts -/

theorem isVisible_iff {b : UInt8} :
    isVisible b = true ↔ b = 9 ∨ (32 ≤ b.toNat ∧ b.toNat < 127) := by
  simp only [isVisible, Bool.or_eq_true, Bool.and_eq_true, decide_eq_true_eq, UInt8.le_iff_toNat_le,
    UInt8.lt_iff_toNat_lt]
  rfl

/-- The character of a byte has its number. -/
theorem toNat_char (b : UInt8) : (Char.ofNat b.toNat).toNat = b.toNat := by
  have small := b.toNat_lt
  have valid : b.toNat.isValidChar := .inl (by omega)
  rw [Char.ofNat, dif_pos valid]
  rfl

/-- A visible byte is the only one of its character. -/
theorem utf8EncodeChar_of_isVisible {b : UInt8} (visible : isVisible b = true) :
    String.utf8EncodeChar (Char.ofNat b.toNat) = [b] := by
  have small : b.toNat < 128 := by
    rcases isVisible_iff.1 visible with rfl | ⟨-, lt⟩
    · decide
    · omega
  rw [Text.utf8EncodeChar_of_lt (by rw [toNat_char]; exact small), toNat_char, UInt8.ofNat_toNat]

/-- The text of visible bytes has these bytes. -/
theorem encode_of_isVisible (visible : ∀ b ∈ bytes, isVisible b = true) :
    Text.encode (String.ofList (bytes.map fun b => Char.ofNat b.toNat)) = bytes := by
  rw [Text.encode_ofList, List.flatMap_map]
  induction bytes with
  | nil => rfl
  | cons b bytes ih =>
    rw [List.flatMap_cons, utf8EncodeChar_of_isVisible (visible b List.mem_cons_self),
      ih fun b mem => visible b (List.mem_cons_of_mem _ mem), List.singleton_append]

/-- Visible characters have visible bytes, one each. -/
theorem bytes_of_visible {cs : List Char}
    (visible : ∀ c ∈ cs, c = '\t' ∨ (32 ≤ c.toNat ∧ c.toNat < 127)) :
    (cs.flatMap String.utf8EncodeChar).all isVisible = true ∧
      (cs.flatMap String.utf8EncodeChar).map (fun b => Char.ofNat b.toNat) = cs := by
  induction cs with
  | nil => exact ⟨rfl, rfl⟩
  | cons c cs ih =>
    obtain ⟨others, back⟩ := ih fun c mem => visible c (List.mem_cons_of_mem _ mem)
    have here := visible c List.mem_cons_self
    have small : c.toNat < 128 := by
      rcases here with rfl | ⟨-, lt⟩
      · decide
      · omega
    have code : (UInt8.ofNat c.toNat).toNat = c.toNat := by
      rw [UInt8.toNat_ofNat']
      omega
    have shows : isVisible (UInt8.ofNat c.toNat) = true := by
      rw [isVisible_iff, code]
      rcases here with rfl | range
      · exact .inl rfl
      · exact .inr range
    rw [List.flatMap_cons, Text.utf8EncodeChar_of_lt small, List.singleton_append, List.all_cons,
      List.map_cons, code, Char.ofNat_toNat, back, shows, others]
    exact ⟨rfl, rfl⟩

/-- **Values.** The text that is kept of a value is the one that its bytes hold, if all of it is
visible. -/
theorem visibleText?_eq_some_iff :
    visibleText? bytes = some text ↔ Holds bytes (Text.encode text) ∧
      ∀ c ∈ text.toList, c = '\t' ∨ (32 ≤ c.toNat ∧ c.toNat < 127) := by
  unfold visibleText?
  constructor
  · intro kept
    split at kept
    · next visible =>
      have each := List.all_eq_true.1 visible
      obtain rfl := Option.some.inj kept
      rw [encode_of_isVisible each]
      refine ⟨holds_trim bytes, fun c mem => ?_⟩
      rw [String.toList_ofList] at mem
      obtain ⟨b, listed, rfl⟩ := List.mem_map.1 mem
      rcases isVisible_iff.1 (each b listed) with rfl | range
      · exact .inl rfl
      · rw [toNat_char]
        exact .inr range
    · cases kept
  · rintro ⟨holds, visible⟩
    obtain ⟨shows, back⟩ := bytes_of_visible visible
    rw [holds.trim_eq, Text.encode, if_pos shows, back, String.ofList_toList]

/-! ## Under a name -/

/-- What a header says under a name, if that can be shown. -/
def under? (name : String) (h : String × List UInt8) : Option String :=
  if sameName h.1 name then visibleText? h.2 else none

theorem under?_eq_some_iff : under? name h = some text ↔ Shows name h text := by
  unfold under?
  constructor
  · intro said
    split at said
    · next named =>
      obtain ⟨holds, visible⟩ := visibleText?_eq_some_iff.1 said
      exact ⟨named, holds, visible⟩
    · cases said
  · intro shows
    rw [if_pos shows.named]
    exact visibleText?_eq_some_iff.2 ⟨shows.holds, shows.visible⟩

theorem under?_eq_none_iff : under? name h = none ↔ ∀ text, ¬ Shows name h text := by
  simp only [← under?_eq_some_iff, ← Option.not_isSome_iff_eq_none, Option.isSome_iff_exists,
    not_exists]

/-- All texts that an answer shows under a name, in order. -/
def shown (a : Answer) (name : String) : List String := a.headers.filterMap (under? name)

/-- Of the headers that can be shown, the first with a name says what is shown first under it. -/
theorem find?_visible (headers : List (String × List UInt8)) (name : String) :
    ((headers.filterMap fun h => (visibleText? h.2).map (h.1, ·)).find?
      fun h => sameName h.1 name).map (·.2) = (headers.filterMap (under? name)).head? := by
  induction headers with
  | nil => rfl
  | cons h headers ih =>
    rw [List.filterMap_cons, List.filterMap_cons]
    cases value : visibleText? h.2 with
    | none =>
      have silent : under? name h = none := by
        unfold under?
        rw [value, ite_self]
      rw [silent]
      exact ih
    | some text =>
      cases named : sameName h.1 name with
      | false =>
        have silent : under? name h = none := by
          unfold under?
          rw [named]
          rfl
        rw [silent]
        show Option.map _ (List.find? _ ((h.1, text) :: _)) = _
        rw [List.find?_cons_of_neg (by simp [named])]
        exact ih
      | true =>
        have said : under? name h = some text := by
          unfold under?
          rw [if_pos named, value]
        rw [said]
        show Option.map _ (List.find? _ ((h.1, text) :: _)) = _
        rw [List.find?_cons_of_pos (by exact named)]
        rfl

/-! ## Headers that are left out -/

/-- A name in another spelling is left out as well. -/
theorem leavesOut_congr {other : String} (same : sameName other name = true) (a : Answer) :
    a.leavesOut other = a.leavesOut name := by
  unfold leavesOut
  simp only [sameName_congr_right same]

/-- Either nothing is kept under a name, or all that is shown. -/
theorem shown_keptHeaders (a : Answer) (name : String) :
    a.keptHeaders.filterMap (under? name) = if a.leavesOut name then [] else a.shown name := by
  have under : ∀ h : String × List UInt8, sameName h.1 name = false → under? name h = none := by
    intro h other
    unfold under?
    rw [other]
    rfl
  unfold keptHeaders shown
  rw [List.filterMap_filter]
  cases out : a.leavesOut name with
  | true =>
    refine List.filterMap_eq_nil_iff.2 fun h _ => ?_
    cases named : sameName h.1 name with
    | true => rw [leavesOut_congr named, out]; rfl
    | false => rw [under h named, ite_self]
  | false =>
    refine List.filterMap_congr fun h _ => ?_
    cases named : sameName h.1 name with
    | true => rw [leavesOut_congr named, out]; rfl
    | false => rw [under h named, ite_self]

/-- A response says under a name what comes first of all that can be shown, unless the name is left
out. -/
theorem header?_response (a : Answer) (name : String) :
    a.response.header? name = if a.leavesOut name then none else (a.shown name).head? := by
  have first : a.response.header? name = (a.keptHeaders.filterMap (under? name)).head? :=
    find?_visible a.keptHeaders name
  rw [first, shown_keptHeaders]
  split <;> rfl

/-- What is kept of an answer says a text first under a name. -/
def SaysFirst (a : Answer) (name text : String) : Prop :=
  a.leavesOut name = false ∧ a.ShowsFirst name text

/-- What is kept of an answer says nothing under a name. -/
def SaysNone (a : Answer) (name : String) : Prop := a.leavesOut name = true ∨ a.ShowsNone name

/-- **Names.** -/
theorem header?_response_eq_some_iff :
    a.response.header? name = some text ↔ a.SaysFirst name text := by
  have shows : (a.shown name).head? = some text ↔ a.ShowsFirst name text := by
    rw [shown, List.head?_filterMap, List.findSome?_eq_some_iff]
    simp only [under?_eq_some_iff, under?_eq_none_iff]
    rfl
  rw [header?_response, SaysFirst, ← shows]
  cases a.leavesOut name <;> simp

theorem header?_response_eq_none_iff : a.response.header? name = none ↔ a.SaysNone name := by
  have shows : (a.shown name).head? = none ↔ a.ShowsNone name := by
    rw [shown, List.head?_filterMap, List.findSome?_eq_none_iff]
    simp only [under?_eq_none_iff]
    rfl
  rw [header?_response, SaysNone, ← shows]
  cases a.leavesOut name <;> simp

/-! ## Codings -/

theorem tellsOf_iff {c : Coding} : a.tellsOf c = true ↔ ∃ h ∈ a.headers,
    (∃ n ∈ Coding.tellingHeaders, sameName h.1 n = true) ∧ Holds h.2 (Text.encode c.name) := by
  unfold tellsOf
  simp only [List.any_eq_true, Bool.and_eq_true, beq_iff_eq, holds_iff]

/-- An answer has a value under a name if the first header with this name holds that value. -/
theorem header?_eq_some_iff : a.header? name = some core ↔ ∃ before h after,
    a.headers = before ++ h :: after ∧ sameName h.1 name = true ∧
      (∀ e ∈ before, sameName e.1 name = false) ∧ Holds h.2 core := by
  unfold header?
  simp only [Option.map_eq_some_iff, List.find?_eq_some_iff_append, holds_iff]
  constructor
  · rintro ⟨h, ⟨named, before, after, headers, others⟩, value⟩
    exact ⟨before, h, after, headers, named, by simpa using others, value⟩
  · rintro ⟨before, h, after, headers, named, others, value⟩
    exact ⟨h, ⟨named, before, after, headers, by simpa using others⟩, value⟩

/-- A coding is undone exactly if the answer comes in one. -/
theorem isSome_coding?_iff : a.coding?.isSome = true ↔ a.IsEncoded := by
  have some : (Coding.all.find? a.tellsOf).isSome = true ↔ ∃ c, a.tellsOf c = true := by
    rw [List.find?_isSome]
    constructor
    · rintro ⟨c, -, tells⟩
      exact ⟨c, tells⟩
    · rintro ⟨c, tells⟩
      exact ⟨c, by cases c <;> decide, tells⟩
  unfold coding?
  split
  · next empty =>
    refine iff_of_false Bool.false_ne_true fun encoded => ?_
    obtain ⟨before, h, after, headers, named, others, holds⟩ := header?_eq_some_iff.1 empty
    exact encoded.notEmpty before h after headers named others holds
  · next filled =>
    rw [some]
    constructor
    · rintro ⟨c, tells⟩
      obtain ⟨h, mem, telling, holds⟩ := tellsOf_iff.1 tells
      refine ⟨⟨h, mem, telling, c, holds⟩, fun before h' after headers named others empty => ?_⟩
      exact filled (header?_eq_some_iff.2 ⟨before, h', after, headers, named, others, empty⟩)
    · intro encoded
      obtain ⟨h, mem, telling, c, holds⟩ := encoded.told
      exact ⟨c, tellsOf_iff.2 ⟨h, mem, telling, holds⟩⟩

/-- A name is left out if a coding is undone, and headers with this name are about the body only. -/
theorem leavesOut_iff : a.leavesOut name = true ↔
    a.IsEncoded ∧ ∃ n ∈ Coding.bodyHeaders, sameName n name = true := by
  unfold leavesOut
  rw [Bool.and_eq_true, isSome_coding?_iff, List.any_eq_true]

end Answer

end Vigil

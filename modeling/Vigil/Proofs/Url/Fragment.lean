import Mathlib.Data.List.Basic
import Mathlib.Data.List.TakeWhile
import Vigil.Http.Redirect
import Vigil.Template
import Vigil.Url.Reader

/-!
# Fragments of any length

Text that stands for itself in a fragment is kept as it is when a URL is read, however long it is
(`parse_withFragment`).
-/

set_option autoImplicit false

namespace Vigil

/-- A template is left as it is if nothing is stored. -/
theorem Template.render_empty (text : String) : Template.render .empty text = text := by
  have fills : ∀ piece, fill Store.empty.get? piece = spell piece := by
    rintro (c | name)
    · rfl
    · rfl
  have whole : (pieces text).flatMap (fill Store.empty.get?) = text.toList := by
    rw [List.flatMap_congr fun piece _ => fills piece]
    exact spell_cut text.toList
  unfold render renderWith
  rw [whole, String.ofList_toList]

/-- A text has at least as many bytes as characters. -/
theorem length_le_size (text : List Char) : text.length ≤ (String.ofList text).utf8ByteSize := by
  induction text with
  | nil => exact Nat.zero_le _
  | cons c text ih =>
    have byte := c.utf8Size_pos
    rw [String.ofList_cons, String.utf8ByteSize_append, String.utf8ByteSize_singleton,
      List.length_cons]
    omega

/-- A character that stands for itself in a set of characters to be encoded. -/
def Percent.StandsIn (s : Percent.EncodeSet) (c : Char) : Prop :=
  (String.utf8EncodeChar c).flatMap (Percent.encodeByte s) = [c]

instance (s : Percent.EncodeSet) : DecidablePred (Percent.StandsIn s) := fun _ =>
  inferInstanceAs (Decidable (_ = _))

theorem Percent.encode_of_stands {s : Percent.EncodeSet} {text : List Char}
    (stand : ∀ c ∈ text, StandsIn s c) : Percent.encode s text = text := by
  unfold encode
  rw [List.flatMap_assoc]
  induction text with
  | nil => rfl
  | cons c text ih =>
    rw [List.flatMap_cons, stand c List.mem_cons_self,
      ih fun d mem => stand d (List.mem_cons_of_mem c mem)]
    rfl

namespace Url

/-- Nothing is dropped from a URL without blanks and control characters. -/
theorem clean_of_visible {text : String} (visible : ∀ c ∈ text.toList, isMargin c = false) :
    clean text = text.toList := by
  have kept : ∀ l : List Char, (∀ c ∈ l, isMargin c = false) → l.dropWhile isMargin = l := by
    intro l visible
    rw [List.dropWhile_eq_self_iff]
    intro nonempty
    rw [visible _ (l.getElem_mem nonempty)]
    exact Bool.false_ne_true
  have unbroken : ∀ c ∈ text.toList, (!isLineBreak c) = true := by
    intro c mem
    have margin := visible c mem
    simp only [isLineBreak, Bool.not_eq_true', Bool.or_eq_false_iff, beq_eq_false_iff_ne]
    refine ⟨⟨?_, ?_⟩, ?_⟩
    all_goals
      rintro rfl
      exact absurd margin (by decide)
  unfold clean
  simp only
  rw [kept _ visible, kept _ fun c mem => visible c (List.mem_reverse.1 mem), List.reverse_reverse,
    List.filter_eq_self.2 unbroken]

/-- The loopback address, of the newer kind. -/
def loopback : Authority := { host := .v6 [0, 0, 0, 0, 0, 0, 0, 1] }

/-- The URL of the loopback address with a fragment. -/
def atLoopback (fragment : List Char) : Url :=
  ⟨"http", some loopback, .segments [""], none, some (String.ofList fragment)⟩

theorem readAuthority_loopback (fragment : List Char) :
    readAuthority "http" ("[::1]/#".toList ++ fragment) =
      .ok (withPath "http" (some loopback) ('/' :: '#' :: fragment)) := by
  have web : SchemeKind.of "http" = .web := by decide
  have whole : ("[::1]/#".toList ++ fragment).takeWhile (fun c => !endsAuthority .web c) =
      "[::1]".toList := rfl
  have rest : ("[::1]/#".toList ++ fragment).dropWhile (fun c => !endsAuthority .web c) =
      '/' :: '#' :: fragment := rfl
  have host : Host.readWeb "[::1]".toList = .ok loopback.host := by decide +kernel
  have cut : cutCredentials "[::1]".toList = (none, "[::1]".toList) := by decide
  have nobody : readCredentials [] = ("", none) := by decide
  have cutHost : cutHost false "[::1]".toList = ("[::1]".toList, []) := by decide
  have port : readPortPart "http" [] = .ok (none, []) := rfl
  simp only [readAuthority, web, whole, rest, cut, Option.getD_none, nobody, cutHost, host, port]
  rfl

/-- **Fragments of any length.** -/
theorem parse_withFragment {fragment : List Char}
    (visible : ∀ c ∈ fragment, isMargin c = false)
    (stand : ∀ c ∈ fragment, Percent.StandsIn .fragment c) :
    parse (String.ofList ("http://[::1]/#".toList ++ fragment)) = .ok (atLoopback fragment) := by
  have clean : clean (String.ofList ("http://[::1]/#".toList ++ fragment)) =
      "http://[::1]/#".toList ++ fragment := by
    rw [clean_of_visible, String.toList_ofList]
    intro c mem
    rw [String.toList_ofList, List.mem_append] at mem
    rcases mem with mem | mem
    · have start : "http://[::1]/#".toList.all (fun c => !isMargin c) = true := rfl
      simpa using List.all_eq_true.1 start c mem
    · exact visible c mem
  have scheme : scheme? ("http://[::1]/#".toList ++ fragment) =
      some ("http", "//[::1]/#".toList ++ fragment) := rfl
  have place : ("//[::1]/#".toList ++ fragment).dropWhile (isSlash .web) =
      "[::1]/#".toList ++ fragment := rfl
  have web : SchemeKind.of "http" = .web := by decide
  unfold parse
  rw [clean, scheme]
  simp only [readAbsolute, web, place]
  rw [readAuthority_loopback]
  have before : ('/' :: '#' :: fragment).takeWhile (fun c => !endsPath c) = ['/'] := rfl
  have behind : ('/' :: '#' :: fragment).dropWhile (fun c => !endsPath c) = '#' :: fragment := rfl
  have path : pathOf .web (segmentsOf .web ['/']) = .segments [""] := by decide
  simp only [withPath, web, before, behind, path, withTail, Percent.encode_of_stands stand]
  rfl

theorem text_atLoopback (fragment : List Char) :
    (atLoopback fragment).text = String.ofList ("http://[::1]/#".toList ++ fragment) := by
  have before : "http" ++ ":" ++ ("//" ++ loopback.text) ++ (UrlPath.segments [""]).text ++ "" =
      "http://[::1]/" := by decide +kernel
  have whole : (atLoopback fragment).text =
      "http" ++ ":" ++ ("//" ++ loopback.text) ++ (UrlPath.segments [""]).text ++ "" ++
        ("#" ++ String.ofList fragment) := rfl
  rw [whole, before, ← String.toList_inj]
  simp only [String.toList_append, String.toList_ofList, ← List.append_assoc]
  rfl

/-- A URL whose fragment is too long cannot be written into a request. -/
theorem not_isWritable_atLoopback {fragment : List Char} (long : 65520 < fragment.length) :
    (atLoopback fragment).isWritable = false := by
  have size : 65534 < (atLoopback fragment).text.utf8ByteSize := by
    have letters := length_le_size ("http://[::1]/#".toList ++ fragment)
    have scheme : "http://[::1]/#".toList.length = 14 := by decide
    rw [List.length_append, scheme] at letters
    rw [text_atLoopback]
    omega
  unfold isWritable
  rw [decide_eq_false (Nat.not_le.2 size), Bool.and_false]

end Url

end Vigil

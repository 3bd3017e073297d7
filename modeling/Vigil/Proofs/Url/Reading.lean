import Vigil.Http.Redirect
import Vigil.Proofs.Url.Percent

/-!
# URLs of HTTP as they are read

However a URL of HTTP is written, the one that is read from it has a path without question marks
and a query of characters that stand for themselves (`isClean_of_parse`). So the first question
mark in what is asked of a host is the one in front of the query.
-/

set_option autoImplicit false

namespace Vigil.Url

/-- Path and query are written so that they can be told apart and are not written differently
when they are put in place once more. -/
structure IsClean (u : Url) : Prop where
  path : ∀ c ∈ u.path.text.toList, c ≠ '?'
  query : ∀ q, u.query = some q → ∀ c ∈ q.toList, Percent.StandsIn .webQuery c

/-! ## Query and fragment -/

/-- What is read behind a path, as far as it is not in the fragment. -/
theorem withTail_cases (u : Url) (text : List Char) :
    (withTail u text).scheme = u.scheme ∧ (withTail u text).path = u.path ∧
      ((withTail u text).query = u.query ∨
        ∃ cs, (withTail u text).query =
          some (String.ofList (Percent.encode (querySet u.kind) cs))) := by
  unfold withTail
  simp only
  split
  · split
    · exact ⟨rfl, rfl, .inr ⟨_, rfl⟩⟩
    · exact ⟨rfl, rfl, .inr ⟨_, rfl⟩⟩
  · exact ⟨rfl, rfl, .inl rfl⟩
  · exact ⟨rfl, rfl, .inl rfl⟩

theorem scheme_withPath (scheme : String) (authority : Option Authority) (text : List Char) :
    (withPath scheme authority text).scheme = scheme :=
  (withTail_cases _ _).1

/-! ## Segments -/

/-- Segments that are written as those of a URL of the web. -/
def AreWritten (segments : List String) : Prop :=
  ∀ s ∈ segments, ∃ cs, s = segmentText cs

theorem areWritten_cons {segments : List String} (cs : List Char) (written : AreWritten segments) :
    AreWritten (segmentText cs :: segments) := by
  intro s mem
  rcases List.mem_cons.1 mem with rfl | mem
  · exact ⟨cs, rfl⟩
  · exact written s mem

theorem addSegment_web (done : List String) (segment : List Char) :
    addSegment .web done segment = segmentText segment :: done := by
  cases segment with
  | nil => rfl
  | cons c segment =>
    have web : ¬(SchemeKind.web = .file ∧ done.isEmpty ∧ isDrive (c :: segment)) := by simp
    rw [addSegment, if_neg web]

theorem areWritten_above {done : List String} (written : AreWritten done) :
    AreWritten (above done) := by
  unfold above
  split
  · exact written
  · split
    · exact written
    · exact fun s mem => written s (List.mem_cons_of_mem _ mem)

theorem areWritten_reverse {done : List String} (written : AreWritten done) :
    AreWritten done.reverse :=
  fun s mem => written s (List.mem_reverse.1 mem)

/-- Whatever way the segments lead, those that are left are written. -/
theorem areWritten_follow {done : List String} (segments : List (List Char))
    (written : AreWritten done) : AreWritten (follow .web done segments) := by
  have here : ∀ done, AreWritten done → AreWritten ("" :: done) := fun _ => areWritten_cons []
  fun_induction follow .web done segments with
  | case1 done => exact areWritten_reverse written
  | case2 done last up => exact areWritten_reverse (here _ (areWritten_above written))
  | case3 done last _ dot => exact areWritten_reverse (here _ written)
  | case4 done last _ _ =>
    rw [addSegment_web]
    exact areWritten_reverse (areWritten_cons last written)
  | case5 done s rest _ up ih => exact ih (areWritten_above written)
  | case6 done s rest _ _ dot ih => exact ih written
  | case7 done s rest _ _ _ ih =>
    refine ih ?_
    rw [addSegment_web]
    exact areWritten_cons s written

theorem areWritten_segmentsOf (text : List Char) : AreWritten (segmentsOf .web text) := by
  have none : AreWritten [] := fun s mem => absurd mem List.not_mem_nil
  cases text with
  | nil => exact areWritten_cons [] none
  | cons c text => exact areWritten_follow _ none

/-- A path of such segments has no question mark. -/
theorem ne_of_mem_text {segments : List String} (written : AreWritten segments) {c : Char}
    (mem : c ∈ (UrlPath.segments segments).text.toList) : c ≠ '?' := by
  unfold UrlPath.text at mem
  rw [String.toList_join, List.mem_flatMap] at mem
  obtain ⟨piece, listed, mem⟩ := mem
  obtain ⟨s, segment, rfl⟩ := List.mem_map.1 listed
  obtain ⟨cs, rfl⟩ := written s segment
  rw [String.toList_append, List.mem_append] at mem
  rcases mem with mem | mem
  · obtain rfl : c = '/' := by simpa using mem
    decide
  · unfold segmentText at mem
    rw [String.toList_ofList] at mem
    exact Percent.ne_of_mem_encode mem

/-- What is read behind an authority. -/
theorem isClean_withPath {scheme : String} (web : SchemeKind.of scheme = .web)
    (authority : Option Authority) (text : List Char) :
    (withPath scheme authority text).IsClean := by
  obtain ⟨-, path, query⟩ := withTail_cases
    ⟨scheme, authority, pathOf .web (segmentsOf .web (text.takeWhile fun c => !endsPath c)),
      none, none⟩ (text.dropWhile fun c => !endsPath c)
  have whole : withPath scheme authority text = withTail
    ⟨scheme, authority, pathOf .web (segmentsOf .web (text.takeWhile fun c => !endsPath c)),
      none, none⟩ (text.dropWhile fun c => !endsPath c) := by
    unfold withPath
    rw [web]
  rw [whole]
  constructor
  · intro c mem
    rw [path] at mem
    exact ne_of_mem_text (areWritten_segmentsOf _) mem
  · intro q here c mem
    rcases query with absent | ⟨cs, given⟩
    · rw [absent] at here
      cases here
    · rw [given] at here
      obtain rfl := Option.some.inj here
      unfold kind at mem
      rw [web, String.toList_ofList] at mem
      exact Percent.stands_of_mem_encode mem

/-! ## Whole URLs -/

theorem eq_withPath_of_readAuthority {scheme : String} {text : List Char} {u : Url}
    (read : readAuthority scheme text = .ok u) :
    ∃ authority rest, u = withPath scheme authority rest := by
  unfold readAuthority at read
  simp only [bind, Except.bind, pure, Except.pure, throw, throwThe, MonadExceptOf.throw] at read
  repeat' split at read
  all_goals
    cases read
  all_goals exact ⟨_, _, rfl⟩

theorem scheme_of_readFile {scheme : String} {text : List Char} {u : Url}
    (read : readFile scheme text = .ok u) : u.scheme = scheme := by
  unfold readFile at read
  simp only [bind, Except.bind, pure, Except.pure] at read
  repeat' split at read
  all_goals
    cases read
  all_goals exact scheme_withPath _ _ _

theorem scheme_of_readAbsolute {scheme : String} {text : List Char} {u : Url}
    (read : readAbsolute scheme text = .ok u) : u.scheme = scheme := by
  have authority : ∀ text, readAuthority scheme text = .ok u → u.scheme = scheme := by
    intro text read
    obtain ⟨authority, rest, rfl⟩ := eq_withPath_of_readAuthority read
    exact scheme_withPath scheme authority rest
  unfold readAbsolute at read
  split at read
  · exact authority _ read
  · exact scheme_of_readFile read
  · split at read
    · exact authority _ read
    · obtain rfl := Except.ok.inj read
      exact scheme_withPath scheme none _
    · obtain rfl := Except.ok.inj read
      exact (withTail_cases _ _).1

/-- **URLs of HTTP as they are read.** -/
theorem isClean_of_parse {text : String} {u : Url} (read : parse text = .ok u)
    (http : u.isHttp = true) : u.IsClean := by
  unfold parse at read
  split at read
  · next scheme rest _ =>
    have same := scheme_of_readAbsolute read
    have web : SchemeKind.of scheme = .web := by
      unfold isHttp at http
      rw [same, Bool.or_eq_true, beq_iff_eq, beq_iff_eq] at http
      rcases http with rfl | rfl
      all_goals decide
    unfold readAbsolute at read
    rw [web] at read
    obtain ⟨authority, behind, rfl⟩ := eq_withPath_of_readAuthority read
    exact isClean_withPath web authority behind
  · cases read

end Vigil.Url

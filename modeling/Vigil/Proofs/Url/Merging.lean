import Vigil.Http.Wire
import Vigil.Proofs.Url.Form
import Vigil.Proofs.Url.Reading

/-!
# Declared pairs in a query

What a server reads in the query of a URL after declared pairs have been merged into it: first the
pairs of the URL whose keys are not declared, in the order in which they are there, and then the
declared pairs in the order of their keys and, for one key, in the order of its values. The pairs
that stay are not written in another way, and no other part of the URL changes.
`Url.mergeQuery_merges` says all of this of every URL of HTTP and all declared pairs, whatever
characters keys and values have.
-/

set_option autoImplicit false

namespace Vigil

/-- The query of a URL as a form; no query is an empty form. -/
def Url.form (u : Url) : List UInt8 := Text.encode (u.query.getD "")

/-- What a server finds behind the first question mark of what it is asked for. -/
def Message.askedForm (m : Message) : List UInt8 :=
  ((Text.encode m.resource).dropWhile (· != 63)).drop 1

/-- How a URL comes out of one with declared pairs. -/
structure Url.Merges (u : Url) (declared : Dict (List String)) (merged : Url) : Prop where
  /-- The pairs of the URL whose keys are not declared, and then the declared pairs. -/
  pairs : Form.read merged.form =
    (Form.read u.form).filter (fun p => !declared.contains p.1) ++ Query.declaredPairs declared
  /-- So does a server read them in any message for that URL. -/
  asked : ∀ method, Form.read (Message.ofUrl method merged).askedForm =
    (Form.read (Message.ofUrl method u).askedForm).filter (fun p => !declared.contains p.1) ++
      Query.declaredPairs declared
  /-- Declared pairs are in the order of their keys. -/
  ordered : (Query.declaredPairs declared).Pairwise fun p q => p.1 ≤ q.1
  /-- A declared key has the declared values in their order, and no others. If none are
  declared, it has none. -/
  values : ∀ key given, declared.get? key = some given →
    ((Form.read merged.form).filter fun p => p.1 == key).map (·.2) = given
  /-- Pairs that stay are written as they were. -/
  spelled : declared.isEmpty = false → (merged.query.getD "").toList =
    ['&'].intercalate
      ((((u.query.getD "").toList.splitOn '&').filter fun piece =>
          !piece.isEmpty && !declared.contains (Query.keyOf piece)) ++
        (Query.declaredPairs declared).map fun p => Query.encodePair p.1 p.2)
  /-- There is no query without pairs. -/
  absent : declared.isEmpty = false → Form.read merged.form = [] → merged.query = none
  /-- Nothing in the query has to be written in another way. -/
  clean : ∀ q, merged.query = some q → Percent.encode .webQuery q.toList = q.toList
  /-- Without declared pairs it is the same URL. -/
  untouched : declared.isEmpty = true → merged = u
  /-- Nothing but the query changes. -/
  frame : merged.scheme = u.scheme ∧ merged.authority = u.authority ∧ merged.path = u.path ∧
    merged.fragment = u.fragment

namespace Dict

variable {α : Type}

theorem contains_eq (d : Dict α) (key : String) : d.contains key = (d.get? key).isSome := by
  unfold contains get?
  rw [Option.isSome_map, List.isSome_find?]

end Dict

namespace Query

/-! ## Declared pairs -/

theorem declaredPairs_ordered (declared : Dict (List String)) :
    (declaredPairs declared).Pairwise fun p q => p.1 ≤ q.1 := by
  refine List.pairwise_flatMap.2 ⟨fun e _ => ?_, declared.ascending.imp fun lt p mem q mem' => ?_⟩
  · exact List.pairwise_map.2 (List.pairwise_of_forall fun _ _ => String.le_refl _)
  · obtain ⟨_, -, rfl⟩ := List.mem_map.1 mem
    obtain ⟨_, -, rfl⟩ := List.mem_map.1 mem'
    exact String.not_lt.1 (String.lt_asymm lt)

/-- The declared values of one key. -/
theorem declaredPairs_values (declared : Dict (List String)) (key : String) :
    ((declaredPairs declared).filter fun p => p.1 == key).map (·.2) =
      (declared.get? key).getD [] := by
  obtain ⟨entries, ascending⟩ := declared
  unfold declaredPairs Dict.get?
  simp only
  induction entries with
  | nil => rfl
  | cons e entries ih =>
    obtain ⟨above, rest⟩ := List.pairwise_cons.1 ascending
    have others := ih rest
    rw [List.flatMap_cons, List.filter_append, List.map_append, others, List.find?_cons]
    by_cases here : e.1 = key
    · have free : entries.find? (fun e => e.1 == key) = none := by
        refine List.find?_eq_none.2 fun x mem => ?_
        have lt := above x mem
        rw [here] at lt
        simpa using (String.ne_of_lt lt).symm
      simp [here, free, List.filter_map, Function.comp_def]
    · have skip : (e.1 == key) = false := beq_eq_false_iff_ne.2 here
      simp [skip, List.filter_map, Function.comp_def]

/-! ## Pieces of a query -/

/-- The pieces of a query hold its characters, less what parts them. -/
theorem of_mem_cut {query piece : List Char} {c : Char} (listed : piece ∈ cut query)
    (mem : c ∈ piece) : c ∈ query ∧ c ≠ '&' := by
  induction query generalizing piece with
  | nil =>
    obtain rfl := List.mem_singleton.1 listed
    exact absurd mem List.not_mem_nil
  | cons d query ih =>
    unfold cut at listed
    split at listed
    · rcases List.mem_cons.1 listed with rfl | listed
      · exact absurd mem List.not_mem_nil
      · exact ⟨List.mem_cons_of_mem _ (ih listed mem).1, (ih listed mem).2⟩
    · next other =>
      split at listed
      · obtain rfl := List.mem_singleton.1 listed
        obtain rfl := List.mem_singleton.1 mem
        exact ⟨List.mem_cons_self, other⟩
      · next first later pieces =>
        rw [pieces] at ih
        rcases List.mem_cons.1 listed with rfl | listed
        · rcases List.mem_cons.1 mem with rfl | mem
          · exact ⟨List.mem_cons_self, other⟩
          · have inner := ih List.mem_cons_self mem
            exact ⟨List.mem_cons_of_mem _ inner.1, inner.2⟩
        · have inner := ih (List.mem_cons_of_mem _ listed) mem
          exact ⟨List.mem_cons_of_mem _ inner.1, inner.2⟩

/-- Pieces put together are the pieces that are written. -/
theorem written_intercalate {pieces : List (List Char)} (nonempty : pieces ≠ [])
    (whole : ∀ piece ∈ pieces, piece ≠ [] ∧ ∀ c ∈ piece, c ≠ '&') :
    written (['&'].intercalate pieces) = pieces := by
  have apart : ∀ piece ∈ pieces, '&' ∉ piece := fun piece listed mem =>
    (whole piece listed).2 _ mem rfl
  unfold written
  rw [cut_eq, List.splitOn_intercalate '&' apart nonempty, List.filter_eq_self]
  intro piece listed
  simpa using (whole piece listed).1

/-- The characters of pieces put together are theirs, and what parts them. -/
theorem of_mem_intercalate {pieces : List (List Char)} {c : Char}
    (mem : c ∈ ['&'].intercalate pieces) : c = '&' ∨ ∃ piece ∈ pieces, c ∈ piece := by
  induction pieces with
  | nil => exact absurd mem List.not_mem_nil
  | cons first pieces ih =>
    cases pieces with
    | nil => exact .inr ⟨first, List.mem_cons_self, by simpa using mem⟩
    | cons second pieces =>
      rw [List.intercalate_cons_cons, List.append_assoc, List.mem_append, List.mem_append,
        List.mem_singleton] at mem
      rcases mem with mem | mem | mem
      · exact .inr ⟨first, List.mem_cons_self, mem⟩
      · exact .inl mem
      · rcases ih mem with amp | ⟨piece, listed, mem⟩
        · exact .inl amp
        · exact .inr ⟨piece, List.mem_cons_of_mem _ listed, mem⟩

variable {declared : Dict (List String)} {query : List Char}

/-- Where the pieces of a merged query come from. -/
theorem of_mem_mergedPairs {piece : List Char} (listed : piece ∈ mergedPairs declared query) :
    piece ≠ [] ∧ ∀ c ∈ piece, c ≠ '&' ∧ (c ∈ query ∨ Percent.StandsIn .webQuery c) := by
  rcases List.mem_append.1 listed with listed | listed
  · obtain ⟨cutOut, bare⟩ := List.mem_filter.1 (List.mem_filter.1 listed).1
    exact ⟨by simpa using bare, fun c mem =>
      ⟨(of_mem_cut cutOut mem).2, .inl (of_mem_cut cutOut mem).1⟩⟩
  · obtain ⟨p, -, rfl⟩ := List.mem_map.1 listed
    exact ⟨by simp [encodePair], fun c mem =>
      ⟨(stands_of_mem_encodePair mem).2, .inr (stands_of_mem_encodePair mem).1⟩⟩

/-- What is left of a query after merging. -/
theorem merge_eq :
    (merge declared query).getD [] = ['&'].intercalate (mergedPairs declared query) := by
  unfold merge
  cases mergedPairs declared query with
  | nil => rfl
  | cons piece pieces => rfl

theorem written_merge : written ((merge declared query).getD []) = mergedPairs declared query := by
  by_cases empty : mergedPairs declared query = []
  · rw [merge_eq, empty]
    rfl
  · rw [merge_eq, written_intercalate empty fun piece listed =>
      ⟨(of_mem_mergedPairs listed).1, fun c mem => ((of_mem_mergedPairs listed).2 c mem).1⟩]

/-- The pairs of a merged query. -/
theorem pairs_merge : pairs ((merge declared query).getD []) =
    (pairs query).filter (fun p => !declared.contains p.1) ++ declaredPairs declared := by
  unfold pairs
  rw [written_merge, mergedPairs, List.map_append, List.map_map, List.filter_map]
  have back : (declaredPairs declared).map
      ((fun p => (keyOf p, valueOf p)) ∘ fun p => encodePair p.1 p.2) = declaredPairs declared := by
    refine (List.map_congr_left fun p _ => ?_).trans (List.map_id _)
    exact pair_encodePair p.1 p.2
  rw [back]
  rfl

end Query

namespace Url

variable {u : Url} {declared : Dict (List String)}

theorem read_form (u : Url) : Form.read u.form = Query.pairs (u.query.getD "").toList :=
  Form.read_bytes _

/-- The query that is left, in characters. -/
theorem query_mergeQuery (nonempty : declared.isEmpty = false) :
    (u.mergeQuery declared).query =
      (Query.merge declared (u.query.getD "").toList).map String.ofList := by
  unfold mergeQuery
  rw [if_neg (by simp [nonempty])]

theorem toList_query_mergeQuery (nonempty : declared.isEmpty = false) :
    ((u.mergeQuery declared).query.getD "").toList =
      (Query.merge declared (u.query.getD "").toList).getD [] := by
  rw [query_mergeQuery nonempty]
  cases Query.merge declared (u.query.getD "").toList with
  | none => rfl
  | some q => exact String.toList_ofList

theorem mergeQuery_of_isEmpty (empty : declared.isEmpty = true) : u.mergeQuery declared = u :=
  if_pos empty

theorem frame_mergeQuery (u : Url) (declared : Dict (List String)) :
    (u.mergeQuery declared).scheme = u.scheme ∧
      (u.mergeQuery declared).authority = u.authority ∧
      (u.mergeQuery declared).path = u.path ∧ (u.mergeQuery declared).fragment = u.fragment := by
  unfold mergeQuery
  split
  · exact ⟨rfl, rfl, rfl, rfl⟩
  · exact ⟨rfl, rfl, rfl, rfl⟩

theorem read_mergeQuery (u : Url) (declared : Dict (List String)) :
    Form.read (u.mergeQuery declared).form =
      (Form.read u.form).filter (fun p => !declared.contains p.1) ++
        Query.declaredPairs declared := by
  cases size : declared.isEmpty with
  | true =>
    have no : declared.entries = [] := List.isEmpty_iff.1 size
    have free : ∀ p ∈ Form.read u.form, (!declared.contains p.1) = true := by
      simp [Dict.contains, no]
    rw [mergeQuery_of_isEmpty size, List.filter_eq_self.2 free, Query.declaredPairs, no,
      List.flatMap_nil, List.append_nil]
  | false => rw [read_form, read_form, toList_query_mergeQuery size, Query.pairs_merge]

/-- Merging keeps a clean URL clean. -/
theorem IsClean.mergeQuery (clean : u.IsClean) (declared : Dict (List String)) :
    (u.mergeQuery declared).IsClean := by
  cases size : declared.isEmpty with
  | true =>
    rw [mergeQuery_of_isEmpty size]
    exact clean
  | false =>
    constructor
    · rw [(frame_mergeQuery u declared).2.2.1]
      exact clean.path
    · intro q here c mem
      have chars : q.toList =
          ['&'].intercalate (Query.mergedPairs declared (u.query.getD "").toList) := by
        rw [← Query.merge_eq, ← toList_query_mergeQuery size, here]
        rfl
      rw [chars] at mem
      rcases Query.of_mem_intercalate mem with rfl | ⟨piece, listed, mem⟩
      · decide
      · rcases ((Query.of_mem_mergedPairs listed).2 c mem).2 with old | new
        · cases given : u.query with
          | none =>
            rw [given] at old
            exact absurd old List.not_mem_nil
          | some original =>
            rw [given] at old
            exact clean.query original given c old
        · exact new

/-- What a server is asked for holds the query of the URL. -/
theorem askedForm_ofUrl (clean : u.IsClean) (method : Method) :
    (Message.ofUrl method u).askedForm = u.form := by
  have resource : (Message.ofUrl method u).resource = u.path.text ++ u.queryText := by
    unfold Message.ofUrl
    split
    · rfl
    · rfl
  have mark : (63 : UInt8) = UInt8.ofNat '?'.toNat := rfl
  have before : ∀ c ∈ u.path.text.toList, (c != '?') = true := fun c mem =>
    bne_iff_ne.2 (clean.path c mem)
  unfold Message.askedForm
  rw [resource, Text.encode, mark, Text.dropWhile_bytes (by decide), String.toList_append,
    List.dropWhile_append_of_pos before]
  unfold form queryText
  cases u.query with
  | none => rfl
  | some q =>
    simp only [String.toList_append]
    rfl

/-- **Declared pairs in a query.** -/
theorem mergeQuery_merges {text : String} {u : Url} (read : parse text = .ok u)
    (http : u.isHttp = true) (declared : Dict (List String)) :
    u.Merges declared (u.mergeQuery declared) where
  pairs := read_mergeQuery u declared
  asked method := by
    have clean := isClean_of_parse read http
    rw [askedForm_ofUrl clean, askedForm_ofUrl (clean.mergeQuery declared), read_mergeQuery]
  ordered := Query.declaredPairs_ordered declared
  values := by
    intro key given here
    have declares : declared.contains key = true := by
      rw [Dict.contains_eq, here]
      rfl
    have others : ((Form.read u.form).filter fun p => !declared.contains p.1).filter
        (fun p => p.1 == key) = [] := by
      rw [List.filter_filter, List.filter_eq_nil_iff]
      intro p _
      by_cases same : p.1 = key
      · simp [same, declares]
      · simp [same]
    rw [read_mergeQuery, List.filter_append, others, List.nil_append, Query.declaredPairs_values,
      here]
    rfl
  spelled := by
    intro nonempty
    rw [toList_query_mergeQuery nonempty, Query.merge_eq, Query.mergedPairs, Query.written,
      Query.cut_eq, List.filter_filter]
    simp only [Bool.and_comm]
  absent := by
    intro nonempty bare
    rw [read_form, toList_query_mergeQuery nonempty] at bare
    have pieces : Query.mergedPairs declared (u.query.getD "").toList = [] := by
      rw [← Query.written_merge]
      exact List.map_eq_nil_iff.1 bare
    rw [query_mergeQuery nonempty, Query.merge, pieces]
    rfl
  clean q here := Percent.encode_of_stands
    (((isClean_of_parse read http).mergeQuery declared).query q here)
  untouched := mergeQuery_of_isEmpty
  frame := frame_mergeQuery u declared

/-- A URL with a key that occurs twice, an escape that is none, an empty piece and a key alone. -/
def crowded : Url :=
  ⟨"http", some loopback, .segments ["list"], some "a=1&b=%zz&&a=3&c", some "end"⟩

/-- Values with characters that part pairs, for a key that occurs; none for another. -/
def amended : Dict (List String) := .ofList [("a", ["x&y", "é="]), ("c", [])]

/-- The pair that stays keeps its escape. The declared values are escaped and read as they are. -/
theorem mergeQuery_merges_crowded :
    parse "http://[::1]/list?a=1&b=%zz&&a=3&c#end" = .ok crowded ∧ crowded.isHttp = true ∧
    crowded.Merges amended (crowded.mergeQuery amended) ∧
    (crowded.mergeQuery amended).text = "http://[::1]/list?b=%zz&a=x%26y&a=%C3%A9%3D#end" := by
  have read : parse "http://[::1]/list?a=1&b=%zz&&a=3&c#end" = .ok crowded := by
    have url : (parse "http://[::1]/list?a=1&b=%zz&&a=3&c#end").toOption = some crowded := by
      decide +kernel
    cases result : parse "http://[::1]/list?a=1&b=%zz&&a=3&c#end" with
    | error fault =>
      rw [result] at url
      cases url
    | ok u =>
      rw [result] at url
      rw [Option.some.inj url]
  have http : crowded.isHttp = true := by decide
  exact ⟨read, http, mergeQuery_merges read http amended, by decide +kernel⟩

end Url

end Vigil

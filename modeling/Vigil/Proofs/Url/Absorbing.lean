import Vigil.Proofs.Sequence
import Vigil.Proofs.Url.Merging

/-!
# Declared pairs, merged more than once

A declaration that is merged into a query after others takes the place of all pairs that they
have written there, as long as it declares their keys: a pair is written so that its key is read
back from it (`Query.pair_encodePair`), whatever characters it has, and so the later declaration
knows it as one of its own. What no declaration is about has stayed as it was written, and it
stays again. `Url.mergeQuery_absorbs` says so of every URL of HTTP; nothing is left of the
earlier declarations, and a declaration that is merged twice is merged once.
-/

set_option autoImplicit false

namespace Vigil

/-- Whatever one declaration declares, the other declares too. -/
def Query.Covers (later earlier : Dict (List String)) : Prop :=
  ∀ key, earlier.contains key = true → later.contains key = true

/-- How a declaration makes earlier ones unseen in a URL. -/
structure Url.Absorbs (u : Url) (earlier later : Dict (List String)) : Prop where
  /-- After the later declaration the URL is what it is without the earlier one. -/
  same : (u.mergeQuery earlier).mergeQuery later = u.mergeQuery later
  /-- It has the same characters. -/
  text : ((u.mergeQuery earlier).mergeQuery later).text = (u.mergeQuery later).text
  /-- So it is with any number of earlier declarations, one after the other. -/
  several : ∀ before : List (Dict (List String)), (∀ declared ∈ before, Query.Covers later declared) →
    ((before.foldl Url.mergeQuery u).mergeQuery later).text = (u.mergeQuery later).text
  /-- What is merged twice is merged once. -/
  twice : ∀ declared, ((u.mergeQuery declared).mergeQuery declared).text =
    (u.mergeQuery declared).text
  /-- The pairs that are in the way of no declaration are, after both, written as they were. -/
  kept : ∀ piece ∈ Query.written (u.query.getD "").toList,
    later.contains (Query.keyOf piece) = false →
      piece ∈ Query.written (((u.mergeQuery earlier).mergeQuery later).query.getD "").toList
  /-- In between, nothing in the query has to be written in another way. -/
  clean : ∀ q, (u.mergeQuery earlier).query = some q →
    Percent.encode .webQuery q.toList = q.toList

namespace Query

variable {earlier later declared : Dict (List String)} {query : List Char}

theorem key_encodePair (key value : String) : keyOf (encodePair key value) = key :=
  congrArg Prod.fst (pair_encodePair key value)

/-- A declared pair has a declared key. -/
theorem contains_of_mem_declaredPairs {p : String × String} (listed : p ∈ declaredPairs declared) :
    declared.contains p.1 = true := by
  obtain ⟨entry, bound, listed⟩ := List.mem_flatMap.1 listed
  obtain ⟨value, -, rfl⟩ := List.mem_map.1 listed
  exact List.any_eq_true.2 ⟨entry, bound, beq_self_eq_true _⟩

/-- Nothing that a declaration has written stays when its keys are declared again. -/
theorem dropped_of_covers (covers : Covers later earlier) :
    ((declaredPairs earlier).map fun p => encodePair p.1 p.2).filter
      (fun piece => !later.contains (keyOf piece)) = [] := by
  refine List.filter_eq_nil_iff.2 fun piece listed => ?_
  obtain ⟨p, declares, rfl⟩ := List.mem_map.1 listed
  have known : later.contains (keyOf (encodePair p.1 p.2)) = true := by
    rw [key_encodePair]
    exact covers p.1 (contains_of_mem_declaredPairs declares)
  simp [known]

/-- What the later declaration keeps, the earlier one has kept. -/
theorem kept_of_covers (covers : Covers later earlier) (pieces : List (List Char)) :
    (pieces.filter fun piece => !earlier.contains (keyOf piece)).filter
        (fun piece => !later.contains (keyOf piece)) =
      pieces.filter fun piece => !later.contains (keyOf piece) := by
  rw [List.filter_filter]
  refine List.filter_congr fun piece _ => ?_
  cases declares : earlier.contains (keyOf piece) with
  | true => simp [covers _ declares]
  | false => simp

/-- The pieces of a query into which two declarations have been merged. -/
theorem mergedPairs_merge (covers : Covers later earlier) :
    mergedPairs later ((merge earlier query).getD []) = mergedPairs later query := by
  rw [mergedPairs, written_merge, mergedPairs, List.filter_append, kept_of_covers covers,
    dropped_of_covers covers, List.append_nil, mergedPairs]

theorem merge_merge (covers : Covers later earlier) :
    merge later ((merge earlier query).getD []) = merge later query := by
  have pieces : mergedPairs later ((merge earlier query).getD []) = mergedPairs later query :=
    mergedPairs_merge covers
  generalize (merge earlier query).getD [] = between at pieces ⊢
  unfold merge
  rw [pieces]

/-- A declaration that covers others is not empty if one of them is not. -/
theorem Covers.isEmpty_eq_false (covers : Covers later earlier)
    (nonempty : earlier.isEmpty = false) : later.isEmpty = false := by
  cases entries : earlier.entries with
  | nil =>
    rw [Dict.isEmpty, entries] at nonempty
    cases nonempty
  | cons entry rest =>
    have declares : earlier.contains entry.1 = true := by
      simp [Dict.contains, entries]
    obtain ⟨other, bound, -⟩ := List.any_eq_true.1 (covers _ declares)
    exact List.isEmpty_eq_false_iff_exists_mem.2 ⟨other, bound⟩

end Query

namespace Url

variable {u : Url} {earlier later : Dict (List String)}

theorem mergeQuery_of_nonempty (u : Url) {declared : Dict (List String)}
    (nonempty : declared.isEmpty = false) :
    u.mergeQuery declared =
      { u with query := (Query.merge declared (u.query.getD "").toList).map String.ofList } :=
  if_neg (by simp [nonempty])

/-- A declaration that covers an earlier one makes it unseen, in any URL. -/
theorem mergeQuery_mergeQuery (u : Url) (covers : Query.Covers later earlier) :
    (u.mergeQuery earlier).mergeQuery later = u.mergeQuery later := by
  cases size : earlier.isEmpty with
  | true => rw [mergeQuery_of_isEmpty size]
  | false =>
    have nonempty : later.isEmpty = false := covers.isEmpty_eq_false size
    rw [mergeQuery_of_nonempty _ nonempty, toList_query_mergeQuery size,
      Query.merge_merge covers, mergeQuery_of_nonempty u nonempty, mergeQuery_of_nonempty u size]

/-- Any number of earlier declarations are unseen, one after the other. -/
theorem mergeQuery_foldl (u : Url) (before : List (Dict (List String)))
    (covers : ∀ declared ∈ before, Query.Covers later declared) :
    (before.foldl mergeQuery u).mergeQuery later = u.mergeQuery later := by
  induction before generalizing u with
  | nil => rfl
  | cons declared before ih =>
    rw [List.foldl_cons, ih _ fun d mem => covers d (List.mem_cons_of_mem _ mem),
      mergeQuery_mergeQuery u (covers declared List.mem_cons_self)]

/-- **Declarations, one after the other.** -/
theorem mergeQuery_absorbs {text : String} {u : Url} (read : parse text = .ok u)
    (http : u.isHttp = true) {earlier later : Dict (List String)}
    (covers : Query.Covers later earlier) : u.Absorbs earlier later where
  same := mergeQuery_mergeQuery u covers
  text := congrArg Url.text (mergeQuery_mergeQuery u covers)
  several before all := congrArg Url.text (mergeQuery_foldl u before all)
  twice _ := congrArg Url.text (mergeQuery_mergeQuery u fun _ declares => declares)
  kept := by
    intro piece listed free
    rw [mergeQuery_mergeQuery u covers]
    cases size : later.isEmpty with
    | true =>
      rw [mergeQuery_of_isEmpty size]
      exact listed
    | false =>
      rw [toList_query_mergeQuery size, Query.written_merge]
      exact List.mem_append_left _ (List.mem_filter.2 ⟨listed, by simp [free]⟩)
  clean q here := Percent.encode_of_stands
    (((isClean_of_parse read http).mergeQuery earlier).query q here)

/-- Keys in two spellings and an escape that is none, an empty piece, and a key alone. -/
def untidy : Url :=
  ⟨"http", some loopback, .segments ["list"], some "%C3%A9+x=1&b=%zz&&c&%61=2", some "end"⟩

/-- A key with a blank and a letter beyond ASCII. Its value has all that parts pairs. -/
def drafted : Dict (List String) := .ofList [("é x", ["&=+%\"", ""]), ("a", [])]

/-- The keys of `drafted` and one more, with no value for the first. -/
def settled : Dict (List String) := .ofList [("é x", []), ("a", ["☃"]), ("c", ["d e"])]

/-- The earlier values are in the query in between, and not after both. -/
theorem mergeQuery_absorbs_untidy :
    parse "http://[::1]/list?%C3%A9+x=1&b=%zz&&c&%61=2#end" = .ok untidy ∧ untidy.isHttp = true ∧
    Query.Covers settled drafted ∧ untidy.Absorbs drafted settled ∧
    (untidy.mergeQuery drafted).text =
      "http://[::1]/list?b=%zz&c&%C3%A9+x=%26%3D%2B%25%22&%C3%A9+x=#end" ∧
    ((untidy.mergeQuery drafted).mergeQuery settled).text =
      "http://[::1]/list?b=%zz&a=%E2%98%83&c=d+e#end" := by
  have read : parse "http://[::1]/list?%C3%A9+x=1&b=%zz&&c&%61=2#end" = .ok untidy :=
    eq_ok_of_toOption (by decide +kernel)
  have http : untidy.isHttp = true := by decide
  have covers : Query.Covers settled drafted := by
    intro key declares
    have listed : ∀ e ∈ drafted.entries, settled.contains e.1 = true := by decide
    obtain ⟨e, bound, same⟩ := List.any_eq_true.1 declares
    rw [← eq_of_beq same]
    exact listed e bound
  exact ⟨read, http, covers, mergeQuery_absorbs read http covers, by decide +kernel,
    by decide +kernel⟩

end Url

end Vigil

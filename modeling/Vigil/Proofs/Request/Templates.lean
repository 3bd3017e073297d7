import Vigil.Request.Building

/-!
# The texts that a request renders

A request is built from the URL, the body, the header values and the query values with their slots
filled in, and nothing else of a store goes into it (`build_congr`). The names of the slots of
these texts are its slot names (`mem_slotNames_iff`).
-/

set_option autoImplicit false

namespace Vigil

/-- A slot whose name has no value is rendered as it stands. -/
theorem Template.render_of_unknown {store : Store} {t n : String} {before after : List Piece}
    (unknown : store.get? n = none) (cut : pieces t = before ++ .slot n.toList :: after) :
    (render store t).toList =
      before.flatMap (fill store.get?) ++ spellSlot n.toList ++
        after.flatMap (fill store.get?) := by
  have here : fill store.get? (.slot n.toList) = spellSlot n.toList := by
    simp only [fill, String.ofList_toList, unknown]
  unfold render renderWith
  rw [String.toList_ofList, cut, List.flatMap_append, List.flatMap_cons, here, List.append_assoc]

theorem Template.renderDict_congr {store store' : Store} {d : Dict (List String)}
    (same : ∀ e ∈ d.entries, ∀ t ∈ e.2, render store t = render store' t) :
    renderDict store d = renderDict store' d := by
  apply Dict.ext
  apply List.map_congr_left
  intro e mem
  exact congrArg (Prod.mk e.1) (List.map_congr_left (same e mem))

namespace RequestSpec

/-- A text that is rendered when a request is built. -/
def Renders (s : RequestSpec) (t : String) : Prop :=
  t = s.url ∨ t = s.body ∨ (∃ e ∈ s.headers.entries, t ∈ e.2) ∨ ∃ e ∈ s.query.entries, t ∈ e.2

theorem mem_templates_iff {s : RequestSpec} {t : String} : t ∈ s.templates ↔ s.Renders t := by
  unfold templates Renders
  rw [List.mem_cons, List.mem_cons, List.mem_append]
  simp only [Dict.values, ← List.flatMap_def, List.mem_flatMap]

theorem mem_insertName {n x : String} {l : List String} :
    x ∈ insertName n l ↔ x = n ∨ x ∈ l := by
  induction l with
  | nil => simp [insertName]
  | cons m l ih =>
    unfold insertName
    split
    · exact List.mem_cons
    · split
      · next eq =>
        subst eq
        rw [List.mem_cons, or_self_left]
      · rw [List.mem_cons, List.mem_cons, ih, or_left_comm]

theorem mem_foldl_insertName {x : String} {ns l : List String} :
    x ∈ ns.foldl (fun l n => insertName n l) l ↔ x ∈ l ∨ x ∈ ns := by
  induction ns generalizing l with
  | nil => simp
  | cons n ns ih =>
    rw [List.foldl_cons, ih, mem_insertName, List.mem_cons, or_comm (a := x = n), or_assoc]

/-- The names of the slots of a request are those of the texts that are rendered. -/
theorem mem_slotNames_iff {s : RequestSpec} {n : String} :
    n ∈ s.slotNames ↔ ∃ t, s.Renders t ∧ n ∈ Template.names t := by
  unfold slotNames
  rw [mem_foldl_insertName, List.mem_flatMap]
  simp only [List.not_mem_nil, false_or, mem_templates_iff]

/-- The message of a request depends on a store only through the texts that are rendered. -/
theorem build_congr {s : RequestSpec} {store store' : Store}
    (same : ∀ t, s.Renders t → Template.render store t = Template.render store' t) :
    s.build store = s.build store' := by
  have query : Template.renderDict store s.query = Template.renderDict store' s.query := by
    apply Template.renderDict_congr
    intro e mem t value
    exact same t (.inr (.inr (.inr ⟨e, mem, value⟩)))
  have headers : Template.renderDict store s.headers = Template.renderDict store' s.headers := by
    apply Template.renderDict_congr
    intro e mem t value
    exact same t (.inr (.inr (.inl ⟨e, mem, value⟩)))
  unfold build renderUrl renderHeaders renderBody
  rw [query, headers, same s.url (.inl rfl), same s.body (.inr (.inl rfl))]

end RequestSpec

end Vigil

import Mathlib.Data.List.Basic
import Vigil.Proofs.Lookup
import Vigil.Proofs.Request.Templates

/-!
# What flows into a request

Of all variables only those that the templates of a request name have a say in the request. Two
stores that find the same values for these names give the same message, or the same failure
(`build_sealed`), and a value is never looked at for slots: it is rendered once and then it is text.
So a variable that no template names stays out, also where a value holds a slot for it or makes up
one with what is around it (`build_hushed`).
-/

set_option autoImplicit false

namespace Vigil

/-- A text is rendered the same by lookups that agree on the names of its slots. -/
theorem Template.renderWith_congr {lookup lookup' : String → Option String} {text : String}
    (agree : ∀ n ∈ names text, lookup n = lookup' n) :
    renderWith lookup text = renderWith lookup' text := by
  unfold renderWith
  apply congrArg
  apply List.flatMap_congr
  intro piece mem
  cases piece with
  | literal c => rfl
  | slot name =>
    have named : String.ofList name ∈ names text := List.mem_filterMap.2 ⟨_, mem, rfl⟩
    simp only [fill, agree _ named]

/-- What a name finds does not depend on a variable with another name, wherever that stands. -/
theorem Store.get?_of_ne {v : Variable} {n : String} (ne : v.name ≠ n)
    (before after : List Variable) :
    get? ⟨before ++ v :: after⟩ n = get? ⟨before ++ after⟩ n := by
  have absent : Variable.last? n [v] = none :=
    Variable.last?_eq_none_iff.2 fun u mem => List.mem_singleton.1 mem ▸ ne
  simp only [get?_eq_last?, List.append_cons before v after, Variable.last?_append, absent,
    Option.none_or]

namespace RequestSpec

/-- Nothing flows into a request but the values of the names in its templates. -/
structure Sealed (s : RequestSpec) : Prop where
  /-- Stores that find the same for each name in the templates give the same message, or the same
  failure. -/
  agree : ∀ store store' : Store, (∀ n ∈ s.slotNames, store.get? n = store'.get? n) →
    s.build store = s.build store'
  /-- A variable with any other name makes no difference, wherever in a store it stands and
  whatever the values of the others are. -/
  hidden : ∀ v : Variable, v.name ∉ s.slotNames → ∀ before after : List Variable,
    s.build ⟨before ++ v :: after⟩ = s.build ⟨before ++ after⟩

/-- **No hidden flow** into a request. -/
theorem build_sealed (s : RequestSpec) : s.Sealed := by
  have agree : ∀ store store' : Store, (∀ n ∈ s.slotNames, store.get? n = store'.get? n) →
      s.build store = s.build store' := by
    intro store store' same
    apply build_congr
    intro t renders
    apply Template.renderWith_congr
    intro n slot
    exact same n (mem_slotNames_iff.2 ⟨t, renders, slot⟩)
  constructor
  case agree => exact agree
  case hidden =>
    intro v unnamed before after
    apply agree
    intro n named
    apply Store.get?_of_ne
    rintro rfl
    exact unnamed named

/-- A request whose body is a slot between braces. -/
def braced : RequestSpec where
  name := "braced"
  url := "http://[::1]/"
  body := "\x7b\x7b\x7ba\x7d\x7d\x7d"

/-- The value of the slot makes up a slot for another variable with the braces around it, and holds
one as well. Both are sent as they stand, whatever the value of that variable is. -/
theorem build_hushed :
    braced.slotNames = ["a"] ∧
    (braced.build ⟨[.provided "b" "secret", .extracted "a" "\x7bb\x7d\x7b\x7bb\x7d"]⟩).toOption.bind
      (·.body) = some "\x7b\x7bb\x7d\x7b\x7bb\x7d\x7d" ∧
    braced.build ⟨[.provided "b" "secret", .extracted "a" "\x7bb\x7d\x7b\x7bb\x7d"]⟩ =
      braced.build ⟨[.provided "b" "public", .extracted "a" "\x7bb\x7d\x7b\x7bb\x7d"]⟩ := by
  have names : braced.slotNames = ["a"] := by decide +kernel
  refine ⟨names, by decide +kernel, (build_sealed braced).agree _ _ ?_⟩
  intro n named
  rw [names, List.mem_singleton] at named
  subst named
  decide +kernel

end RequestSpec

end Vigil

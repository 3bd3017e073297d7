import Vigil.Chain.Tick

/-!
# Which variable a name finds

A store is searched from its end. `Variable.last?` does that on any list of variables, so that
what a longer store finds is said in terms of its parts (`last?_append`). A store that a run
starts with finds the monitor's own variables before the built-in ones (`get?_seed`).
-/

set_option autoImplicit false

namespace Vigil

namespace Variable

/-- The value of the last variable called `name`. -/
def last? (name : String) (vs : List Variable) : Option String :=
  (vs.reverse.find? fun v => v.name == name).map (·.value)

@[simp] theorem last?_nil (name : String) : last? name [] = none := rfl

theorem last?_append (name : String) (vs ws : List Variable) :
    last? name (vs ++ ws) = (last? name ws).or (last? name vs) := by
  unfold last?
  rw [List.reverse_append, List.find?_append]
  cases ws.reverse.find? fun v => v.name == name <;> rfl

theorem last?_eq_none_iff {name : String} {vs : List Variable} :
    last? name vs = none ↔ ∀ v ∈ vs, v.name ≠ name := by
  simp [last?]

theorem last?_isSome_iff {name : String} {vs : List Variable} :
    (last? name vs).isSome ↔ ∃ v ∈ vs, v.name = name := by
  simp [last?]

/-- What a list of variables from a dictionary finds is what the dictionary binds. No key
occurs twice, so the direction of the search does not matter. -/
theorem last?_provided (name : String) {es : List (String × String)}
    (ascending : es.Pairwise fun a b => a.1 < b.1) :
    last? name (es.map fun e => provided e.1 e.2) =
      (es.find? fun e => e.1 == name).map (·.2) := by
  induction es with
  | nil => rfl
  | cons e es ih =>
    obtain ⟨above, rest⟩ := List.pairwise_cons.1 ascending
    rw [List.map_cons, ← List.singleton_append, last?_append, ih rest]
    by_cases here : e.1 = name
    · have free : es.find? (fun e => e.1 == name) = none := by
        apply List.find?_eq_none.2
        intro x hx
        have lt := above x hx
        rw [here] at lt
        simpa using (String.ne_of_lt lt).symm
      simp [free, last?, provided, here]
    · have skip : (e.1 == name) = false := beq_eq_false_iff_ne.2 here
      simp [skip, last?, provided]

end Variable

/-- The value of the built-in variable called `name`. -/
def Builtins.get? (b : Builtins) (name : String) : Option String :=
  if name = "random-8" then some b.random
  else if name = "run-id" then some b.runId
  else none

namespace Store

@[simp] theorem toList_extend (s : Store) (vs : List Variable) :
    (s.extend vs).toList = s.toList ++ vs := rfl

theorem get?_eq_last? (s : Store) (name : String) : s.get? name = Variable.last? name s.toList :=
  rfl

theorem extractedCount_extend (s : Store) (vs : List Variable) :
    (s.extend vs).extractedCount =
      s.extractedCount + vs.countP fun v => v.origin == .extracted := by
  simp [extractedCount]

theorem extend_extend (s : Store) (vs ws : List Variable) :
    (s.extend vs).extend ws = s.extend (vs ++ ws) := by
  simp [extend]

/-- The store that a run starts with finds the monitor's own variables, and then the built-in
ones. -/
theorem get?_seed (b : Builtins) (d : Dict String) (name : String) :
    (seed b d).get? name = (d.get? name).or (b.get? name) := by
  have parts : (seed b d).toList =
      [.provided "random-8" b.random, .provided "run-id" b.runId] ++
        d.entries.map fun e => .provided e.1 e.2 := rfl
  have builtin : Variable.last? name
      [.provided "random-8" b.random, .provided "run-id" b.runId] = b.get? name := by
    unfold Builtins.get?
    by_cases hr : name = "random-8"
    · subst hr
      rfl
    · by_cases hi : name = "run-id"
      · subst hi
        rfl
      · have skipRandom : ("random-8" == name) = false := beq_eq_false_iff_ne.2 (Ne.symm hr)
        have skipRunId : ("run-id" == name) = false := beq_eq_false_iff_ne.2 (Ne.symm hi)
        simp [Variable.last?, Variable.provided, hr, hi, skipRandom, skipRunId]
  rw [get?_eq_last?, parts, Variable.last?_append, Variable.last?_provided name d.ascending,
    builtin]
  rfl

end Store

end Vigil

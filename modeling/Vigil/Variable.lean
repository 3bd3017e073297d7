/-!
# Variables and the store of a run

A store is the list of the variables of one run, oldest first. It only grows, and when two
variables share a name the later one is found (`get?_push`).
-/

set_option autoImplicit false

namespace Vigil

/-- Where the value of a variable came from. -/
inductive Origin where
  /-- Built in, or given by the monitor's definition. -/
  | provided
  /-- Taken out of a response. -/
  | extracted
  deriving DecidableEq, Repr, Inhabited

/-- A named text. -/
structure Variable where
  name : String
  origin : Origin
  value : String
  deriving DecidableEq, Repr, Inhabited

namespace Variable

/-- A variable that was there before the run. -/
def provided (name value : String) : Variable := ⟨name, .provided, value⟩

/-- A variable taken out of a response. -/
def extracted (name value : String) : Variable := ⟨name, .extracted, value⟩

end Variable

/-- The variables of one run, oldest first. -/
structure Store where
  toList : List Variable
  deriving DecidableEq, Repr, Inhabited

namespace Store

/-- The store without variables. -/
def empty : Store := ⟨[]⟩

/-- Adds one variable. -/
def push (s : Store) (v : Variable) : Store := ⟨s.toList ++ [v]⟩

/-- Adds variables in order. -/
def extend (s : Store) (vs : List Variable) : Store := ⟨s.toList ++ vs⟩

/-- The value of the last variable called `name`. -/
def get? (s : Store) (name : String) : Option String :=
  (s.toList.reverse.find? fun v => v.name == name).map (·.value)

/-- The number of variables. -/
def size (s : Store) : Nat := s.toList.length

/-- Whether there are no variables. -/
def isEmpty (s : Store) : Bool := s.toList.isEmpty

/-- The number of variables taken out of responses. -/
def extractedCount (s : Store) : Nat :=
  s.toList.countP fun v => v.origin == .extracted

theorem get?_push (s : Store) (v : Variable) (name : String) :
    (s.push v).get? name = if v.name = name then some v.value else s.get? name := by
  simp only [get?, push, List.reverse_append, List.reverse_cons, List.reverse_nil, List.nil_append,
    List.singleton_append, List.find?_cons]
  by_cases h : v.name = name
  · simp [h]
  · simp [beq_eq_false_iff_ne.2 h, h]

@[simp] theorem extend_nil (s : Store) : s.extend [] = s := by simp [extend]

theorem extend_cons (s : Store) (v : Variable) (vs : List Variable) :
    s.extend (v :: vs) = (s.push v).extend vs := by simp [extend, push]

@[simp] theorem size_push (s : Store) (v : Variable) : (s.push v).size = s.size + 1 := by
  simp [size, push]

end Store

end Vigil

/-!
# Dictionaries in key order

`Dict α` is a finite map from texts to `α` kept as its list of entries with strictly
ascending keys, so two dictionaries with the same bindings are the same value. Keys are
compared by code point, which is also the order of their UTF-8 bytes. Writing a key that is
already bound replaces its value (`get?_insert`); iteration is in key order.
-/

set_option autoImplicit false

namespace Vigil

/-- A finite map with text keys, as its entries in strictly ascending key order. -/
structure Dict (α : Type) where
  entries : List (String × α)
  ascending : entries.Pairwise (fun a b => a.1 < b.1)

namespace Dict

variable {α β : Type}

instance [BEq α] : BEq (Dict α) := ⟨fun a b => a.entries == b.entries⟩

instance [DecidableEq α] : DecidableEq (Dict α) := fun a b =>
  if h : a.entries = b.entries then
    isTrue (by cases a; cases b; cases h; rfl)
  else
    isFalse fun e => h (by rw [e])

theorem ext {a b : Dict α} (h : a.entries = b.entries) : a = b := by
  cases a; cases b; cases h; rfl

/-- The dictionary without bindings. -/
def empty : Dict α := ⟨[], .nil⟩

instance : EmptyCollection (Dict α) := ⟨empty⟩

instance : Inhabited (Dict α) := ⟨empty⟩

/-- The entries after binding `k` to `v`, in place when `k` is bound already. -/
def insertEntry (k : String) (v : α) : List (String × α) → List (String × α)
  | [] => [(k, v)]
  | e :: r =>
    if k < e.1 then (k, v) :: e :: r
    else if k = e.1 then (k, v) :: r
    else e :: insertEntry k v r

theorem mem_insertEntry {k : String} {v : α} {es : List (String × α)} {e : String × α}
    (h : e ∈ insertEntry k v es) : e = (k, v) ∨ e ∈ es := by
  induction es with
  | nil => simpa [insertEntry] using h
  | cons x r ih =>
    unfold insertEntry at h
    split at h
    · simpa using h
    · split at h
      · rcases List.mem_cons.1 h with h | h
        · exact .inl h
        · exact .inr (List.mem_cons_of_mem _ h)
      · rcases List.mem_cons.1 h with h | h
        · exact .inr (h ▸ List.mem_cons_self)
        · exact (ih h).imp id (List.mem_cons_of_mem _)

theorem lt_of_not_lt_of_ne {a b : String} (h : ¬ a < b) (hne : a ≠ b) : b < a := by
  have hle : b ≤ a := String.not_lt.1 h
  exact Decidable.byContradiction fun hb => hne (String.le_antisymm (String.not_lt.1 hb) hle)

theorem ascending_insertEntry (k : String) (v : α) {es : List (String × α)}
    (h : es.Pairwise (fun a b => a.1 < b.1)) :
    (insertEntry k v es).Pairwise (fun a b => a.1 < b.1) := by
  induction es with
  | nil => simp [insertEntry]
  | cons x r ih =>
    obtain ⟨hx, hr⟩ := List.pairwise_cons.1 h
    unfold insertEntry
    split
    · next hlt =>
      refine List.pairwise_cons.2 ⟨fun e he => ?_, h⟩
      rcases List.mem_cons.1 he with rfl | he
      · exact hlt
      · exact String.lt_trans hlt (hx e he)
    · next hlt =>
      split
      · next heq =>
        exact List.pairwise_cons.2 ⟨fun e he => heq ▸ hx e he, hr⟩
      · next hne =>
        refine List.pairwise_cons.2 ⟨fun e he => ?_, ih hr⟩
        rcases mem_insertEntry he with rfl | he
        · exact lt_of_not_lt_of_ne hlt hne
        · exact hx e he

/-- Binds `k` to `v`, replacing what `k` was bound to. -/
def insert (d : Dict α) (k : String) (v : α) : Dict α :=
  ⟨insertEntry k v d.entries, ascending_insertEntry k v d.ascending⟩

/-- The value bound to `k`. -/
def get? (d : Dict α) (k : String) : Option α :=
  (d.entries.find? fun e => e.1 == k).map (·.2)

theorem find?_insertEntry (k : String) (v : α) (es : List (String × α)) (n : String) :
    (insertEntry k v es).find? (fun e => e.1 == n) =
      if k = n then some (k, v) else es.find? fun e => e.1 == n := by
  induction es with
  | nil => by_cases here : k = n <;> simp [insertEntry, here]
  | cons e r ih =>
    unfold insertEntry
    split
    · by_cases here : k = n <;> simp [here]
    · split
      · next same =>
        by_cases here : k = n
        · simp [here]
        · have skip : (e.1 == n) = false := by simpa [← same] using here
          simp [here, skip]
      · next other =>
        rw [List.find?_cons, List.find?_cons, ih]
        by_cases here : k = n
        · have skip : (e.1 == n) = false := by simpa [← here] using Ne.symm other
          simp [here, skip]
        · simp [here]

theorem get?_insert (d : Dict α) (k : String) (v : α) (n : String) :
    (d.insert k v).get? n = if k = n then some v else d.get? n := by
  unfold get? insert
  rw [find?_insertEntry]
  split <;> rfl

/-- Whether `k` is bound. -/
def contains (d : Dict α) (k : String) : Bool :=
  d.entries.any fun e => e.1 == k

/-- The keys, ascending. -/
def keys (d : Dict α) : List String := d.entries.map (·.1)

/-- The values in key order. -/
def values (d : Dict α) : List α := d.entries.map (·.2)

/-- Whether there are no bindings. -/
def isEmpty (d : Dict α) : Bool := d.entries.isEmpty

/-- Applies `f` to every value. -/
def mapValues (f : α → β) (d : Dict α) : Dict β :=
  ⟨d.entries.map fun e => (e.1, f e.2), List.pairwise_map.2 d.ascending⟩

/-- The dictionary of a list of bindings, the last of several for one key counting. -/
def ofList (es : List (String × α)) : Dict α :=
  es.foldl (fun d e => d.insert e.1 e.2) empty

/-- Adds `v` at the end of the list bound to `k`, starting a list when `k` is free. -/
def append (d : Dict (List α)) (k : String) (v : α) : Dict (List α) :=
  d.insert k ((d.get? k).getD [] ++ [v])

end Dict

end Vigil

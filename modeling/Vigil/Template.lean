import Vigil.Ordered.Dict
import Vigil.Variable

/-!
# Templates

A template is a text with slots: two opening braces, a name, two closing braces. A name is a
non-empty run of characters other than braces, and a slot is taken wherever one begins first
from the left. `Template.pieces` cuts a text into literal characters and slots; nothing is
lost (`spell_pieces`). Rendering writes the value of each slot that a store has a value for and
leaves every other slot as it stands; what is written is not looked at again.
-/

set_option autoImplicit false

namespace Vigil

/-- One literal character of a template, or one slot. -/
inductive Piece where
  | literal (c : Char)
  | slot (name : List Char)
  deriving DecidableEq, Repr

namespace Template

/-- Characters that a slot's name may hold. -/
def isNameChar (c : Char) : Bool := !(c == '{' || c == '}')

/-- The name of the slot that the text begins with, and what follows the slot. -/
def slotAt? : List Char → Option (List Char × List Char)
  | '{' :: '{' :: s =>
    match s.dropWhile isNameChar with
    | '}' :: '}' :: rest =>
      if (s.takeWhile isNameChar).isEmpty then none else some (s.takeWhile isNameChar, rest)
    | _ => none
  | _ => none

/-- The characters of a slot. -/
def spellSlot (name : List Char) : List Char := '{' :: '{' :: (name ++ ['}', '}'])

theorem eq_spellSlot_of_slotAt? {s name rest : List Char} (h : slotAt? s = some (name, rest)) :
    s = spellSlot name ++ rest := by
  unfold slotAt? at h
  split at h
  · next t =>
    split at h
    · next r hr =>
      split at h
      · cases h
      · cases h
        have := List.takeWhile_append_dropWhile (p := isNameChar) (l := t)
        rw [hr] at this
        simp [spellSlot, this]
    · cases h
  · cases h

theorem length_lt_of_slotAt? {s name rest : List Char} (h : slotAt? s = some (name, rest)) :
    rest.length < s.length := by
  rw [eq_spellSlot_of_slotAt? h]
  simp [spellSlot]
  omega

/-- Cuts a text into literal characters and slots, from left to right. -/
def cut (s : List Char) : List Piece :=
  match h : slotAt? s with
  | some (name, rest) =>
    have := length_lt_of_slotAt? h
    .slot name :: cut rest
  | none =>
    match s with
    | [] => []
    | c :: r => .literal c :: cut r
termination_by s.length

/-- The characters that a piece stands for when nothing is filled in. -/
def spell : Piece → List Char
  | .literal c => [c]
  | .slot name => spellSlot name

theorem spell_cut (s : List Char) : (cut s).flatMap spell = s := by
  induction s using cut.induct with
  | case1 s name rest h hlt ih =>
    rw [cut.eq_def]
    split
    · next n r h' =>
      rw [h] at h'
      cases h'
      simp [spell, ih, eq_spellSlot_of_slotAt? h]
    · next h' => simp [h] at h'
  | case2 h =>
    rw [cut.eq_def]
    split
    · next n r h' => simp [slotAt?] at h'
    · rfl
  | case3 c r h ih =>
    rw [cut.eq_def]
    split
    · next n r' h' => simp [h] at h'
    · simp [spell, ih]

/-- The pieces of a text. -/
def pieces (text : String) : List Piece := cut text.toList

/-- The characters of a piece with the values of `lookup` filled in. -/
def fill (lookup : String → Option String) : Piece → List Char
  | .literal c => [c]
  | .slot name =>
    match lookup (String.ofList name) with
    | some value => value.toList
    | none => spellSlot name

/-- The text with every slot that `lookup` knows replaced by its value. -/
def renderWith (lookup : String → Option String) (text : String) : String :=
  String.ofList ((pieces text).flatMap (fill lookup))

/-- The text with every slot that the store has a value for replaced by that value. -/
def render (store : Store) (text : String) : String :=
  renderWith store.get? text

/-- Renders every text of every key. -/
def renderDict (store : Store) (d : Dict (List String)) : Dict (List String) :=
  d.mapValues fun texts => texts.map (render store)

/-- The slot name of a piece. -/
def slotName? : Piece → Option String
  | .literal _ => none
  | .slot name => some (String.ofList name)

/-- The names of the slots, in order and with repetitions. -/
def names (text : String) : List String :=
  (pieces text).filterMap slotName?

end Template

end Vigil

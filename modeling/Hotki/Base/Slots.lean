import Mathlib.Data.List.Basic
import Mathlib.Data.List.MinMax
import Mathlib.Order.Basic

/-! Slots that keep one value of each kind, and are emptied in the order of the values. -/

namespace Base

/-- The latest value of each kind, where there is one. -/
structure Slots (Kind Value : Type*) where
  slot : Kind → Option Value := fun _ => none

namespace Slots

variable {Kind Value : Type*} [DecidableEq Kind]

/-- Replaces what one slot holds. -/
def set (slots : Slots Kind Value) (kind : Kind) (value : Option Value) : Slots Kind Value where
  slot := Function.update slots.slot kind value

variable (kinds : List Kind) (position : Value → Nat)

/-- The first position among the values of some kinds. -/
def next (slots : Slots Kind Value) : Option Nat :=
  ((kinds.filterMap slots.slot).map position).min?

/-- Empties the slot of the value at a position. -/
def take (slots : Slots Kind Value) (place : Nat) : Option (Value × Slots Kind Value) :=
  let found := kinds.find? fun kind => (slots.slot kind).any fun value => position value == place
  found.bind fun kind => (slots.slot kind).map fun value => (value, slots.set kind none)

/-- A slot that was set holds what it was set to. -/
@[simp]
theorem set_self (slots : Slots Kind Value) (kind : Kind) (value : Option Value) :
    (slots.set kind value).slot kind = value := by
  simp [set]

/-- Setting one slot leaves the others alone. -/
theorem set_of_ne {slots : Slots Kind Value} {kind other : Kind} (different : other ≠ kind)
    (value : Option Value) : (slots.set kind value).slot other = slots.slot other := by
  simp [set, different]

/-- A slot holds after an update what was put there, or what it held before. -/
theorem set_cases {slots : Slots Kind Value} {kind other : Kind} {value : Option Value}
    {held : Value} (holds : (slots.set kind value).slot other = some held) :
    (other = kind ∧ value = some held) ∨ (other ≠ kind ∧ slots.slot other = some held) := by
  by_cases same : other = kind
  · subst same
    rw [set_self] at holds
    exact .inl ⟨rfl, holds⟩
  · rw [set_of_ne same] at holds
    exact .inr ⟨same, holds⟩

variable {kinds position}

omit [DecidableEq Kind] in
/-- No position is first only when every slot is empty. -/
theorem next_eq_none (complete : ∀ kind, kind ∈ kinds) {slots : Slots Kind Value}
    (absent : slots.next kinds position = none) (kind : Kind) : slots.slot kind = none := by
  simp only [next, List.min?_eq_none_iff, List.map_eq_nil_iff] at absent
  cases held : slots.slot kind with
  | none => rfl
  | some value =>
    have member : value ∈ kinds.filterMap slots.slot :=
      List.mem_filterMap.mpr ⟨kind, complete kind, held⟩
    rw [absent] at member
    cases member

omit [DecidableEq Kind] in
/-- The first position is that of some value. -/
theorem next_mem {slots : Slots Kind Value} {place : Nat}
    (first : slots.next kinds position = some place) :
    ∃ kind value, slots.slot kind = some value ∧ position value = place := by
  obtain ⟨value, listed, same⟩ := List.mem_map.mp (List.min?_eq_some_iff.mp first).1
  obtain ⟨kind, _, held⟩ := List.mem_filterMap.mp listed
  exact ⟨kind, value, held, same⟩

omit [DecidableEq Kind] in
/-- No value in a slot comes before the first position. -/
theorem next_eq_some (complete : ∀ kind, kind ∈ kinds) {slots : Slots Kind Value} {place : Nat}
    (first : slots.next kinds position = some place) {kind : Kind} {value : Value}
    (held : slots.slot kind = some value) : place ≤ position value := by
  have least := (List.min?_eq_some_iff.mp first).2
  apply least
  exact List.mem_map_of_mem (List.mem_filterMap.mpr ⟨kind, complete kind, held⟩)

/-- A value that was taken was in the slot that is empty afterwards. -/
theorem take_eq_some {slots left : Slots Kind Value} {place : Nat} {value : Value}
    (taken : slots.take kinds position place = some (value, left)) :
    ∃ kind, slots.slot kind = some value ∧ position value = place ∧ left = slots.set kind none := by
  simp only [take, Option.bind_eq_some_iff, Option.map_eq_some_iff, Prod.mk.injEq] at taken
  obtain ⟨kind, found, other, held, rfl, rfl⟩ := taken
  have matching := List.find?_some found
  exact ⟨kind, held, by simpa [held] using matching, rfl⟩

/-- A value can be taken at its position. -/
theorem take_ne_none (complete : ∀ kind, kind ∈ kinds) {slots : Slots Kind Value} {kind : Kind}
    {value : Value} (held : slots.slot kind = some value) :
    slots.take kinds position (position value) ≠ none := by
  intro absent
  simp only [take, Option.bind_eq_none_iff, Option.map_eq_none_iff] at absent
  cases found : kinds.find? (fun kind =>
      (slots.slot kind).any fun other => position other == position value) with
  | none =>
    have missed := List.find?_eq_none.mp found kind (complete kind)
    simp [held] at missed
  | some other =>
    have matching := List.find?_some found
    simp [absent other found] at matching

end Slots

end Base

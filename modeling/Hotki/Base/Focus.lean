import Mathlib.Data.List.Basic

/-! One element of a list, between the elements before it and the elements after it. -/

namespace Base

variable {Item Other : Type*}

/-- A present element splits its list at its position. -/
theorem exists_focus {items : List Item} {index : Nat} {item : Item}
    (found : items[index]? = some item) :
    ∃ left right, items = left ++ item :: right ∧ left.length = index := by
  obtain ⟨inside, same⟩ := List.getElem?_eq_some_iff.mp found
  refine ⟨items.take index, items.drop (index + 1), ?_, List.length_take_of_le (Nat.le_of_lt inside)⟩
  rw [← same, ← List.drop_eq_getElem_cons inside, List.take_append_drop]

/-- Changing the focused element leaves both sides alone. -/
theorem modify_focus (left right : List Item) (item : Item) (change : Item → Item) :
    (left ++ item :: right).modify left.length change = left ++ change item :: right := by
  induction left with
  | nil => rfl
  | cons head rest ih => simp [List.modify_succ_cons, ih]

/-- An element on the left of the focus sits at a smaller position. -/
theorem exists_lt_of_mem_left {left : List Item} (right : List Item) (item : Item) {other : Item}
    (member : other ∈ left) :
    ∃ index < left.length, (left ++ item :: right)[index]? = some other := by
  obtain ⟨index, inside, same⟩ := List.getElem_of_mem member
  exact ⟨index, inside, by rw [List.getElem?_append_left inside, List.getElem?_eq_getElem inside,
    same]⟩

/-- An element on the right of the focus sits at a greater position. -/
theorem exists_gt_of_mem_right (left : List Item) {right : List Item} (item : Item) {other : Item}
    (member : other ∈ right) :
    ∃ index > left.length, (left ++ item :: right)[index]? = some other := by
  obtain ⟨index, inside, same⟩ := List.getElem_of_mem member
  refine ⟨left.length + 1 + index, by omega, ?_⟩
  rw [List.getElem?_append_right (by omega),
    show left.length + 1 + index - left.length = index + 1 by omega, List.getElem?_cons_succ,
    List.getElem?_eq_getElem inside, same]

/-- Mapping to lists without contribution on the right ends with the focused contribution. -/
theorem flatMap_focus_of_right {left right : List Item} {item : Item} {part : Item → List Other}
    (silent : ∀ other ∈ right, part other = []) :
    (left ++ item :: right).flatMap part = left.flatMap part ++ part item := by
  rw [List.flatMap_append, List.flatMap_cons, List.flatMap_eq_nil_iff.mpr silent, List.append_nil]

end Base

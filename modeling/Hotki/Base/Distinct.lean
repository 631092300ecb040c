import Mathlib.Data.List.Destutter

/-! The distinct members of a list, by sorting it and dropping what repeats its neighbour. -/

namespace Base

variable {Member : Type} [DecidableEq Member]

/-- Dropping repetitions of neighbours drops no member. -/
theorem mem_destutter' (members : List Member) (first member : Member) :
    member ∈ members.destutter' (· ≠ ·) first ↔ member = first ∨ member ∈ members := by
  induction members generalizing first with
  | nil => simp
  | cons next rest ih =>
    by_cases same : first = next
    · -- The neighbour is dropped, being the same.
      subst same
      rw [List.destutter'_cons_neg _ (fun differs => differs rfl), ih]
      simp
    · rw [List.destutter'_cons_pos _ same, List.mem_cons, ih, List.mem_cons]

variable [LE Member] [Std.IsLinearOrder Member]

/-- In ascending order equal members are neighbours, so each is left once. -/
theorem nodup_destutter' {members : List Member} {first : Member}
    (ascending : (first :: members).Pairwise (· ≤ ·)) :
    (members.destutter' (· ≠ ·) first).Nodup := by
  induction members generalizing first with
  | nil => exact List.nodup_singleton first
  | cons next rest ih =>
    obtain ⟨least, ascendingRest⟩ := List.pairwise_cons.mp ascending
    by_cases same : first = next
    · subst same
      rw [List.destutter'_cons_neg _ (fun differs => differs rfl)]
      exact ih ascendingRest
    · rw [List.destutter'_cons_pos _ same]
      refine List.nodup_cons.mpr ⟨fun again => ?_, ih ascendingRest⟩
      -- What comes later is at least the next member, which is above the first.
      have atMost : next ≤ first := by
        rcases (mem_destutter' rest next first).mp again with equal | later
        · exact absurd equal same
        · exact (List.pairwise_cons.mp ascendingRest).1 first later
      exact same (Std.le_antisymm (least next List.mem_cons_self) atMost)

variable [DecidableLE Member]

/-- A list in ascending order. -/
def ascendingSort (members : List Member) : List Member :=
  members.mergeSort fun left right => decide (left ≤ right)

/-- The members of a list in ascending order, each once. -/
def sortedDistinct (members : List Member) : List Member :=
  (ascendingSort members).destutter (· ≠ ·)

omit [DecidableEq Member] in
/-- Sorting puts a list in ascending order. -/
theorem pairwise_ascendingSort (members : List Member) :
    (ascendingSort members).Pairwise (· ≤ ·) := by
  -- The order that is sorted by is transitive and total.
  have sorted : (ascendingSort members).Pairwise fun left right => decide (left ≤ right) := by
    apply List.pairwise_mergeSort
    · intro left middle right below above
      exact decide_eq_true (Std.le_trans (of_decide_eq_true below) (of_decide_eq_true above))
    · intro left right
      rw [Bool.or_eq_true, decide_eq_true_iff, decide_eq_true_iff]
      exact Std.le_total
  exact sorted.imp of_decide_eq_true

omit [Std.IsLinearOrder Member] in
/-- No member is lost or added. -/
@[simp] theorem mem_sortedDistinct {members : List Member} {member : Member} :
    member ∈ sortedDistinct members ↔ member ∈ members := by
  -- Sorting keeps the members, and only repetitions are dropped.
  have sorted : member ∈ ascendingSort members ↔ member ∈ members := List.mem_mergeSort
  rw [← sorted]
  unfold sortedDistinct
  cases ascendingSort members with
  | nil => rfl
  | cons first rest => rw [List.destutter_cons', mem_destutter', List.mem_cons]

/-- Each member is there once. -/
theorem nodup_sortedDistinct (members : List Member) : (sortedDistinct members).Nodup := by
  have ascending := pairwise_ascendingSort members
  unfold sortedDistinct
  generalize ascendingSort members = sorted at ascending
  cases sorted with
  | nil => exact List.nodup_nil
  | cons first rest => exact nodup_destutter' ascending

end Base

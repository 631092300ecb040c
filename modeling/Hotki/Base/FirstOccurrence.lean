import Mathlib.Data.Finset.Insert

/-! The first items of a list with each key, and the later items that repeat a key. -/

namespace Base

variable {Item Key : Type*} [DecidableEq Key] (key : Item → Key)

/-- The items whose key has not been seen before them. -/
def firstsFrom : Finset Key → List Item → List Item
  | _, [] => []
  | seen, item :: rest =>
    if key item ∈ seen then firstsFrom seen rest
    else item :: firstsFrom (insert (key item) seen) rest

/-- The first item of each key, in order. -/
def firsts (items : List Item) : List Item := firstsFrom key ∅ items

/-- The items whose key has been seen before them. -/
def repeatsFrom : Finset Key → List Item → List Item
  | _, [] => []
  | seen, item :: rest =>
    if key item ∈ seen then item :: repeatsFrom seen rest
    else repeatsFrom (insert (key item) seen) rest

/-- The items that repeat the key of an earlier one, in order. -/
def repeats (items : List Item) : List Item := repeatsFrom key ∅ items

variable {key}

/-- Kept items come from the list and have unseen keys. -/
theorem mem_of_mem_firstsFrom {seen : Finset Key} {items : List Item} {item : Item}
    (kept : item ∈ firstsFrom key seen items) : item ∈ items ∧ key item ∉ seen := by
  -- The induction is on the list; an item is kept only if its key is not among those seen.
  induction items generalizing seen with
  | nil => cases kept
  | cons head rest ih =>
    unfold firstsFrom at kept
    split at kept
    · obtain ⟨listed, unseen⟩ := ih kept
      exact ⟨List.mem_cons_of_mem head listed, unseen⟩
    · rename_i fresh
      rcases List.mem_cons.mp kept with same | later
      · subst same
        exact ⟨List.mem_cons_self, fresh⟩
      · obtain ⟨listed, unseen⟩ := ih later
        exact ⟨List.mem_cons_of_mem head listed, fun member =>
          unseen (Finset.mem_insert_of_mem member)⟩

/-- No two kept items share a key. -/
theorem nodup_map_firstsFrom (seen : Finset Key) (items : List Item) :
    ((firstsFrom key seen items).map key).Nodup := by
  -- The induction is on the list; the key of a kept item is seen from then on.
  induction items generalizing seen with
  | nil => exact List.nodup_nil
  | cons head rest ih =>
    unfold firstsFrom
    split
    · exact ih seen
    · -- The items kept after the first one all have other keys.
      rw [List.map_cons, List.nodup_cons]
      refine ⟨fun repeated => ?_, ih _⟩
      obtain ⟨item, kept, same⟩ := List.mem_map.mp repeated
      exact (mem_of_mem_firstsFrom kept).2 (same ▸ Finset.mem_insert_self ..)

/-- The first items of a list have pairwise different keys. -/
theorem nodup_map_firsts (items : List Item) : ((firsts key items).map key).Nodup :=
  nodup_map_firstsFrom ∅ items

/-- Looking a key up among the kept items finds the first item of the list with that key. -/
theorem find?_firstsFrom (seen : Finset Key) (items : List Item) {wanted : Key}
    (unseen : wanted ∉ seen) :
    ((firstsFrom key seen items).find? fun item => key item == wanted) =
      items.find? fun item => key item == wanted := by
  induction items generalizing seen with
  | nil => rfl
  | cons head rest ih =>
    unfold firstsFrom
    by_cases same : key head = wanted
    · -- The wanted key is new, so its first item is kept.
      subst same
      rw [if_neg unseen]
      simp
    · have other : (key head == wanted) = false := beq_eq_false_iff_ne.mpr same
      split
      · rw [ih seen unseen, List.find?_cons, other]
      · rw [List.find?_cons, other, List.find?_cons, other]
        apply ih
        simp [unseen, Ne.symm same]

/-- Looking a key up among the first items finds the first item of the list with that key. -/
theorem find?_firsts (items : List Item) (wanted : Key) :
    ((firsts key items).find? fun item => key item == wanted) =
      items.find? fun item => key item == wanted :=
  find?_firstsFrom ∅ items (Finset.notMem_empty wanted)

/-- The first items have all the keys of the list. -/
theorem mem_map_firsts {items : List Item} {wanted : Key} :
    wanted ∈ (firsts key items).map key ↔ wanted ∈ items.map key := by
  -- A key is listed when looking it up finds something, which is so in both lists.
  have found : ∀ list : List Item,
      wanted ∈ list.map key ↔ (list.find? fun item => key item == wanted).isSome := by
    intro list
    simp [List.find?_isSome]
  rw [found, found, find?_firsts]

/-- Without an item there is no first one, and conversely. -/
theorem firsts_eq_nil {items : List Item} : firsts key items = [] ↔ items = [] := by
  cases items with
  | nil => simp [firsts, firstsFrom]
  | cons head rest => simp [firsts, firstsFrom]

/-- Mapping items without touching their keys keeps the images of the same items. -/
theorem firstsFrom_map {Image : Type*} {other : Image → Key} (image : Item → Image)
    (same : ∀ item, other (image item) = key item) (seen : Finset Key) (items : List Item) :
    firstsFrom other seen (items.map image) = (firstsFrom key seen items).map image := by
  induction items generalizing seen with
  | nil => rfl
  | cons head rest ih =>
    simp only [List.map_cons, firstsFrom, same, ih]
    split <;> rfl

/-- Mapping items without touching their keys keeps the images of the first of each. -/
theorem firsts_map {Image : Type*} {other : Image → Key} (image : Item → Image)
    (same : ∀ item, other (image item) = key item) (items : List Item) :
    firsts other (items.map image) = (firsts key items).map image :=
  firstsFrom_map image same ∅ items

end Base

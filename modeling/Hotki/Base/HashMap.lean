import Mathlib.Data.List.AList

/-! Finite maps listed in some iteration order, with the rules of lookup, collection and removal. -/

namespace Base

/-- A hash map: finitely many entries with distinct keys, in the order an iteration visits them. -/
abbrev HashMap (Key Value : Type*) := AList fun _ : Key => Value

namespace HashMap

variable {Key Value : Type*} [DecidableEq Key]

/-- Lookup after an insertion reads the new value at its key and the old map elsewhere. -/
theorem lookup_insert_ite (map : HashMap Key Value) (key other : Key) (value : Value) :
    (map.insert key value).lookup other = if other = key then some value else map.lookup other := by
  split
  · rename_i same
    subst same
    exact AList.lookup_insert map
  · rename_i different
    exact AList.lookup_insert_ne different

/-- Lookup after a removal finds nothing at the key and the old map elsewhere. -/
theorem lookup_erase_ite (map : HashMap Key Value) (key other : Key) :
    (map.erase key).lookup other = if other = key then none else map.lookup other := by
  split
  · rename_i same
    subst same
    exact AList.lookup_erase other map
  · rename_i different
    exact AList.lookup_erase_ne different

/-- A map in which nothing is found is empty. -/
theorem eq_empty {map : HashMap Key Value} (absent : ∀ key, map.lookup key = none) : map = ∅ := by
  -- A first entry would be found.
  apply AList.ext
  cases entries : map.entries with
  | nil => rfl
  | cons entry rest =>
    have found : map.lookup entry.1 = some entry.2 :=
      AList.mem_lookup_iff.mpr (by rw [entries]; simp)
    rw [absent] at found
    cases found

/-- Removing keys one after the other leaves the lookups of the others. -/
theorem lookup_foldl_erase {Entry : Type*} (keyOf : Entry → Key) (gone : List Entry)
    (map : HashMap Key Value) (key : Key) :
    (gone.foldl (fun map entry => map.erase (keyOf entry)) map).lookup key =
      if key ∈ gone.map keyOf then none else map.lookup key := by
  -- The first key is removed before the rest, so the rest decide unless it is the one looked up.
  induction gone generalizing map with
  | nil => simp
  | cons entry rest ih =>
    rw [List.foldl_cons, ih, lookup_erase_ite, List.map_cons]
    by_cases later : key ∈ rest.map keyOf
    · simp [later]
    · by_cases here : key = keyOf entry
      · simp [here]
      · simp [later, here]

/-- Keeps the entries that a test accepts. -/
def retain (keep : Key → Value → Bool) (map : HashMap Key Value) : HashMap Key Value where
  entries := map.entries.filter fun entry => keep entry.1 entry.2
  nodupKeys := map.nodupKeys.sublist List.filter_sublist

/-- Lookup among the retained entries finds the old value if the test accepts it. -/
theorem lookup_retain (keep : Key → Value → Bool) (map : HashMap Key Value) (key : Key) :
    (map.retain keep).lookup key = (map.lookup key).filter (keep key) := by
  -- A key has one entry, so finding a value and passing the test are facts about that entry.
  apply Option.ext
  intro value
  rw [Option.filter_eq_some_iff]
  constructor
  · intro found
    have member := List.mem_filter.mp (AList.mem_lookup_iff.mp found)
    exact ⟨AList.mem_lookup_iff.mpr member.1, member.2⟩
  · rintro ⟨found, kept⟩
    exact AList.mem_lookup_iff.mpr (List.mem_filter.mpr ⟨AList.mem_lookup_iff.mp found, kept⟩)

/-- Collects pairs into a map, a later pair replacing an earlier one with its key. -/
def collect (pairs : List (Key × Value)) : HashMap Key Value :=
  pairs.foldl (fun map pair => map.insert pair.1 pair.2) ∅

/-- Inserting pairs with distinct keys adds exactly those pairs to the lookups of other keys. -/
theorem lookup_foldl_insert {pairs : List (Key × Value)} (distinct : (pairs.map Prod.fst).Nodup)
    (map : HashMap Key Value) (key : Key) (value : Value) :
    (pairs.foldl (fun map pair => map.insert pair.1 pair.2) map).lookup key = some value ↔
      (key, value) ∈ pairs ∨ key ∉ pairs.map Prod.fst ∧ map.lookup key = some value := by
  -- The first pair is inserted before the rest, whose keys all differ from its own.
  induction pairs generalizing map with
  | nil => simp
  | cons pair rest ih =>
    simp only [List.map_cons, List.nodup_cons] at distinct
    rw [List.foldl_cons, ih distinct.2, lookup_insert_ite]
    by_cases same : key = pair.1
    · subst same
      have absent : (pair.1, value) ∉ rest := fun member =>
        distinct.1 (List.mem_map.mpr ⟨_, member, rfl⟩)
      simp only [absent, false_or, distinct.1, not_false_eq_true, true_and, if_true,
        List.mem_cons, List.map_cons, not_true, false_and, or_false]
      constructor
      · intro found
        cases found
        rfl
      · intro found
        rw [← found]
    · simp only [List.mem_cons, List.map_cons, same, if_false, false_or, Prod.ext_iff, false_and]

/-- A map collected from pairs with distinct keys holds exactly those pairs. -/
theorem lookup_collect {pairs : List (Key × Value)} (distinct : (pairs.map Prod.fst).Nodup)
    (key : Key) (value : Value) :
    (collect pairs).lookup key = some value ↔ (key, value) ∈ pairs := by
  simp [collect, lookup_foldl_insert distinct]

/-- A collected map has exactly the keys of its pairs. -/
theorem mem_collect (pairs : List (Key × Value)) (key : Key) :
    key ∈ collect pairs ↔ key ∈ pairs.map Prod.fst := by
  suffices grown : ∀ map : HashMap Key Value,
      key ∈ pairs.foldl (fun map pair => map.insert pair.1 pair.2) map ↔
        key ∈ pairs.map Prod.fst ∨ key ∈ map by
    simpa [collect] using grown ∅
  intro map
  -- Each insertion adds its own key to those already present.
  induction pairs generalizing map with
  | nil => simp
  | cons pair rest ih =>
    rw [List.foldl_cons, ih, AList.mem_insert, List.map_cons, List.mem_cons]
    tauto

/-- A collected map has at most as many keys as there were pairs. -/
theorem length_keys_collect_le (pairs : List (Key × Value)) :
    (collect pairs).keys.length ≤ pairs.length := by
  -- Its keys are distinct and each comes from a pair.
  have included : (collect pairs).keys ⊆ pairs.map Prod.fst := fun key member =>
    (mem_collect pairs key).mp (AList.mem_keys.mpr member)
  simpa using (List.subperm_of_subset (collect pairs).keys_nodup included).length_le

/-- Removing a present key shortens the map by one. -/
theorem length_keys_erase {map : HashMap Key Value} {key : Key} (present : key ∈ map) :
    (map.erase key).keys.length + 1 = map.keys.length := by
  have positive := List.length_pos_of_mem (AList.mem_keys.mp present)
  rw [AList.keys_erase, List.length_erase_of_mem (AList.mem_keys.mp present)]
  omega

/-- Inserting an absent key lengthens the map by one. -/
theorem length_keys_insert {map : HashMap Key Value} {key : Key} {value : Value}
    (absent : key ∉ map) : (map.insert key value).keys.length = map.keys.length + 1 := by
  rw [AList.keys_insert, List.erase_of_not_mem (fun member => absent (AList.mem_keys.mpr member))]
  rfl

end HashMap

/-- An order in which an iteration may visit the keys of a hash table. -/
structure IterationOrder (Key : Type*) where
  arrange : List Key → List Key
  perm : ∀ keys, (arrange keys).Perm keys

namespace IterationOrder

/-- An iteration visits exactly the keys there are. -/
@[simp] theorem mem_arrange {Key : Type*} (order : IterationOrder Key) {keys : List Key}
    {key : Key} : key ∈ order.arrange keys ↔ key ∈ keys :=
  (order.perm keys).mem_iff

/-- An iteration visits no key twice. -/
theorem nodup_arrange {Key : Type*} (order : IterationOrder Key) {keys : List Key}
    (distinct : keys.Nodup) : (order.arrange keys).Nodup :=
  (order.perm keys).nodup_iff.mpr distinct

/-- The order that visits the keys as they are stored. -/
def stored (Key : Type*) : IterationOrder Key := ⟨id, fun _ => .refl _⟩

end IterationOrder

end Base

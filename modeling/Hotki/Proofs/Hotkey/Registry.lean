import Hotki.Hotkey.Registry
import Mathlib.Data.Finset.Card

/-! Registration finds a free id whenever there is one, and removal takes only its own id away. -/

namespace Hotki

open Base

namespace Inner

/-- The registrations of the table, each with its id and its hotkey. -/
def registered (inner : Inner) : Finset (UInt32 × Chord) :=
  (inner.regs.keys.filterMap fun id =>
    (inner.regs.lookup id).map fun registration => (id, registration.hotkey)).toFinset

/-- A registration is listed exactly when its id looks up its hotkey. -/
theorem mem_registered {inner : Inner} {id : UInt32} {hotkey : Chord} :
    (id, hotkey) ∈ inner.registered ↔
      (inner.regs.lookup id).map Registration.hotkey = some hotkey := by
  simp only [registered, List.mem_toFinset, List.mem_filterMap, Option.map_eq_some_iff,
    Prod.mk.injEq]
  constructor
  · rintro ⟨_, _, registration, found, rfl, same⟩
    exact ⟨registration, found, same⟩
  · rintro ⟨registration, found, same⟩
    have bound := AList.lookup_isSome.mp (Option.isSome_of_mem found)
    exact ⟨id, AList.mem_keys.mp bound, registration, found, rfl, same⟩

/-- The table lists one registration for each of its ids. -/
theorem length_keys_le_card (inner : Inner) :
    inner.regs.keys.length ≤ inner.registered.card := by
  -- The ids of the listed registrations are all the keys, and the keys are distinct.
  have covered : inner.regs.keys.toFinset ⊆ inner.registered.image Prod.fst := by
    intro id member
    obtain ⟨registration, found⟩ := Option.isSome_iff_exists.mp
      (AList.lookup_isSome.mpr (AList.mem_keys.mpr (List.mem_toFinset.mp member)))
    exact Finset.mem_image.mpr ⟨(id, registration.hotkey), mem_registered.mpr (by simp [found]), rfl⟩
  calc inner.regs.keys.length = inner.regs.keys.toFinset.card :=
        (List.toFinset_card_of_nodup inner.regs.keys_nodup).symm
    _ ≤ (inner.registered.image Prod.fst).card := Finset.card_le_card covered
    _ ≤ inner.registered.card := Finset.card_image_le

/-- A found id is neither zero nor in use. -/
theorem nextFreeId_some {regs : HashMap UInt32 Registration} {attempts : Nat} {lastId id : UInt32}
    (found : nextFreeId regs attempts lastId = some id) : id ≠ 0 ∧ id ∉ regs := by
  -- The induction is on the attempts.
  induction attempts generalizing lastId with
  | zero => cases found
  | succ attempts ih =>
    simp only [nextFreeId] at found
    split at found
    · exact ih found
    · rename_i nonzero
      split at found
      · exact ih found
      · rename_i unused
        cases found
        exact ⟨nonzero, unused⟩

/-- A search without a result has met only zero and ids in use. -/
theorem nextFreeId_none {regs : HashMap UInt32 Registration} {attempts : Nat} {lastId : UInt32}
    (failed : nextFreeId regs attempts lastId = none) {turn : Nat} (before : turn < attempts) :
    lastId + 1 + UInt32.ofNat turn = 0 ∨ lastId + 1 + UInt32.ofNat turn ∈ regs := by
  -- Turn zero looks at the next id, and each later turn is an earlier one from there.
  induction attempts generalizing lastId turn with
  | zero => omega
  | succ attempts ih =>
    simp only [nextFreeId] at failed
    cases turn with
    | zero =>
      rw [show UInt32.ofNat 0 = 0 from rfl, UInt32.add_zero]
      split at failed
      · rename_i zero
        exact .inl zero
      · split at failed
        · rename_i used
          exact .inr used
        · cases failed
    | succ turn =>
      have later : nextFreeId regs attempts (lastId + 1) = none := by
        split at failed
        · exact failed
        · split at failed
          · exact failed
          · cases failed
      have shifted : lastId + 1 + UInt32.ofNat (turn + 1) =
          lastId + 1 + 1 + UInt32.ofNat turn := by
        rw [UInt32.ofNat_add, UInt32.add_comm (UInt32.ofNat turn), ← UInt32.add_assoc]
        rfl
      rw [shifted]
      exact ih later (by omega)

/-- A full turn of the counter finds an id while a nonzero one is free. -/
theorem nextFreeId_isSome {regs : HashMap UInt32 Registration} {id : UInt32} (nonzero : id ≠ 0)
    (unused : id ∉ regs) (lastId : UInt32) : (nextFreeId regs UInt32.size lastId).isSome := by
  by_contra failed
  -- The turn on which the search would have met the free id.
  have met := nextFreeId_none (Option.not_isSome_iff_eq_none.mp failed)
    (UInt32.toNat_lt (id - (lastId + 1)))
  rw [UInt32.ofNat_toNat, UInt32.add_comm, UInt32.sub_add_cancel] at met
  exact met.elim nonzero unused

/-- Fewer registrations than nonzero ids leave a nonzero id free. -/
theorem exists_free_id {regs : HashMap UInt32 Registration}
    (room : regs.keys.length < UInt32.size - 1) : ∃ id : UInt32, id ≠ 0 ∧ id ∉ regs := by
  -- There are more nonzero ids than used ones.
  by_contra full
  simp only [not_exists, not_and, Classical.not_not] at full
  have distinct : ((List.range (UInt32.size - 1)).map fun n => UInt32.ofNat (n + 1)).Nodup := by
    refine List.Nodup.map_on (fun left leftIn right rightIn same => ?_) List.nodup_range
    have equal := congrArg UInt32.toNat same
    rw [List.mem_range] at leftIn rightIn
    rw [UInt32.toNat_ofNat_of_lt' (by omega), UInt32.toNat_ofNat_of_lt' (by omega)] at equal
    omega
  have used : ((List.range (UInt32.size - 1)).map fun n => UInt32.ofNat (n + 1)) ⊆ regs.keys := by
    intro id member
    obtain ⟨n, below, rfl⟩ := List.mem_map.mp member
    refine AList.mem_keys.mp (full _ fun zero => ?_)
    have equal := congrArg UInt32.toNat zero
    rw [List.mem_range] at below
    rw [UInt32.toNat_ofNat_of_lt' (by omega)] at equal
    simp at equal
  have long := (List.subperm_of_subset distinct used).length_le
  rw [List.length_map, List.length_range] at long
  omega

/-- With fewer registrations than nonzero ids, a registration succeeds under an unused id. -/
theorem register_fresh {inner : Inner} (room : inner.registered.card < UInt32.size - 1)
    (hotkey : Chord) (intercept : Bool) : ∃ id next,
    inner.register hotkey intercept = some (id, next) ∧ id ∉ inner.regs ∧
      next.registered = insert (id, hotkey) inner.registered := by
  -- The ids are tried in turn, and one of them is free.
  obtain ⟨free, nonzero, unused⟩ := exists_free_id (inner.length_keys_le_card.trans_lt room)
  obtain ⟨id, found⟩ := Option.isSome_iff_exists.mp
    (nextFreeId_isSome nonzero unused inner.nextId)
  have fresh := (nextFreeId_some found).2
  refine ⟨id, _, by rw [register, found]; rfl, fresh, ?_⟩
  ext ⟨other, chord⟩
  rw [mem_registered, Finset.mem_insert, mem_registered, HashMap.lookup_insert_ite, Prod.mk.injEq]
  by_cases same : other = id
  · subst same
    simp [AList.lookup_eq_none.mpr fresh, eq_comm]
  · simp [same]

/-- Removing an id takes away its registration and no other. -/
theorem unregister_registered (inner : Inner) (id : UInt32) :
    (inner.unregister id).2.registered = inner.registered.filter fun entry => entry.1 ≠ id := by
  ext ⟨other, chord⟩
  rw [mem_registered, Finset.mem_filter, mem_registered, unregister, HashMap.lookup_erase_ite]
  by_cases same : other = id <;> simp [same]

end Inner

end Hotki

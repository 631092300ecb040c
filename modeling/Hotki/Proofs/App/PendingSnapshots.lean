import Hotki.App.UiDelivery

/-! The pending snapshots as a finite set of slots: searching, taking, and counting. -/

namespace Hotki

variable {Content : Type*}

/-- The search order visits every class. -/
theorem SnapshotClass.mem_all (kind : SnapshotClass) : kind ∈ SnapshotClass.all := by
  cases kind <;> decide

/-- The search order visits no class twice. -/
theorem SnapshotClass.nodup_all : SnapshotClass.all.Nodup := by decide

namespace PendingSnapshots

/-- A snapshot is pending when some slot holds it. -/
theorem mem_entries {pending : PendingSnapshots Content} {entry : SequencedUiEvent Content} :
    entry ∈ pending.entries ↔ ∃ kind, pending.slot kind = some entry := by
  simp [entries, SnapshotClass.mem_all]

/-- A slot that was set holds what it was set to. -/
@[simp]
theorem set_slot_self (pending : PendingSnapshots Content) (kind : SnapshotClass)
    (entry : Option (SequencedUiEvent Content)) : (pending.set kind entry).slot kind = entry := by
  simp [set]

/-- Setting one slot leaves the others alone. -/
theorem set_slot_of_ne {pending : PendingSnapshots Content} {kind other : SnapshotClass}
    (different : other ≠ kind) (entry : Option (SequencedUiEvent Content)) :
    (pending.set kind entry).slot other = pending.slot other := by
  simp [set, different]

/-- What is pending after emptying a slot was in another slot before. -/
theorem slot_of_emptied {pending : PendingSnapshots Content} {kind other : SnapshotClass}
    {entry : SequencedUiEvent Content} (held : (pending.set kind none).slot other = some entry) :
    other ≠ kind ∧ pending.slot other = some entry := by
  have different : other ≠ kind := by
    rintro rfl
    simp at held
  exact ⟨different, by rwa [set_slot_of_ne different] at held⟩

/-- No sequence is next only when nothing is pending. -/
theorem nextSequence_eq_none {pending : PendingSnapshots Content}
    (none : pending.nextSequence = Option.none) (kind : SnapshotClass) :
    pending.slot kind = Option.none := by
  simp only [nextSequence, List.min?_eq_none_iff, List.map_eq_nil_iff] at none
  cases held : pending.slot kind with
  | none => rfl
  | some entry =>
    have member : entry ∈ pending.entries := mem_entries.mpr ⟨kind, held⟩
    simp [none] at member

/-- The next sequence is that of a pending snapshot, and none is earlier. -/
theorem nextSequence_eq_some {pending : PendingSnapshots Content} {sequence : Nat}
    (next : pending.nextSequence = some sequence) :
    (∃ kind entry, pending.slot kind = some entry ∧ entry.sequence = sequence) ∧
      ∀ kind entry, pending.slot kind = some entry → sequence ≤ entry.sequence := by
  obtain ⟨member, least⟩ := List.min?_eq_some_iff.mp next
  obtain ⟨entry, pending, same⟩ := List.mem_map.mp member
  obtain ⟨kind, held⟩ := mem_entries.mp pending
  refine ⟨⟨kind, entry, held, same⟩, ?_⟩
  intro other later heldToo
  exact least _ (List.mem_map_of_mem (mem_entries.mpr ⟨other, heldToo⟩))

/-- A taken snapshot was in the slot that is empty afterwards. -/
theorem take_eq_some {pending left : PendingSnapshots Content} {sequence : Nat}
    {entry : SequencedUiEvent Content} (taken : pending.take sequence = some (entry, left)) :
    ∃ kind, pending.slot kind = some entry ∧ entry.sequence = sequence ∧
      left = pending.set kind none := by
  simp only [take, Option.bind_eq_some_iff, Option.map_eq_some_iff, Prod.mk.injEq] at taken
  obtain ⟨kind, found, other, held, rfl, rfl⟩ := taken
  have matching := List.find?_some found
  exact ⟨kind, held, by simpa [held] using matching, rfl⟩

/-- A pending snapshot can be taken at its sequence. -/
theorem take_ne_none {pending : PendingSnapshots Content} {kind : SnapshotClass}
    {entry : SequencedUiEvent Content} (held : pending.slot kind = some entry) :
    pending.take entry.sequence ≠ none := by
  -- The slot that holds it has its sequence, so the search ends.
  intro absent
  simp only [take, Option.bind_eq_none_iff, Option.map_eq_none_iff] at absent
  cases found : SnapshotClass.all.find? (fun kind =>
      (pending.slot kind).any fun other => other.sequence == entry.sequence) with
  | none =>
    have missed := List.find?_eq_none.mp found kind kind.mem_all
    simp [held] at missed
  | some other =>
    have matching := List.find?_some found
    simp [absent other found] at matching

/-- Emptying a slot removes one pending snapshot. -/
theorem len_emptied {pending : PendingSnapshots Content} {kind : SnapshotClass}
    {entry : SequencedUiEvent Content} (held : pending.slot kind = some entry) :
    (pending.set kind none).len + 1 = pending.len := by
  -- The search order is the kind in front of the others, and the others keep their slots.
  have order : SnapshotClass.all.Perm (kind :: SnapshotClass.all.erase kind) :=
    List.perm_cons_erase kind.mem_all
  have rest : (SnapshotClass.all.erase kind).filterMap (pending.set kind none).slot =
      (SnapshotClass.all.erase kind).filterMap pending.slot := by
    refine List.filterMap_congr fun other member => set_slot_of_ne ?_ none
    rintro rfl
    exact (SnapshotClass.nodup_all.mem_erase_iff.mp member).1 rfl
  have before := (order.filterMap pending.slot).length_eq
  have after := (order.filterMap (pending.set kind none).slot).length_eq
  simp only [List.filterMap_cons, held, set_slot_self, rest, List.length_cons] at before after
  simp only [len, entries]
  omega

/-- Without any pending snapshots every slot is empty. -/
theorem slot_of_len_eq_zero {pending : PendingSnapshots Content} (empty : pending.len = 0)
    (kind : SnapshotClass) : pending.slot kind = none := by
  cases held : pending.slot kind with
  | none => rfl
  | some entry =>
    have member : entry ∈ pending.entries := mem_entries.mpr ⟨kind, held⟩
    rw [List.eq_nil_of_length_eq_zero empty] at member
    cases member

end PendingSnapshots

end Hotki

import Hotki.Proofs.App.PendingSnapshots

/-! What the observations of the mailbox say about its state, and how each of them extends it. -/

namespace Hotki

variable {Content : Type*}

/-- The events placed for delivery, in their final order. -/
def placedOf (seen : List (UiObservation Content)) : List (SequencedUiEvent Content) :=
  seen.filterMap fun
    | .placed entry => some entry
    | _ => none

/-- The events given to the receiver, in order. -/
def deliveredOf (seen : List (UiObservation Content)) : List (SequencedUiEvent Content) :=
  seen.filterMap fun
    | .delivered entry => some entry
    | _ => none

/-- The calls that took a sequence, in order, each with its event. -/
def sequencedOf (seen : List (UiObservation Content)) : List (Nat × SequencedUiEvent Content) :=
  seen.filterMap fun
    | .sequenced sender entry => some (sender, entry)
    | _ => none

/-- The retained snapshots of a class, in order. -/
def retainedOf (kind : SnapshotClass) (seen : List (UiObservation Content)) :
    List (SequencedUiEvent Content) :=
  seen.filterMap fun
    | .retained _ entry _ => if entry.event.snapshotClass = some kind then some entry else none
    | _ => none

section Projections

variable (first second : List (UiObservation Content)) (kind : SnapshotClass)

@[simp] theorem placedOf_append : placedOf (first ++ second) = placedOf first ++ placedOf second :=
  List.filterMap_append

@[simp] theorem deliveredOf_append :
    deliveredOf (first ++ second) = deliveredOf first ++ deliveredOf second :=
  List.filterMap_append

@[simp] theorem sequencedOf_append :
    sequencedOf (first ++ second) = sequencedOf first ++ sequencedOf second :=
  List.filterMap_append

@[simp] theorem retainedOf_append :
    retainedOf kind (first ++ second) = retainedOf kind first ++ retainedOf kind second :=
  List.filterMap_append

end Projections

/-- A call took a sequence exactly when that was seen. -/
theorem mem_sequencedOf {seen : List (UiObservation Content)} {sender : Nat}
    {entry : SequencedUiEvent Content} :
    (sender, entry) ∈ sequencedOf seen ↔ .sequenced sender entry ∈ seen := by
  simp only [sequencedOf, List.mem_filterMap]
  constructor
  · rintro ⟨observation, member, same⟩
    cases observation <;> simp_all
  · intro member
    exact ⟨_, member, rfl⟩

/-- A snapshot that a newer one of its class replaced before any later event was accepted. -/
def Superseded (seen : List (UiObservation Content)) (entry : SequencedUiEvent Content) : Prop :=
  ∃ before sender replaced between newerSender newer after,
    seen = before ++ .retained sender entry replaced :: between ++
      .retained newerSender newer (some entry) :: after ∧
    newer.event.snapshotClass = entry.event.snapshotClass ∧ entry.sequence < newer.sequence ∧
    ∀ other event, .accepted other event ∉ between

/-- A replaced snapshot stays replaced. -/
theorem Superseded.append {seen : List (UiObservation Content)} {entry : SequencedUiEvent Content}
    (superseded : Superseded seen entry) (more : List (UiObservation Content)) :
    Superseded (seen ++ more) entry := by
  obtain ⟨before, sender, replaced, between, newerSender, newer, after, rfl, facts⟩ := superseded
  exact ⟨before, sender, replaced, between, newerSender, newer, after ++ more, by simp, facts⟩

/-- What was seen of the pending snapshot of a class: its retention, and no acceptance since. -/
def Outstanding (seen : List (UiObservation Content)) (entry : SequencedUiEvent Content) : Prop :=
  ∃ before sender replaced after, seen = before ++ .retained sender entry replaced :: after ∧
    ∀ other event, .accepted other event ∉ after

/-- A pending snapshot stays outstanding until the next acceptance. -/
theorem Outstanding.append {seen more : List (UiObservation Content)}
    {entry : SequencedUiEvent Content} (outstanding : Outstanding seen entry)
    (quiet : ∀ other event, .accepted other event ∉ more) : Outstanding (seen ++ more) entry := by
  obtain ⟨before, sender, replaced, after, rfl, none⟩ := outstanding
  refine ⟨before, sender, replaced, after ++ more, by simp, fun other event member => ?_⟩
  rcases List.mem_append.mp member with earlier | later
  · exact none other event earlier
  · exact quiet other event later

/-- A mailbox whose state is what the observations so far leave. -/
structure Coherent (seen : List (UiObservation Content)) (state : UiDeliveryState Content) :
    Prop where
  /-- The lane holds what was placed and not yet delivered. -/
  lane : placedOf seen = deliveredOf seen ++ state.ordered
  /-- Sequences are handed out in increasing order. -/
  increasing : (sequencedOf seen).Pairwise fun earlier later =>
    earlier.2.sequence < later.2.sequence
  below : ∀ sender entry, .sequenced sender entry ∈ seen → entry.sequence < state.nextSequence
  /-- A pending snapshot sits in its own slot, behind all that was placed. -/
  slots : ∀ kind entry, state.snapshots.slot kind = some entry →
    entry.event.snapshotClass = some kind
  outstanding : ∀ kind entry, state.snapshots.slot kind = some entry → Outstanding seen entry
  behind : ∀ kind entry, state.snapshots.slot kind = some entry →
    ∀ other ∈ placedOf seen, other.sequence < entry.sequence
  placed : ∀ entry ∈ placedOf seen, ∃ sender, .sequenced sender entry ∈ seen
  /-- A placed snapshot is later than all before it. -/
  order : (placedOf seen).Pairwise fun earlier later => earlier ≠ later ∧
    (later.event.snapshotClass ≠ none → earlier.sequence < later.sequence)
  retained : ∀ sender entry replaced, .retained sender entry replaced ∈ seen →
    .sequenced sender entry ∈ seen
  snapshots : ∀ sender entry replaced, .retained sender entry replaced ∈ seen →
    entry.event.snapshotClass ≠ none
  /-- Nothing retained is lost, except to a newer snapshot. -/
  kept : ∀ sender entry replaced, .retained sender entry replaced ∈ seen →
    entry ∈ placedOf seen ∨ (∃ kind, state.snapshots.slot kind = some entry) ∨
      Superseded seen entry
  newest : ∀ kind entry, (retainedOf kind seen).getLast? = some entry →
    entry ∈ placedOf seen ∨ state.snapshots.slot kind = some entry
  queued : ∀ sender entry, .queued sender entry ∈ seen → entry ∈ placedOf seen ∧
    [.sequenced sender entry, .accepted sender entry, .queued sender entry].Sublist seen

namespace Coherent

variable {seen : List (UiObservation Content)} {state : UiDeliveryState Content}

/-- The empty mailbox is coherent. -/
theorem initial : Coherent ([] : List (UiObservation Content)) {} where
  lane := rfl
  increasing := .nil
  below := by simp
  slots := by simp
  outstanding := by simp
  behind := by simp
  placed := by simp [placedOf]
  order := .nil
  retained := by simp
  snapshots := by simp
  kept := by simp
  newest := by simp [retainedOf]
  queued := by simp

/-- A sequence is handed out to one call and one event. -/
theorem sequenced_unique (coherent : Coherent seen state) {sender other : Nat}
    {entry event : SequencedUiEvent Content} (left : .sequenced sender entry ∈ seen)
    (right : .sequenced other event ∈ seen) (same : entry.sequence = event.sequence) :
    (sender, entry) = (other, event) := by
  -- The sequences increase, so no two members share one.
  have nodup : ((sequencedOf seen).map fun taken => taken.2.sequence).Nodup :=
    List.pairwise_map.mpr (coherent.increasing.imp fun less => Nat.ne_of_lt less)
  exact List.inj_on_of_nodup_map nodup (mem_sequencedOf.mpr left) (mem_sequencedOf.mpr right) same

/-- A pending snapshot took its sequence before. -/
theorem sequenced_of_slot (coherent : Coherent seen state) {kind : SnapshotClass}
    {entry : SequencedUiEvent Content} (held : state.snapshots.slot kind = some entry) :
    ∃ sender, .sequenced sender entry ∈ seen := by
  obtain ⟨before, sender, replaced, after, same, _⟩ := coherent.outstanding kind entry held
  exact ⟨sender, coherent.retained sender entry replaced (by simp [same])⟩

/-- A pending snapshot is older than the next event. -/
theorem slot_lt (coherent : Coherent seen state) {kind : SnapshotClass}
    {entry : SequencedUiEvent Content} (held : state.snapshots.slot kind = some entry) :
    entry.sequence < state.nextSequence := by
  obtain ⟨sender, taken⟩ := coherent.sequenced_of_slot held
  exact coherent.below sender entry taken

/-- A placed event is older than the next event. -/
theorem placed_lt (coherent : Coherent seen state) {entry : SequencedUiEvent Content}
    (member : entry ∈ placedOf seen) : entry.sequence < state.nextSequence := by
  obtain ⟨sender, taken⟩ := coherent.placed entry member
  exact coherent.below sender entry taken

/-- Pending snapshots of one sequence sit in one slot. -/
theorem slot_unique (coherent : Coherent seen state) {kind other : SnapshotClass}
    {entry event : SequencedUiEvent Content} (left : state.snapshots.slot kind = some entry)
    (right : state.snapshots.slot other = some event) (same : entry.sequence = event.sequence) :
    kind = other := by
  -- One sequence is taken once, so both snapshots are the one that took it.
  obtain ⟨sender, taken⟩ := coherent.sequenced_of_slot left
  obtain ⟨second, takenToo⟩ := coherent.sequenced_of_slot right
  have equal := coherent.sequenced_unique taken takenToo same
  simp only [Prod.mk.injEq] at equal
  have class1 := coherent.slots kind entry left
  have class2 := coherent.slots other event right
  rw [equal.2, class2] at class1
  exact (Option.some.inj class1).symm

/-- The counters have no part in coherence. -/
theorem with_stats (coherent : Coherent seen state) (stats : UiDeliveryStats) :
    Coherent seen { state with stats } :=
  ⟨coherent.lane, coherent.increasing, coherent.below, coherent.slots, coherent.outstanding,
    coherent.behind, coherent.placed, coherent.order, coherent.retained,
    coherent.snapshots, coherent.kept, coherent.newest, coherent.queued⟩

/-- Taking the next sequence for an event. -/
theorem sequence (coherent : Coherent seen state) (sender : Nat) (event : UiEvent Content) :
    Coherent (seen ++ [.sequenced sender ⟨state.nextSequence, event⟩])
      { state with nextSequence := state.nextSequence + 1 } where
  lane := by simpa [placedOf, deliveredOf] using coherent.lane
  increasing := by
    -- All sequences so far are below the new one.
    simp only [sequencedOf_append, List.pairwise_append]
    refine ⟨coherent.increasing, by simp [sequencedOf], fun earlier member later last => ?_⟩
    simp only [sequencedOf, List.filterMap_cons, List.filterMap_nil, List.mem_singleton] at last
    subst last
    exact coherent.below earlier.1 earlier.2 (mem_sequencedOf.mp member)
  below := by
    intro other entry member
    simp only [List.mem_append, List.mem_singleton, UiObservation.sequenced.injEq] at member
    rcases member with earlier | ⟨_, rfl⟩
    · exact Nat.lt_succ_of_lt (coherent.below other entry earlier)
    · exact Nat.lt_succ_self _
  slots := coherent.slots
  outstanding := fun kind entry held => (coherent.outstanding kind entry held).append (by simp)
  behind := by simpa [placedOf] using coherent.behind
  placed := by
    intro entry member
    obtain ⟨other, taken⟩ := coherent.placed entry (by simpa [placedOf] using member)
    exact ⟨other, List.mem_append_left _ taken⟩
  order := by simpa [placedOf] using coherent.order
  retained := by
    intro other entry replaced member
    exact List.mem_append_left _ (coherent.retained other entry replaced (by simpa using member))
  snapshots := by simpa using coherent.snapshots
  kept := by
    intro other entry replaced member
    rcases coherent.kept other entry replaced (by simpa using member) with done | held | gone
    · exact .inl (by simp [done])
    · exact .inr (.inl held)
    · exact .inr (.inr (gone.append _))
  newest := by simpa [retainedOf, placedOf] using coherent.newest
  queued := by
    intro other entry member
    obtain ⟨done, ordered⟩ := coherent.queued other entry (by simpa using member)
    exact ⟨by simp [done], ordered.trans (List.sublist_append_left _ _)⟩

/-- Retaining the snapshot that took the latest sequence. -/
theorem retain (coherent : Coherent seen state) {sender : Nat} {kind : SnapshotClass}
    {entry : SequencedUiEvent Content} (kindOf : entry.event.snapshotClass = some kind)
    (taken : .sequenced sender entry ∈ seen)
    (latest : ∀ other ∈ placedOf seen, other.sequence < entry.sequence)
    (newer : ∀ other, state.snapshots.slot kind = some other → other.sequence < entry.sequence) :
    Coherent (seen ++ [.retained sender entry (state.snapshots.slot kind)])
      { state with snapshots := state.snapshots.set kind (some entry) } where
  -- The slot of the snapshot's class is the only one that changes.
  lane := by simpa [placedOf, deliveredOf] using coherent.lane
  increasing := by simpa [sequencedOf] using coherent.increasing
  below := by simpa using coherent.below
  slots := by
    intro other event held
    by_cases same : other = kind
    · subst same
      simp only [PendingSnapshots.set_slot_self, Option.some.injEq] at held
      exact held ▸ kindOf
    · exact coherent.slots other event (by rwa [PendingSnapshots.set_slot_of_ne same] at held)
  outstanding := by
    intro other event held
    by_cases same : other = kind
    · subst same
      simp only [PendingSnapshots.set_slot_self, Option.some.injEq] at held
      subst held
      exact ⟨seen, sender, _, [], rfl, by simp⟩
    · rw [PendingSnapshots.set_slot_of_ne same] at held
      exact (coherent.outstanding other event held).append (by simp)
  behind := by
    intro other event held
    by_cases same : other = kind
    · subst same
      simp only [PendingSnapshots.set_slot_self, Option.some.injEq] at held
      simpa [placedOf, ← held] using latest
    · rw [PendingSnapshots.set_slot_of_ne same] at held
      simpa [placedOf] using coherent.behind other event held
  placed := by
    intro event member
    obtain ⟨other, before⟩ := coherent.placed event (by simpa [placedOf] using member)
    exact ⟨other, List.mem_append_left _ before⟩
  order := by simpa [placedOf] using coherent.order
  retained := by
    intro other event replaced member
    simp only [List.mem_append, List.mem_singleton, UiObservation.retained.injEq] at member
    rcases member with earlier | ⟨rfl, rfl, _⟩
    · exact List.mem_append_left _ (coherent.retained other event replaced earlier)
    · exact List.mem_append_left _ taken
  snapshots := by
    intro other event replaced member
    simp only [List.mem_append, List.mem_singleton, UiObservation.retained.injEq] at member
    rcases member with earlier | ⟨_, rfl, _⟩
    · exact coherent.snapshots other event replaced earlier
    · simp [kindOf]
  -- A snapshot retained before is placed, still in its slot, or replaced by a newer one.
  kept := by
    intro other event replaced member
    simp only [List.mem_append, List.mem_singleton, UiObservation.retained.injEq] at member
    rcases member with earlier | ⟨_, rfl, _⟩
    · rcases coherent.kept other event replaced earlier with done | ⟨slot, held⟩ | gone
      · exact .inl (by simp [done])
      · by_cases same : slot = kind
        · -- The snapshot in the slot is the one that is replaced now.
          subst same
          obtain ⟨before, first, older, after, split, none⟩ :=
            coherent.outstanding slot event held
          refine .inr (.inr ⟨before, first, older, after, sender, entry, [], ?_, ?_, newer _ held,
            none⟩)
          · simp [split, held]
          · rw [kindOf, coherent.slots slot event held]
        · exact .inr (.inl ⟨slot, by rwa [PendingSnapshots.set_slot_of_ne same]⟩)
      · exact .inr (.inr (gone.append _))
    · exact .inr (.inl ⟨kind, by simp⟩)
  -- The last one retained of a class is the one in its slot, unless it is placed.
  newest := by
    intro other event last
    by_cases same : other = kind
    · subst same
      simp only [retainedOf_append] at last
      simp only [retainedOf, List.filterMap_cons, kindOf, List.filterMap_nil, if_true,
        List.getLast?_concat, Option.some.injEq] at last
      exact .inr (by simp [last])
    · have apart : ¬ kind = other := fun equal => same equal.symm
      rcases coherent.newest other event (by simpa [retainedOf, kindOf, apart] using last) with
        done | held
      · exact .inl (by simp [done])
      · exact .inr (by rwa [PendingSnapshots.set_slot_of_ne same])
  queued := by
    intro other event member
    obtain ⟨done, ordered⟩ := coherent.queued other event (by simpa using member)
    exact ⟨by simp [done], ordered.trans (List.sublist_append_left _ _)⟩

/-- Moving the earliest pending snapshot behind all that was placed. -/
theorem place (coherent : Coherent seen state) {kind : SnapshotClass}
    {entry : SequencedUiEvent Content} (held : state.snapshots.slot kind = some entry)
    (earliest : ∀ other event, state.snapshots.slot other = some event →
      entry.sequence ≤ event.sequence) :
    Coherent (seen ++ [.placed entry])
      { state.pushBack entry with snapshots := state.snapshots.set kind none } where
  lane := by
    have before := coherent.lane
    simp only [placedOf, deliveredOf] at before
    simp [placedOf, deliveredOf, UiDeliveryState.pushBack, before]
  increasing := by simpa [sequencedOf] using coherent.increasing
  below := by simpa [UiDeliveryState.pushBack] using coherent.below
  slots := fun other event pending =>
    coherent.slots other event (PendingSnapshots.slot_of_emptied pending).2
  outstanding := fun other event pending =>
    (coherent.outstanding other event (PendingSnapshots.slot_of_emptied pending).2).append (by simp)
  -- The earliest of the pending snapshots is placed, so those left have larger sequences.
  behind := by
    intro other event left before member
    obtain ⟨different, pending⟩ := PendingSnapshots.slot_of_emptied left
    simp only [placedOf_append, List.mem_append] at member
    rcases member with earlier | last
    · exact coherent.behind other event pending before earlier
    · simp only [placedOf, List.filterMap_cons, List.filterMap_nil, List.mem_singleton] at last
      subst last
      -- Two pending snapshots have different sequences.
      refine Nat.lt_of_le_of_ne (earliest other event pending) fun same => different ?_
      exact (coherent.slot_unique held pending same).symm
  placed := by
    intro event member
    simp only [placedOf_append, List.mem_append] at member
    rcases member with earlier | last
    · obtain ⟨other, before⟩ := coherent.placed event earlier
      exact ⟨other, List.mem_append_left _ before⟩
    · simp only [placedOf, List.filterMap_cons, List.filterMap_nil, List.mem_singleton] at last
      subst last
      obtain ⟨other, taken⟩ := coherent.sequenced_of_slot held
      exact ⟨other, List.mem_append_left _ taken⟩
  -- Whatever was placed before has a smaller sequence than a pending snapshot.
  order := by
    simp only [placedOf_append, List.pairwise_append]
    refine ⟨coherent.order, by simp [placedOf], fun earlier member later last => ?_⟩
    simp only [placedOf, List.filterMap_cons, List.filterMap_nil, List.mem_singleton] at last
    subst last
    have less := coherent.behind kind later held earlier member
    exact ⟨fun same => absurd (same ▸ less) (Nat.lt_irrefl _), fun _ => less⟩
  retained := by
    intro other event replaced member
    exact List.mem_append_left _ (coherent.retained other event replaced (by simpa using member))
  snapshots := by simpa using coherent.snapshots
  -- The snapshot placed is the only one to leave its slot.
  kept := by
    intro other event replaced member
    rcases coherent.kept other event replaced (by simpa using member) with
      done | ⟨slot, pending⟩ | gone
    · exact .inl (by simp [done])
    · by_cases same : slot = kind
      · subst same
        rw [held, Option.some.injEq] at pending
        exact .inl (by simp [placedOf, pending])
      · exact .inr (.inl ⟨slot, by rwa [PendingSnapshots.set_slot_of_ne same]⟩)
    · exact .inr (.inr (gone.append _))
  newest := by
    intro other event last
    rcases coherent.newest other event (by simpa [retainedOf] using last) with done | pending
    · exact .inl (by simp [done])
    · by_cases same : other = kind
      · subst same
        rw [held, Option.some.injEq] at pending
        exact .inl (by simp [placedOf, pending])
      · exact .inr (by rwa [PendingSnapshots.set_slot_of_ne same])
  queued := by
    intro other event member
    obtain ⟨done, ordered⟩ := coherent.queued other event (by simpa using member)
    exact ⟨by simp [done], ordered.trans (List.sublist_append_left _ _)⟩

/-- Accepting an ordered event with nothing pending. -/
theorem accept (coherent : Coherent seen state) (sender : Nat) (entry : SequencedUiEvent Content)
    (none : ∀ kind, state.snapshots.slot kind = none) :
    Coherent (seen ++ [.accepted sender entry]) state where
  -- With nothing pending, the event goes behind everything that was placed.
  lane := by simpa [placedOf, deliveredOf] using coherent.lane
  increasing := by simpa [sequencedOf] using coherent.increasing
  below := by simpa using coherent.below
  slots := coherent.slots
  outstanding := fun kind event held => by simp [none kind] at held
  behind := by simpa [placedOf] using coherent.behind
  placed := by simpa [placedOf] using coherent.placed
  order := by simpa [placedOf] using coherent.order
  retained := by simpa using coherent.retained
  snapshots := by simpa using coherent.snapshots
  kept := by
    intro other event replaced member
    rcases coherent.kept other event replaced (by simpa using member) with done | held | gone
    · exact .inl (by simp [done])
    · exact .inr (.inl held)
    · exact .inr (.inr (gone.append _))
  newest := by simpa [retainedOf, placedOf] using coherent.newest
  queued := by
    intro other event member
    obtain ⟨done, ordered⟩ := coherent.queued other event (by simpa using member)
    exact ⟨by simp [done], ordered.trans (List.sublist_append_left _ _)⟩

/-- Observing an event or a call that is gone. -/
theorem ignore (coherent : Coherent seen state) {observation : UiObservation Content}
    (gone : (∃ sender entry, observation = .droppedLog sender entry) ∨
      ∃ sender, observation = .panicked sender) : Coherent (seen ++ [observation]) state := by
  -- What is only seen changes no projection.
  have silent : placedOf [observation] = [] ∧ deliveredOf [observation] = [] ∧
      sequencedOf [observation] = [] ∧ ∀ kind, retainedOf kind [observation] = [] := by
    rcases gone with ⟨_, _, rfl⟩ | ⟨_, rfl⟩ <;> exact ⟨rfl, rfl, rfl, fun _ => rfl⟩
  obtain ⟨placed, delivered, sequenced, retained⟩ := silent
  have member {other : UiObservation Content} (known : other ∈ seen ++ [observation])
      (different : other ≠ observation) : other ∈ seen := by
    simpa [different] using known
  refine ⟨by simpa [placed, delivered] using coherent.lane,
    by simpa [sequenced] using coherent.increasing, ?_, coherent.slots, ?_,
    by simpa [placed] using coherent.behind, ?_, by simpa [placed] using coherent.order, ?_, ?_, ?_,
    by simpa [placed, retained] using coherent.newest, ?_⟩
  · intro sender entry known
    exact coherent.below sender entry (member known (by rcases gone with ⟨_, _, rfl⟩ | ⟨_, rfl⟩ <;>
      simp))
  · intro kind entry held
    refine (coherent.outstanding kind entry held).append ?_
    rcases gone with ⟨_, _, rfl⟩ | ⟨_, rfl⟩ <;> simp
  · intro entry known
    obtain ⟨sender, taken⟩ := coherent.placed entry (by simpa [placed] using known)
    exact ⟨sender, List.mem_append_left _ taken⟩
  · intro sender entry replaced known
    refine List.mem_append_left _ (coherent.retained sender entry replaced (member known ?_))
    rcases gone with ⟨_, _, rfl⟩ | ⟨_, rfl⟩ <;> simp
  · intro sender entry replaced known
    refine coherent.snapshots sender entry replaced (member known ?_)
    rcases gone with ⟨_, _, rfl⟩ | ⟨_, rfl⟩ <;> simp
  · intro sender entry replaced known
    rcases coherent.kept sender entry replaced (member known (by
      rcases gone with ⟨_, _, rfl⟩ | ⟨_, rfl⟩ <;> simp)) with done | held | superseded
    · exact .inl (by simp [done])
    · exact .inr (.inl held)
    · exact .inr (.inr (superseded.append _))
  · intro sender entry known
    obtain ⟨done, ordered⟩ := coherent.queued sender entry (member known (by
      rcases gone with ⟨_, _, rfl⟩ | ⟨_, rfl⟩ <;> simp))
    exact ⟨by simp [done], ordered.trans (List.sublist_append_left _ _)⟩

/-- Delivering the front of the lane. -/
theorem deliver (coherent : Coherent seen state) {entry : SequencedUiEvent Content}
    {ordered : List (SequencedUiEvent Content)} (front : state.ordered = entry :: ordered) :
    Coherent (seen ++ [.delivered entry]) { state with ordered } where
  -- The front was placed first, so it is the next one to be delivered.
  lane := by
    have before := coherent.lane
    simp only [placedOf, deliveredOf, front] at before
    simp [placedOf, deliveredOf, before]
  increasing := by simpa [sequencedOf] using coherent.increasing
  below := by simpa using coherent.below
  slots := coherent.slots
  outstanding := fun kind event held => (coherent.outstanding kind event held).append (by simp)
  behind := by simpa [placedOf] using coherent.behind
  placed := by simpa [placedOf] using coherent.placed
  order := by simpa [placedOf] using coherent.order
  retained := by simpa using coherent.retained
  snapshots := by simpa using coherent.snapshots
  kept := by
    intro other event replaced member
    rcases coherent.kept other event replaced (by simpa using member) with done | held | gone
    · exact .inl (by simp [done])
    · exact .inr (.inl held)
    · exact .inr (.inr (gone.append _))
  newest := by simpa [retainedOf, placedOf] using coherent.newest
  queued := by
    intro other event member
    obtain ⟨done, before⟩ := coherent.queued other event (by simpa using member)
    exact ⟨by simp [done], before.trans (List.sublist_append_left _ _)⟩

end Coherent

/-- What is known of a call that waits for space. -/
structure Waits (seen : List (UiObservation Content)) (state : UiDeliveryState Content)
    (sender : Nat) (entry : SequencedUiEvent Content) (awaited : AwaitedSpace) : Prop where
  ordered : entry.event.snapshotClass = none
  sequenced : .sequenced sender entry ∈ seen
  unplaced : entry ∉ placedOf seen
  /-- While flushing, nothing earlier than the awaited sequence is pending. -/
  flushing : ∀ sequence, awaited = .flushing sequence → sequence ≤ state.nextSequence ∧
    ∀ kind other, state.snapshots.slot kind = some other → sequence ≤ other.sequence
  /-- An accepted event only sees newer snapshots pending. -/
  finishing : awaited = .finishing →
    [.sequenced sender entry, .accepted sender entry].Sublist seen ∧
    ∀ kind other, state.snapshots.slot kind = some other → entry.sequence < other.sequence

namespace Coherent

variable {seen : List (UiObservation Content)} {state : UiDeliveryState Content}

/-- Appending the own event of an accepted call. -/
theorem finish (coherent : Coherent seen state) {sender : Nat} {entry : SequencedUiEvent Content}
    (waits : Waits seen state sender entry .finishing) :
    Coherent (seen ++ [.placed entry, .queued sender entry]) (state.pushBack entry) where
  -- The event goes behind everything placed, which the end of its wait has made sure of.
  lane := by
    have before := coherent.lane
    simp only [placedOf, deliveredOf] at before
    simp [placedOf, deliveredOf, UiDeliveryState.pushBack, before]
  increasing := by simpa [sequencedOf] using coherent.increasing
  below := by simpa [UiDeliveryState.pushBack] using coherent.below
  slots := coherent.slots
  outstanding := fun kind event held => (coherent.outstanding kind event held).append (by simp)
  behind := by
    intro kind event held other member
    simp only [placedOf_append, List.mem_append] at member
    rcases member with earlier | last
    · exact coherent.behind kind event held other earlier
    · simp only [placedOf, List.filterMap_cons, List.filterMap_nil, List.mem_singleton] at last
      exact last ▸ (waits.finishing rfl).2 kind event held
  placed := by
    intro event member
    simp only [placedOf_append, List.mem_append] at member
    rcases member with earlier | last
    · obtain ⟨other, before⟩ := coherent.placed event earlier
      exact ⟨other, List.mem_append_left _ before⟩
    · simp only [placedOf, List.filterMap_cons, List.filterMap_nil, List.mem_singleton] at last
      exact ⟨sender, List.mem_append_left _ (last ▸ waits.sequenced)⟩
  -- An ordered event is not a snapshot, so only its own place matters here.
  order := by
    simp only [placedOf_append, List.pairwise_append]
    refine ⟨coherent.order, by simp [placedOf], fun earlier member later last => ?_⟩
    simp only [placedOf, List.filterMap_cons, List.filterMap_nil, List.mem_singleton] at last
    subst last
    exact ⟨fun same => waits.unplaced (same ▸ member), fun kind => absurd waits.ordered kind⟩
  retained := by simpa using coherent.retained
  snapshots := by simpa using coherent.snapshots
  kept := by
    intro other event replaced member
    rcases coherent.kept other event replaced (by simpa using member) with done | held | gone
    · exact .inl (by simp [done])
    · exact .inr (.inl held)
    · exact .inr (.inr (gone.append _))
  newest := by
    intro kind event last
    rcases coherent.newest kind event (by simpa [retainedOf] using last) with done | held
    · exact .inl (by simp [done])
    · exact .inr held
  -- What was queued before the call took its number was placed before.
  queued := by
    intro other event member
    simp only [List.mem_append, List.mem_cons, List.not_mem_nil, or_false, reduceCtorEq, false_or,
      UiObservation.queued.injEq] at member
    rcases member with earlier | ⟨rfl, rfl⟩
    · obtain ⟨done, before⟩ := coherent.queued other event earlier
      exact ⟨by simp [done], before.trans (List.sublist_append_left _ _)⟩
    · refine ⟨by simp [placedOf], ?_⟩
      have tail : [UiObservation.queued other event].Sublist
          [.placed event, .queued other event] := by simp
      exact (waits.finishing rfl).1.append tail

end Coherent

/-- A waiting call stays one while others place other events and retain newer snapshots. -/
theorem Waits.later {seen further : List (UiObservation Content)}
    {state next : UiDeliveryState Content} {sender : Nat} {entry : SequencedUiEvent Content}
    {awaited : AwaitedSpace} (waits : Waits seen state sender entry awaited)
    (coherent : Coherent seen state) (unplaced : entry ∉ placedOf further)
    (pending : ∀ kind other, next.snapshots.slot kind = some other →
      state.snapshots.slot kind = some other ∨ state.nextSequence ≤ other.sequence)
    (sequences : state.nextSequence ≤ next.nextSequence) :
    Waits (seen ++ further) next sender entry awaited where
  -- Others only add later sequences, so the least pending one is still in sight.
  ordered := waits.ordered
  sequenced := List.mem_append_left _ waits.sequenced
  unplaced := by simp [waits.unplaced, unplaced]
  flushing := by
    intro sequence flushing
    obtain ⟨bound, least⟩ := waits.flushing sequence flushing
    refine ⟨Nat.le_trans bound sequences, fun kind other held => ?_⟩
    rcases pending kind other held with before | new
    · exact least kind other before
    · exact Nat.le_trans bound new
  finishing := by
    intro finishing
    obtain ⟨accepted, least⟩ := waits.finishing finishing
    refine ⟨accepted.trans (List.sublist_append_left _ _), fun kind other held => ?_⟩
    rcases pending kind other held with before | new
    · exact least kind other before
    · exact Nat.lt_of_lt_of_le (coherent.below sender entry waits.sequenced) new

end Hotki

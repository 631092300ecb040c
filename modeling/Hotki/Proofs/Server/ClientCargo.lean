import Hotki.Server.ClientDelivery

/-! What is on its way through the delivery lane of a client, as the logs account for it. -/

namespace Hotki.Client

open Base

variable {Content : Type*}

/-- What is on its way through the lane, beside the logs of what was sent and handed over. -/
structure Cargo (Content : Type*) where
  /-- The buffered event and those in the channel. -/
  ordered : List (DeliveryEntry Content)
  slots : PendingSnapshots Content
  /-- The entry that has its sequence, and not its place yet. -/
  inflight : Option (DeliveryEntry Content)
  next : Nat
  sent : List (DeliveryEntry Content)
  replaced : List (DeliveryEntry Content × DeliveryEntry Content)
  delivered : List (DeliveryEntry Content)

/-- The entry a send is about to put in its place. -/
def SendStage.entry : SendStage Content → Option (DeliveryEntry Content)
  | .storing entry | .queueing entry => some entry
  | _ => none

/-- The cargo of a lane. -/
def DeliveryLane.cargo (lane : DeliveryLane Content) : Cargo Content where
  ordered := lane.bufferedOrdered.toList ++ lane.ordered
  slots := lane.snapshots
  inflight := lane.sender.entry
  next := lane.nextSequence
  sent := lane.sent
  replaced := lane.replaced
  delivered := lane.delivered

/-- The ordered events among entries. -/
def orderedEvents (entries : List (DeliveryEntry Content)) : List (DeliveryEntry Content) :=
  entries.filter fun entry => entry.kind.isNone

namespace Cargo

/-- What a step can do to the cargo. -/
inductive Moves (cargo : Cargo Content) : Cargo Content → Prop where
  | stay : Moves cargo cargo
  | sequenced (message : UiMessage Content) : cargo.inflight = none →
      Moves cargo
        { cargo with inflight := some ⟨cargo.next, message⟩, next := cargo.next + 1 }
  | stored {entry : DeliveryEntry Content} {kind : SnapshotKind} :
      cargo.inflight = some entry → entry.kind = some kind →
      Moves cargo
        { cargo with
          slots := cargo.slots.set kind (some entry)
          inflight := none
          sent := cargo.sent ++ [entry]
          replaced := cargo.replaced ++
            (cargo.slots.slot kind).toList.map fun old => (old, entry) }
  | queued {entry : DeliveryEntry Content} : cargo.inflight = some entry → entry.kind = none →
      Moves cargo
        { cargo with
          ordered := cargo.ordered ++ [entry]
          inflight := none
          sent := cargo.sent ++ [entry] }
  | handed {entry : DeliveryEntry Content} {rest : List (DeliveryEntry Content)} :
      cargo.ordered = entry :: rest →
      Moves cargo { cargo with ordered := rest, delivered := cargo.delivered ++ [entry] }
  | taken {entry : DeliveryEntry Content} {kind : SnapshotKind} :
      cargo.slots.slot kind = some entry →
      Moves cargo
        { cargo with
          slots := cargo.slots.set kind none
          delivered := cargo.delivered ++ [entry] }

/-- An entry that is on its way. -/
def Pending (cargo : Cargo Content) (entry : DeliveryEntry Content) : Prop :=
  entry ∈ cargo.ordered ∨ (∃ kind, cargo.slots.slot kind = some entry) ∨
    cargo.inflight = some entry

/-- What every move keeps. -/
structure Sound (cargo : Cargo Content) : Prop where
  sorted : cargo.sent.Pairwise fun first second => first.sequence < second.sequence
  /-- Sequences are taken from below the next one. -/
  below : ∀ entry ∈ cargo.sent, entry.sequence < cargo.next
  /-- What has its sequence and not its place comes after all that was sent. -/
  flying : ∀ entry, cargo.inflight = some entry → entry.sequence < cargo.next ∧
    ∀ earlier ∈ cargo.sent, earlier.sequence < entry.sequence
  /-- The ordered events that were sent were delivered, in order, or are to be. -/
  events : orderedEvents cargo.sent = orderedEvents cargo.delivered ++ cargo.ordered
  held : ∀ kind entry, cargo.slots.slot kind = some entry →
    entry ∈ cargo.sent ∧ entry.kind = some kind ∧ entry ∉ cargo.delivered
  handed : ∀ entry ∈ cargo.delivered, entry ∈ cargo.sent
  once : cargo.delivered.Nodup
  /-- A snapshot is delivered, or pending, or was replaced. -/
  kept : ∀ kind, ∀ entry ∈ cargo.sent, entry.kind = some kind →
    entry ∈ cargo.delivered ∨ cargo.slots.slot kind = some entry ∨
      ∃ newer, (entry, newer) ∈ cargo.replaced
  /-- What replaces a snapshot is a newer one of its kind. -/
  newer : ∀ old new, (old, new) ∈ cargo.replaced →
    new ∈ cargo.sent ∧ new.kind = old.kind ∧ old.sequence < new.sequence

end Cargo

/-- The ordered events among more entries. -/
theorem orderedEvents_append (entries more : List (DeliveryEntry Content)) :
    orderedEvents (entries ++ more) = orderedEvents entries ++ orderedEvents more :=
  List.filter_append entries more

/-- A snapshot is no ordered event. -/
theorem orderedEvents_snapshot {entry : DeliveryEntry Content} {kind : SnapshotKind}
    (snapshot : entry.kind = some kind) : orderedEvents [entry] = [] := by
  simp [orderedEvents, snapshot]

/-- An entry without a kind is an ordered event. -/
theorem orderedEvents_event {entry : DeliveryEntry Content} (event : entry.kind = none) :
    orderedEvents [entry] = [entry] := by
  simp [orderedEvents, event]

namespace Cargo

namespace Sound

variable {cargo after : Cargo Content}

/-- An entry that was sent and awaits its turn is an ordered event that was not delivered. -/
theorem ordered_fresh (sound : cargo.Sound) {entry : DeliveryEntry Content}
    (waiting : entry ∈ cargo.ordered) :
    entry ∈ cargo.sent ∧ entry.kind = none ∧ entry ∉ cargo.delivered := by
  have listed : entry ∈ orderedEvents cargo.sent := by
    rw [sound.events]
    exact List.mem_append_right _ waiting
  obtain ⟨sent, event⟩ := List.mem_filter.mp listed
  have event : entry.kind = none := Option.isNone_iff_eq_none.mp event
  refine ⟨sent, event, fun delivered => ?_⟩
  -- Otherwise it would have been sent twice.
  have distinct : (orderedEvents cargo.sent).Pairwise fun first second =>
      first.sequence < second.sequence := sound.sorted.filter _
  rw [sound.events, List.pairwise_append] at distinct
  have again := distinct.2.2 entry
    (List.mem_filter.mpr ⟨delivered, Option.isNone_iff_eq_none.mpr event⟩) entry waiting
  omega

/-- A pending entry was sent or has yet to be, and was not delivered. -/
theorem pending_fresh (sound : cargo.Sound) {entry : DeliveryEntry Content}
    (pending : cargo.Pending entry) : entry.sequence < cargo.next ∧ entry ∉ cargo.delivered := by
  -- It is in the channel, in a slot, or in the send's hand.
  rcases pending with ordered | ⟨kind, held⟩ | flying
  · obtain ⟨sent, _, fresh⟩ := sound.ordered_fresh ordered
    exact ⟨sound.below entry sent, fresh⟩
  · obtain ⟨sent, _, fresh⟩ := sound.held kind entry held
    exact ⟨sound.below entry sent, fresh⟩
  · obtain ⟨below, last⟩ := sound.flying entry flying
    refine ⟨below, fun delivered => ?_⟩
    have earlier := last entry (sound.handed entry delivered)
    omega

/-- What was sent is in order after one more. -/
theorem sorted_send (sound : cargo.Sound) {entry : DeliveryEntry Content}
    (flying : cargo.inflight = some entry) :
    (cargo.sent ++ [entry]).Pairwise (fun first second => first.sequence < second.sequence) ∧
      ∀ other ∈ cargo.sent ++ [entry], other.sequence < cargo.next := by
  -- The entry in flight took the latest sequence.
  obtain ⟨below, last⟩ := sound.flying entry flying
  constructor
  · rw [List.pairwise_append]
    refine ⟨sound.sorted, List.pairwise_singleton _ _, fun earlier member other same => ?_⟩
    rw [List.mem_singleton.mp same]
    exact last earlier member
  · intro other member
    rcases List.mem_append.mp member with old | same
    · exact sound.below other old
    · rw [List.mem_singleton.mp same]
      exact below

/-- Entries of one sequence that were sent are the same. -/
theorem sent_inj (sound : cargo.Sound) {first second : DeliveryEntry Content}
    (left : first ∈ cargo.sent) (right : second ∈ cargo.sent)
    (same : first.sequence = second.sequence) : first = second := by
  -- The sequences rise strictly along what was sent.
  obtain ⟨i, inside, rfl⟩ := List.getElem_of_mem left
  obtain ⟨j, within, rfl⟩ := List.getElem_of_mem right
  have sorted := List.pairwise_iff_getElem.mp sound.sorted
  rcases Nat.lt_trichotomy i j with earlier | equal | later
  · have apart := sorted i j inside within earlier
    omega
  · subst equal
    rfl
  · have apart := sorted j i within inside later
    omega

/-- Putting a snapshot in its slot keeps what every move keeps. -/
theorem store (sound : cargo.Sound) {entry : DeliveryEntry Content} {kind : SnapshotKind}
    (flying : cargo.inflight = some entry) (snapshot : entry.kind = some kind) :
    Sound { cargo with
      slots := cargo.slots.set kind (some entry)
      inflight := none
      sent := cargo.sent ++ [entry]
      replaced := cargo.replaced ++
        (cargo.slots.slot kind).toList.map fun old => (old, entry) } where
  -- The slot of the class is the only one that changes, and what it held is replaced.
  sorted := (sound.sorted_send flying).1
  below := (sound.sorted_send flying).2
  flying _ absent := by cases absent
  events := by
    show orderedEvents (cargo.sent ++ [entry]) = _
    rw [orderedEvents_append, orderedEvents_snapshot snapshot, List.append_nil]
    exact sound.events
  held other held holds := by
    rcases Slots.set_cases holds with ⟨rfl, same⟩ | ⟨_, before⟩
    · cases same
      exact ⟨List.mem_append_right _ (List.mem_singleton_self _), snapshot,
        (sound.pending_fresh (.inr (.inr flying))).2⟩
    · obtain ⟨sent, kept, fresh⟩ := sound.held other held before
      exact ⟨List.mem_append_left _ sent, kept, fresh⟩
  handed delivered member := List.mem_append_left _ (sound.handed delivered member)
  once := sound.once
  kept other earlier member same := by
    rcases List.mem_append.mp member with old | new
    · rcases sound.kept other earlier old same with delivered | held | ⟨newer, logged⟩
      · exact .inl delivered
      · by_cases here : other = kind
        · -- It was in the slot, so it is replaced now.
          subst here
          refine .inr (.inr ⟨entry, List.mem_append_right _ ?_⟩)
          simp [held]
        · exact .inr (.inl (by rw [Slots.set_of_ne here]; exact held))
      · exact .inr (.inr ⟨newer, List.mem_append_left _ logged⟩)
    · rw [List.mem_singleton.mp new, snapshot] at same
      cases same
      rw [List.mem_singleton.mp new]
      exact .inr (.inl (Slots.set_self _ _ _))
  -- What is replaced was sent before, and so has the smaller number.
  newer old new logged := by
    rcases List.mem_append.mp logged with before | now
    · obtain ⟨sent, same, later⟩ := sound.newer old new before
      exact ⟨List.mem_append_left _ sent, same, later⟩
    · obtain ⟨lost, held, pair⟩ := List.mem_map.mp now
      cases pair
      obtain ⟨sent, same, _⟩ := sound.held kind old (Option.mem_toList.mp held)
      exact ⟨List.mem_append_right _ (List.mem_singleton_self _), snapshot.trans same.symm,
        (sound.flying entry flying).2 old sent⟩

/-- Putting an ordered event in the channel keeps what every move keeps. -/
theorem queue (sound : cargo.Sound) {entry : DeliveryEntry Content}
    (flying : cargo.inflight = some entry) (event : entry.kind = none) :
    Sound { cargo with
      ordered := cargo.ordered ++ [entry]
      inflight := none
      sent := cargo.sent ++ [entry] } where
  -- The slots stay, and the event goes behind those in the channel.
  sorted := (sound.sorted_send flying).1
  below := (sound.sorted_send flying).2
  flying _ absent := by cases absent
  events := by
    show orderedEvents (cargo.sent ++ [entry]) = _
    rw [orderedEvents_append, orderedEvents_event event, sound.events, List.append_assoc]
  held kind held holds := by
    obtain ⟨sent, kept, fresh⟩ := sound.held kind held holds
    exact ⟨List.mem_append_left _ sent, kept, fresh⟩
  handed delivered member := List.mem_append_left _ (sound.handed delivered member)
  once := sound.once
  kept kind earlier member same := by
    rcases List.mem_append.mp member with old | new
    · exact sound.kept kind earlier old same
    · rw [List.mem_singleton.mp new, event] at same
      cases same
  newer old new logged := by
    obtain ⟨sent, same, later⟩ := sound.newer old new logged
    exact ⟨List.mem_append_left _ sent, same, later⟩

/-- Delivering an entry that was sent and not yet delivered keeps the log of deliveries sound. -/
theorem deliver (sound : cargo.Sound) {entry : DeliveryEntry Content} (sent : entry ∈ cargo.sent)
    (fresh : entry ∉ cargo.delivered) :
    (∀ other ∈ cargo.delivered ++ [entry], other ∈ cargo.sent) ∧
      (cargo.delivered ++ [entry]).Nodup := by
  -- The entry joins those handed over, and none of them twice.
  constructor
  · intro other member
    rcases List.mem_append.mp member with before | now
    · exact sound.handed other before
    · rw [List.mem_singleton.mp now]
      exact sent
  · rw [List.nodup_append]
    refine ⟨sound.once, List.nodup_singleton entry, fun other member again same equal => ?_⟩
    rw [equal, List.mem_singleton.mp same] at member
    exact fresh member

/-- Handing over the next ordered event keeps what every move keeps. -/
theorem hand (sound : cargo.Sound) {entry : DeliveryEntry Content}
    {rest : List (DeliveryEntry Content)} (next : cargo.ordered = entry :: rest) :
    Sound { cargo with ordered := rest, delivered := cargo.delivered ++ [entry] } := by
  -- The event was the first one in the channel.
  have waiting : entry ∈ cargo.ordered := by rw [next]; exact List.mem_cons_self
  obtain ⟨sent, event, fresh⟩ := sound.ordered_fresh waiting
  obtain ⟨handed, once⟩ := sound.deliver sent fresh
  refine ⟨sound.sorted, sound.below, sound.flying, ?_, ?_, handed, once, ?_, sound.newer⟩
  · show orderedEvents cargo.sent = orderedEvents (cargo.delivered ++ [entry]) ++ rest
    rw [sound.events, next, orderedEvents_append, orderedEvents_event event, List.append_assoc]
    rfl
  · intro kind held holds
    obtain ⟨sent, kept, before⟩ := sound.held kind held holds
    refine ⟨sent, kept, fun member => ?_⟩
    rcases List.mem_append.mp member with old | new
    · exact before old
    · rw [List.mem_singleton.mp new, event] at kept
      cases kept
  · intro kind other member same
    rcases sound.kept kind other member same with delivered | held | lost
    · exact .inl (List.mem_append_left _ delivered)
    · exact .inr (.inl held)
    · exact .inr (.inr lost)

/-- Taking a snapshot out of its slot keeps what every move keeps. -/
theorem take (sound : cargo.Sound) {entry : DeliveryEntry Content} {kind : SnapshotKind}
    (holds : cargo.slots.slot kind = some entry) :
    Sound { cargo with
      slots := cargo.slots.set kind none
      delivered := cargo.delivered ++ [entry] } := by
  -- The slot is empty afterwards, and the others hold what they held.
  obtain ⟨sent, snapshot, fresh⟩ := sound.held kind entry holds
  obtain ⟨handed, once⟩ := sound.deliver sent fresh
  refine ⟨sound.sorted, sound.below, sound.flying, ?_, ?_, handed, once, ?_, sound.newer⟩
  · show orderedEvents cargo.sent = orderedEvents (cargo.delivered ++ [entry]) ++ cargo.ordered
    rw [sound.events, orderedEvents_append, orderedEvents_snapshot snapshot, List.append_nil]
  · intro other held holdsToo
    rcases Slots.set_cases holdsToo with ⟨_, absent⟩ | ⟨different, before⟩
    · cases absent
    · obtain ⟨sent, kept, undelivered⟩ := sound.held other held before
      refine ⟨sent, kept, fun member => ?_⟩
      rcases List.mem_append.mp member with old | new
      · exact undelivered old
      · rw [List.mem_singleton.mp new, snapshot] at kept
        cases kept
        exact different rfl
  · intro other earlier member same
    rcases sound.kept other earlier member same with delivered | held | lost
    · exact .inl (List.mem_append_left _ delivered)
    · by_cases here : other = kind
      · subst here
        rw [holds] at held
        cases held
        exact .inl (List.mem_append_right _ (List.mem_singleton_self _))
      · exact .inr (.inl (by rw [Slots.set_of_ne here]; exact held))
    · exact .inr (.inr lost)

/-- Every move keeps the cargo sound. -/
theorem move (moved : cargo.Moves after) (sound : cargo.Sound) : after.Sound := by
  -- One case for each move.
  cases moved with
  | stay => exact sound
  | sequenced message absent =>
    refine { sound with below := ?_, flying := ?_ }
    · intro entry member
      exact Nat.lt_succ_of_lt (sound.below entry member)
    · intro entry same
      cases same
      exact ⟨Nat.lt_succ_self _, sound.below⟩
  | stored flying snapshot => exact sound.store flying snapshot
  | queued flying event => exact sound.queue flying event
  | handed next => exact sound.hand next
  | taken holds => exact sound.take holds

end Sound

/-- What is pending after a move was pending before, or took its sequence in the move. -/
theorem Moves.pending {cargo after : Cargo Content} (moved : cargo.Moves after)
    {entry : DeliveryEntry Content} (pending : after.Pending entry) :
    cargo.Pending entry ∨ entry.sequence = cargo.next := by
  -- Only a sequence that is taken makes something pending.
  cases moved with
  | stay => exact .inl pending
  | sequenced message absent =>
    rcases pending with ordered | held | flying
    · exact .inl (.inl ordered)
    · exact .inl (.inr (.inl held))
    · cases flying
      exact .inr rfl
  | stored flying snapshot =>
    rcases pending with ordered | ⟨kind, held⟩ | absent
    · exact .inl (.inl ordered)
    · rcases Slots.set_cases held with ⟨_, same⟩ | ⟨_, before⟩
      · cases same
        exact .inl (.inr (.inr flying))
      · exact .inl (.inr (.inl ⟨kind, before⟩))
    · cases absent
  | queued flying event =>
    rcases pending with ordered | held | absent
    · rcases List.mem_append.mp ordered with before | same
      · exact .inl (.inl before)
      · rw [List.mem_singleton.mp same]
        exact .inl (.inr (.inr flying))
    · exact .inl (.inr (.inl held))
    · cases absent
  | handed next =>
    rcases pending with ordered | held | flying
    · exact .inl (.inl (by rw [next]; exact List.mem_cons_of_mem _ ordered))
    · exact .inl (.inr (.inl held))
    · exact .inl (.inr (.inr flying))
  | taken holds =>
    rcases pending with ordered | ⟨kind, held⟩ | flying
    · exact .inl (.inl ordered)
    · rcases Slots.set_cases held with ⟨_, absent⟩ | ⟨_, before⟩
      · cases absent
      · exact .inl (.inr (.inl ⟨kind, before⟩))
    · exact .inl (.inr (.inr flying))

/-- Whether everything pending has a later sequence. -/
def Ahead (cargo : Cargo Content) (sequence : Nat) : Prop :=
  ∀ entry, cargo.Pending entry → sequence < entry.sequence

/-- What was delivered is in order, and before everything pending. -/
structure InOrder (cargo : Cargo Content) : Prop where
  increasing : cargo.delivered.Pairwise fun first second => first.sequence < second.sequence
  ahead : ∀ entry ∈ cargo.delivered, cargo.Ahead entry.sequence

/-- A move keeps the order if what it delivers comes before everything that is still pending. -/
theorem InOrder.move {cargo after : Cargo Content} (sound : cargo.Sound) (moved : cargo.Moves after)
    (first : ∀ entry, cargo.Pending entry → after.delivered = cargo.delivered ++ [entry] →
      after.Ahead entry.sequence) (inOrder : cargo.InOrder) : after.InOrder := by
  -- What was delivered before stays before what is pending.
  have still : ∀ entry ∈ cargo.delivered, after.Ahead entry.sequence := by
    intro entry member later pending
    rcases moved.pending pending with before | fresh
    · exact inOrder.ahead entry member later before
    · rw [fresh]
      exact sound.below entry (sound.handed entry member)
  have either : (after.delivered = cargo.delivered) ∨
      ∃ entry, cargo.Pending entry ∧ after.delivered = cargo.delivered ++ [entry] := by
    cases moved with
    | handed next => exact .inr ⟨_, .inl (by rw [next]; exact List.mem_cons_self), rfl⟩
    | taken holds => exact .inr ⟨_, .inr (.inl ⟨_, holds⟩), rfl⟩
    | _ => exact .inl rfl
  rcases either with same | ⟨entry, pending, delivered⟩
  · refine ⟨?_, ?_⟩
    · rw [same]
      exact inOrder.increasing
    · rw [same]
      exact still
  · refine ⟨?_, ?_⟩
    · rw [delivered, List.pairwise_append]
      refine ⟨inOrder.increasing, List.pairwise_singleton _ _, fun earlier member last same => ?_⟩
      rw [List.mem_singleton.mp same]
      exact inOrder.ahead earlier member entry pending
    · intro other member
      rw [delivered] at member
      rcases List.mem_append.mp member with before | now
      · exact still other before
      · rw [List.mem_singleton.mp now]
        exact first entry pending delivered

end Cargo

end Hotki.Client

import Hotki.Proofs.Server.ClientCargo

/-! The steps of the delivery lane of a client, and the order in which they deliver. -/

namespace Hotki.Client

open Base

variable {Content : Type*}

/-- A message is taken for a snapshot if and only if it has a slot. -/
theorem isSnapshot_slotKind (message : UiMessage Content) :
    isSnapshot message = (slotKind message).isSome := by
  cases message <;> rfl

/-- The slots are searched completely. -/
theorem SnapshotKind.mem_all (kind : SnapshotKind) : kind ∈ SnapshotKind.all := by
  cases kind <;> decide

/-- Whether a send handles its message in the way of its kind. -/
def SendStage.Typed : SendStage Content → Prop
  | .sequencing message => (slotKind message).isSome = true
  | .storing entry => entry.kind.isSome = true
  | .reserving message | .permitted message => slotKind message = none
  | .queueing entry => entry.kind = none
  | .panicked => False
  | _ => True

/-- Whether a choice is a step of receives. -/
def LaneChoice.isReceive : LaneChoice Content → Bool
  | .receive _ | .receiver | .awaitOrdered | .awaitReady | .cancel => true
  | _ => false

namespace DeliveryLane

variable {record : String → String → String → Content} {lane next : DeliveryLane Content}

/-- A step that leaves the cargo as it was is a move. -/
theorem moves_of_eq (same : next.cargo = lane.cargo) : lane.cargo.Moves next.cargo := by
  rw [same]
  exact .stay

/-- A send moves the cargo, and handles its message in the way of its kind. -/
theorem sendOn_moves (typed : lane.sender.Typed) (stepped : lane.sendOn = some next) :
    lane.cargo.Moves next.cargo ∧ next.sender.Typed := by
  unfold sendOn at stepped
  cases stage : lane.sender with
  | returned outcome =>
    rw [stage] at stepped
    cases stepped
  | panicked =>
    rw [stage] at stepped
    cases stepped
  | sequencing message =>
    rw [stage] at stepped typed
    cases stepped
    exact ⟨.sequenced message (congrArg SendStage.entry stage), typed⟩
  -- The entry goes to the slot of its class.
  | storing entry =>
    rw [stage] at stepped typed
    obtain ⟨kind, snapshot⟩ := Option.isSome_iff_exists.mp typed
    simp only [snapshot] at stepped
    cases stepped
    exact ⟨.stored (congrArg SendStage.entry stage) snapshot, trivial⟩
  | notifying coalesced =>
    rw [stage] at stepped
    cases stepped
    exact ⟨moves_of_eq (by simp only [cargo, stage, SendStage.entry]), trivial⟩
  | reserving message =>
    rw [stage] at stepped typed
    dsimp only at stepped
    -- Without a place the send ends or waits, and what is on its way stays.
    have kept : ∀ {later : DeliveryLane Content} {sender : SendStage Content},
        sender.entry = none → later = { lane with sender := sender } →
        lane.cargo.Moves later.cargo := by
      intro later sender absent same
      subst same
      exact moves_of_eq (by simp only [cargo, stage, absent]; rfl)
    split at stepped
    · cases stepped
      exact ⟨kept rfl rfl, trivial⟩
    · split at stepped
      · cases stepped
        exact ⟨kept rfl rfl, typed⟩
      · split at stepped
        · cases stepped
          exact ⟨kept rfl rfl, trivial⟩
        · cases stepped
  | dropping =>
    rw [stage] at stepped
    cases stepped
    exact ⟨moves_of_eq (by simp only [cargo, stage, SendStage.entry]), trivial⟩
  -- With a place reserved the message is numbered, and then queued.
  | permitted message =>
    rw [stage] at stepped typed
    cases stepped
    exact ⟨.sequenced message (congrArg SendStage.entry stage), typed⟩
  | queueing entry =>
    rw [stage] at stepped typed
    cases stepped
    have queued := @Cargo.Moves.queued _ lane.cargo entry (congrArg SendStage.entry stage) typed
    simp only [cargo, List.append_assoc] at queued
    exact ⟨queued, trivial⟩

/-- Filling the empty buffer leaves the cargo as it was. -/
theorem buffer_cargo (empty : lane.bufferedOrdered = none) (filled : lane.buffer = some next) :
    next.cargo = lane.cargo ∧ next.sender = lane.sender := by
  unfold buffer at filled
  split at filled
  · rename_i entry rest listed
    cases filled
    simp [cargo, empty, listed]
  · split at filled
    · cases filled
      exact ⟨rfl, rfl⟩
    · cases filled

/-- Returning the buffered event moves the cargo. -/
theorem tryBuffered_moves (lane : DeliveryLane Content) (waits : Bool) :
    lane.cargo.Moves (lane.tryBuffered waits).cargo ∧
      (lane.tryBuffered waits).sender = lane.sender := by
  unfold tryBuffered
  split
  · rename_i entry held
    have next : lane.cargo.ordered = entry :: lane.ordered := by
      simp only [cargo, held, Option.toList_some]
      rfl
    exact ⟨.handed next, rfl⟩
  · exact ⟨.stay, rfl⟩

/-- A receive moves the cargo, and leaves the send alone. -/
theorem receiveOn_moves (stepped : lane.receiveOn record = some next) :
    lane.cargo.Moves next.cargo ∧ next.sender = lane.sender := by
  -- Each stage hands the cargo on, or only looks at it.
  unfold receiveOn at stepped
  split at stepped
  · cases stepped
  · cases stepped
  · cases stepped
  · dsimp only at stepped
    split at stepped
    · cases stepped
      exact ⟨.stay, rfl⟩
    · cases stepped
      exact ⟨.stay, rfl⟩
  · split at stepped
    · rename_i looks
      cases stepped
      simp only [Bool.and_eq_true, Option.isNone_iff_eq_none] at looks
      cases filled : lane.buffer with
      | none => exact ⟨.stay, rfl⟩
      | some buffered =>
        obtain ⟨same, sender⟩ := buffer_cargo looks.1 filled
        exact ⟨moves_of_eq same, sender⟩
    · cases stepped
      exact ⟨.stay, rfl⟩
  · split at stepped
    · split at stepped
      · cases stepped
        exact ⟨.stay, rfl⟩
      · cases stepped
        exact tryBuffered_moves lane _
    · cases stepped
      exact tryBuffered_moves lane _
  · split at stepped
    · rename_i taken
      cases stepped
      obtain ⟨kind, held, _, same⟩ := Slots.take_eq_some taken
      subst same
      exact ⟨.taken held, rfl⟩
    · cases stepped
      exact ⟨.stay, rfl⟩

/-- Whether a receive has learned something at a stage. -/
def learned : RecvStage Content → Bool
  | .waiting | .taking _ _ => true
  | _ => false

/-- What a receive has learned, which the producer cannot make wrong. -/
structure Aware (lane : DeliveryLane Content) : Prop where
  /-- A receive that waits has nothing in the buffer. -/
  waiting : lane.receiver = .waiting → lane.bufferedOrdered = none
  /-- A snapshot that is about to be taken comes before the buffered event and the other ones. -/
  taking : ∀ waits sequence, lane.receiver = .taking waits sequence →
    (∀ kind entry, lane.snapshots.slot kind = some entry → sequence ≤ entry.sequence) ∧
      (∀ entry, lane.bufferedOrdered = some entry → sequence < entry.sequence) ∧
      ∃ entry ∈ lane.sent, entry.sequence = sequence

/-- What holds in every state. -/
structure Sound (lane : DeliveryLane Content) : Prop where
  cargo : lane.cargo.Sound
  typed : lane.sender.Typed
  aware : lane.Aware

/-- A send leaves the receive and its buffer alone, delivers nothing, and takes nothing from the log. -/
theorem sendOn_kept (stepped : lane.sendOn = some next) :
    next.receiver = lane.receiver ∧ next.bufferedOrdered = lane.bufferedOrdered ∧
      next.delivered = lane.delivered ∧ next.senderDropped = lane.senderDropped ∧
      next.orderedClosed = lane.orderedClosed ∧ ∀ entry ∈ lane.sent, entry ∈ next.sent := by
  -- A send writes the channel, the slots and its own stage.
  unfold sendOn at stepped
  split at stepped
  case h_4 =>
    split at stepped
    · cases stepped
      exact ⟨rfl, rfl, rfl, rfl, rfl, fun _ member => member⟩
    · cases stepped
      exact ⟨rfl, rfl, rfl, rfl, rfl, fun _ member => List.mem_append_left _ member⟩
  case h_6 =>
    split at stepped
    · cases stepped
      exact ⟨rfl, rfl, rfl, rfl, rfl, fun _ member => member⟩
    · split at stepped
      · cases stepped
        exact ⟨rfl, rfl, rfl, rfl, rfl, fun _ member => member⟩
      · split at stepped
        · cases stepped
          exact ⟨rfl, rfl, rfl, rfl, rfl, fun _ member => member⟩
        · cases stepped
  case h_9 =>
    cases stepped
    exact ⟨rfl, rfl, rfl, rfl, rfl, fun _ member => List.mem_append_left _ member⟩
  all_goals
    cases stepped
    try exact ⟨rfl, rfl, rfl, rfl, rfl, fun _ member => member⟩

/-- What the receive has learned outlives what the producer does. -/
theorem Aware.moved (sound : lane.Sound) (moved : lane.cargo.Moves next.cargo)
    (receiver : next.receiver = lane.receiver)
    (buffered : next.bufferedOrdered = lane.bufferedOrdered)
    (sent : ∀ entry ∈ lane.sent, entry ∈ next.sent) : next.Aware := by
  -- Whatever is pending after the move was pending before, or is newer than the receive has seen.
  constructor
  · intro waits
    rw [buffered]
    rw [receiver] at waits
    exact sound.aware.waiting waits
  · intro waits sequence takes
    rw [receiver] at takes
    obtain ⟨least, before, entry, member, same⟩ := sound.aware.taking waits sequence takes
    refine ⟨?_, ?_, entry, sent entry member, same⟩
    · intro kind later held
      have snapshot := ((sound.cargo.move moved).held kind later held).2.1
      rcases moved.pending (.inr (.inl ⟨kind, held⟩)) with pending | fresh
      · rcases pending with ordered | ⟨other, old⟩ | flying
        · -- It would be an ordered event.
          rw [(sound.cargo.ordered_fresh ordered).2.1] at snapshot
          cases snapshot
        · exact least other later old
        · have after := (sound.cargo.flying later flying).2 entry member
          omega
      · have below := sound.cargo.below entry member
        omega
    · rw [buffered]
      exact before

/-- A receive that neither waits nor takes a snapshot has learned nothing. -/
theorem Aware.unless (nothing : learned next.receiver = false) : next.Aware := by
  constructor
  · intro waits
    rw [waits] at nothing
    cases nothing
  · intro waits sequence takes
    rw [takes] at nothing
    cases nothing

/-- After the answer of a try without a snapshot the buffer is empty if the receive waits. -/
theorem tryBuffered_aware (lane : DeliveryLane Content) (waits : Bool) :
    (lane.tryBuffered waits).Aware := by
  unfold tryBuffered
  split
  · exact .unless rfl
  · rename_i empty
    refine ⟨fun _ => empty, fun other sequence taking => ?_⟩
    simp only [answering] at taking
    split at taking
    · split at taking <;> cases taking
    · cases taking

/-- The steps of a receive teach it what is so. -/
theorem receiveOn_aware (sound : lane.Sound) (stepped : lane.receiveOn record = some next) :
    next.Aware := by
  unfold receiveOn at stepped
  split at stepped
  · cases stepped
  · cases stepped
  · cases stepped
  · dsimp only at stepped
    split at stepped <;> cases stepped <;> exact .unless rfl
  · split at stepped <;> cases stepped <;> exact .unless rfl
  · split at stepped
    · rename_i sequence first
      split at stepped
      · rename_i precedes
        cases stepped
        refine ⟨fun waiting => ?_, fun waits other taking => ?_⟩
        · cases waiting
        cases taking
        -- The slots were looked at in this step.
        obtain ⟨kind, entry, held, same⟩ := Slots.next_mem first
        refine ⟨fun kind entry => Slots.next_eq_some SnapshotKind.mem_all first, ?_,
          entry, (sound.cargo.held kind entry held).1, same⟩
        intro buffered holds
        simp only [precedesOrdered] at precedes
        rw [holds] at precedes
        exact of_decide_eq_true precedes
      · cases stepped
        exact tryBuffered_aware lane _
    · cases stepped
      exact tryBuffered_aware lane _
  · split at stepped <;> cases stepped <;> exact .unless rfl

/-- What holds in every state is kept when only flags and the start of a send change. -/
theorem Sound.still (sound : lane.Sound) (cargo : next.cargo = lane.cargo)
    (typed : next.sender.Typed) (aware : next.Aware) :
    lane.cargo.Moves next.cargo ∧ next.Sound := by
  refine ⟨moves_of_eq cargo, ?_, typed, aware⟩
  rw [cargo]
  exact sound.cargo

/-- Starting a send keeps what holds in every state. -/
theorem Sound.send {message : UiMessage Content}
    (stepped : lane.Steps record (.send message) next) (sound : lane.Sound) :
    lane.cargo.Moves next.cargo ∧ next.Sound := by
  -- No send is in progress, so the new event is the only one in flight.
  simp only [Steps, DeliveryLane.step] at stepped
  split at stepped
  · rename_i free
    cases stepped
    simp only [Bool.and_eq_true, sendsStopped] at free
    have absent : lane.sender.entry = none := by
      cases stage : lane.sender with
      | returned outcome => rfl
      | _ =>
        rw [stage] at free
        cases free.1
    apply sound.still
    · simp only [DeliveryLane.cargo, absent]
      split <;> rfl
    · show SendStage.Typed (if isSnapshot message then .sequencing message else .reserving message)
      rw [isSnapshot_slotKind]
      split
      · rename_i snapshot
        exact snapshot
      · rename_i event
        exact Option.not_isSome_iff_eq_none.mp event
    · exact ⟨sound.aware.waiting, sound.aware.taking⟩
  · cases stepped

/-- The end of a wait keeps what holds in every state. -/
theorem Sound.waited {ended : Option (DeliveryLane Content)} (sound : lane.Sound)
    (kept : ∀ later, lane.bufferedOrdered = none → ended = some later →
      later.cargo = lane.cargo ∧ later.sender = lane.sender)
    (stepped : lane.wait ended = some next) : lane.cargo.Moves next.cargo ∧ next.Sound := by
  -- The wait ends with the event it was for.
  unfold wait at stepped
  split at stepped
  · rename_i waits
    obtain ⟨later, found, same⟩ := Option.map_eq_some_iff.mp stepped
    subst same
    obtain ⟨cargo, sender⟩ := kept later (sound.aware.waiting waits) found
    refine sound.still cargo ?_ (.unless rfl)
    show later.sender.Typed
    rw [sender]
    exact sound.typed
  · cases stepped

/-- Every step keeps what holds in every state. -/
theorem Sound.step {choice : LaneChoice Content} (stepped : lane.Steps record choice next)
    (sound : lane.Sound) : lane.cargo.Moves next.cargo ∧ next.Sound := by
  -- One case for each choice.
  cases choice with
  | send message => exact sound.send stepped
  | sender =>
    obtain ⟨moved, typed⟩ := sendOn_moves sound.typed stepped
    obtain ⟨receiver, buffered, _, _, _, sent⟩ := sendOn_kept stepped
    exact ⟨moved, sound.cargo.move moved, typed, .moved sound moved receiver buffered sent⟩
  | dropSender =>
    simp only [Steps, DeliveryLane.step] at stepped
    split at stepped
    · cases stepped
      exact sound.still rfl sound.typed ⟨sound.aware.waiting, sound.aware.taking⟩
    · cases stepped
  | receive waits =>
    simp only [Steps, DeliveryLane.step] at stepped
    split at stepped
    · cases stepped
      exact sound.still rfl sound.typed (.unless rfl)
    · cases stepped
  | receiver =>
    obtain ⟨moved, sender⟩ := receiveOn_moves stepped
    refine ⟨moved, sound.cargo.move moved, ?_, receiveOn_aware sound stepped⟩
    rw [sender]
    exact sound.typed
  | awaitOrdered =>
    exact sound.waited (fun later empty found => buffer_cargo empty found) stepped
  -- A wait that is ready takes nothing from the lane yet.
  | awaitReady =>
    refine sound.waited (fun later _ found => ?_) stepped
    split at found
    · cases found
      exact ⟨rfl, rfl⟩
    · cases found
  | cancel =>
    simp only [Steps, DeliveryLane.step] at stepped
    split at stepped
    · cases stepped
      exact sound.still rfl sound.typed (.unless rfl)
    · cases stepped
  | dropReceiver =>
    simp only [Steps, DeliveryLane.step] at stepped
    split at stepped
    · cases stepped
      exact sound.still rfl sound.typed (.unless rfl)
    · cases stepped

/-- An empty lane is sound. -/
theorem Sound.start : ({} : DeliveryLane Content).Sound where
  typed := trivial
  aware := .unless rfl
  cargo :=
    { sorted := .nil
      below := fun _ member => by cases member
      flying := fun _ same => by cases same
      events := rfl
      held := fun _ _ holds => by cases holds
      handed := fun _ member => by cases member
      once := .nil
      kept := fun _ _ member => by cases member
      newer := fun _ _ member => by cases member }

/-- Whether a choice keeps the order: a snapshot that is taken with nothing in the buffer finds no
earlier event in the ordered channel. -/
def Careful (lane : DeliveryLane Content) : LaneChoice Content → Prop
  | .receiver => ∀ waits sequence, lane.receiver = .taking waits sequence →
      (lane.snapshots.takeSequence sequence).isSome = true → lane.bufferedOrdered = none →
      ∀ entry ∈ lane.ordered, sequence < entry.sequence
  | _ => True

/-- Careful steps. -/
def CarefulSteps (record : String → String → String → Content) (lane : DeliveryLane Content)
    (choice : LaneChoice Content) (next : DeliveryLane Content) : Prop :=
  lane.Steps record choice next ∧ lane.Careful choice

/-- The ordered events on their way come one after the other. -/
theorem Sound.ordered_sorted (sound : lane.Sound) {entry : DeliveryEntry Content}
    {rest : List (DeliveryEntry Content)} (next : lane.cargo.ordered = entry :: rest) :
    ∀ later ∈ rest, entry.sequence < later.sequence := by
  have sorted : (orderedEvents lane.cargo.sent).Pairwise fun first second =>
      first.sequence < second.sequence := sound.cargo.sorted.filter _
  rw [sound.cargo.events, next, List.pairwise_append, List.pairwise_cons] at sorted
  exact sorted.2.1.1

/-- The event in the buffer comes before everything that is pending, if no snapshot precedes it. -/
theorem Sound.buffered_first (sound : lane.Sound) {entry : DeliveryEntry Content}
    (held : lane.bufferedOrdered = some entry)
    (precedes : ∀ kind snapshot, lane.snapshots.slot kind = some snapshot →
      entry.sequence ≤ snapshot.sequence) (waits : Bool) :
    (lane.tryBuffered waits).cargo.Ahead entry.sequence := by
  -- The buffer holds the head of the channel, and sequences rise along it.
  have listed : lane.cargo.ordered = entry :: lane.ordered := by
    simp only [DeliveryLane.cargo, held, Option.toList_some]
    rfl
  have waiting : entry ∈ lane.cargo.ordered := by rw [listed]; exact List.mem_cons_self
  obtain ⟨sent, event, fresh⟩ := sound.cargo.ordered_fresh waiting
  have after : (lane.tryBuffered waits).cargo =
      { lane.cargo with ordered := lane.ordered, delivered := lane.delivered ++ [entry] } := by
    simp only [tryBuffered, held]
    rfl
  rw [after]
  rintro other (ordered | ⟨kind, snapshot⟩ | flying)
  · exact sound.ordered_sorted listed other ordered
  · -- A snapshot has another sequence than an event.
    obtain ⟨sentToo, same, _⟩ := sound.cargo.held kind other snapshot
    have least := precedes kind other snapshot
    have different : entry.sequence ≠ other.sequence := by
      intro equal
      rw [sound.cargo.sent_inj sent sentToo equal, same] at event
      cases event
    omega
  · exact (sound.cargo.flying other flying).2 entry sent

/-- A snapshot that is taken with care comes before everything that is pending. -/
theorem Sound.taken_first (sound : lane.Sound) (careful : lane.Careful .receiver) {waits : Bool}
    {sequence : Nat} (takes : lane.receiver = .taking waits sequence)
    {entry : DeliveryEntry Content} {left : PendingSnapshots Content}
    (taken : lane.snapshots.takeSequence sequence = some (entry, left)) :
    Cargo.Ahead { lane.cargo with slots := left, delivered := lane.delivered ++ [entry] }
      entry.sequence := by
  -- Care means that the channel holds nothing earlier; the buffer was looked at before.
  obtain ⟨kind, held, same, emptied⟩ := Slots.take_eq_some taken
  obtain ⟨least, buffered, _⟩ := sound.aware.taking waits sequence takes
  obtain ⟨sent, snapshot, fresh⟩ := sound.cargo.held kind entry held
  subst emptied
  rintro other (ordered | ⟨otherKind, holds⟩ | flying)
  · replace ordered : other ∈ lane.cargo.ordered := ordered
    rw [same]
    cases buffer : lane.bufferedOrdered with
    | none =>
      have alone : lane.cargo.ordered = lane.ordered := by
        simp only [DeliveryLane.cargo, buffer]
        rfl
      rw [alone] at ordered
      exact careful waits sequence takes (by rw [taken]; rfl) buffer other ordered
    | some first =>
      have listed : lane.cargo.ordered = first :: lane.ordered := by
        simp only [DeliveryLane.cargo, buffer, Option.toList_some]
        rfl
      have before := buffered first buffer
      rw [listed] at ordered
      rcases List.mem_cons.mp ordered with equal | later
      · rw [equal]
        exact before
      · have after := sound.ordered_sorted listed other later
        omega
  · rcases Slots.set_cases holds with ⟨_, absent⟩ | ⟨different, holds⟩
    · cases absent
    · obtain ⟨sentToo, otherSnapshot, _⟩ := sound.cargo.held otherKind other holds
      have first := least otherKind other holds
      have distinct : entry.sequence ≠ other.sequence := by
        intro equal
        rw [sound.cargo.sent_inj sent sentToo equal, otherSnapshot] at snapshot
        cases snapshot
        exact different rfl
      have chosen : entry.sequence = sequence := same
      omega
  · exact (sound.cargo.flying other flying).2 entry sent

/-- A receive delivers only what comes before everything that is pending, if it is careful. -/
theorem Sound.receive_first (sound : lane.Sound) (careful : lane.Careful .receiver)
    (stepped : lane.receiveOn record = some next) {entry : DeliveryEntry Content}
    (delivered : next.delivered = lane.delivered ++ [entry]) : next.cargo.Ahead entry.sequence := by
  -- Only two steps of a receive deliver something.
  have idle : next.delivered ≠ lane.delivered := by
    rw [delivered]
    simp
  unfold receiveOn at stepped
  split at stepped
  · cases stepped
  · cases stepped
  · cases stepped
  · dsimp only at stepped
    split at stepped <;> cases stepped <;> exact absurd rfl idle
  · split at stepped
    · rename_i looks
      cases stepped
      simp only [Bool.and_eq_true, Option.isNone_iff_eq_none] at looks
      cases filled : lane.buffer with
      | none =>
        rw [filled] at idle
        exact absurd rfl idle
      | some buffered =>
        rw [filled] at idle
        exact absurd (congrArg Cargo.delivered (buffer_cargo looks.1 filled).1) idle
    · cases stepped
      exact absurd rfl idle
  · rename_i waits stage
    -- The buffered event goes before every snapshot.
    have handed (precedes : ∀ event, lane.bufferedOrdered = some event → ∀ kind snapshot,
        lane.snapshots.slot kind = some snapshot → event.sequence ≤ snapshot.sequence)
        (same : next = lane.tryBuffered waits) : next.cargo.Ahead entry.sequence := by
      subst same
      cases buffer : lane.bufferedOrdered with
      | none =>
        simp only [tryBuffered, buffer] at idle
        exact absurd rfl idle
      | some event =>
        have first := sound.buffered_first buffer (precedes event buffer) waits
        simp only [tryBuffered, buffer] at delivered
        rw [← List.singleton_inj.mp (List.append_cancel_left delivered)]
        exact first
    split at stepped
    · rename_i sequence first
      split at stepped
      · cases stepped
        exact absurd rfl idle
      · rename_i later
        cases stepped
        refine handed (fun event buffer kind snapshot held => ?_) rfl
        have least := Slots.next_eq_some SnapshotKind.mem_all first held
        simp only [precedesOrdered, buffer, Option.all_some, decide_eq_true_eq] at later
        omega
    · rename_i absent
      cases stepped
      refine handed (fun event buffer kind snapshot held => ?_) rfl
      rw [Slots.next_eq_none SnapshotKind.mem_all absent kind] at held
      cases held
  · rename_i waits sequence takes
    split at stepped
    · rename_i snapshot left taken
      cases stepped
      rw [← List.singleton_inj.mp (List.append_cancel_left delivered)]
      exact sound.taken_first careful takes taken
    · cases stepped
      exact absurd rfl idle

/-- Whoever moves but a receive delivers nothing. -/
theorem Sound.nothing_delivered (sound : lane.Sound) {choice : LaneChoice Content}
    (stepped : lane.Steps record choice next) (other : choice ≠ .receiver) :
    next.delivered = lane.delivered := by
  -- Deliveries are recorded by the receiver alone.
  cases choice with
  | receiver => exact absurd rfl other
  | sender => exact (sendOn_kept stepped).2.2.1
  | awaitOrdered =>
    simp only [Steps, DeliveryLane.step, wait] at stepped
    split at stepped
    · rename_i waits
      obtain ⟨later, found, same⟩ := Option.map_eq_some_iff.mp stepped
      subst same
      exact congrArg Cargo.delivered (buffer_cargo (sound.aware.waiting waits) found).1
    · cases stepped
  | awaitReady =>
    simp only [Steps, DeliveryLane.step, wait] at stepped
    split at stepped
    · split at stepped
      · cases stepped
        rfl
      · cases stepped
    · cases stepped
  | _ =>
    simp only [Steps, DeliveryLane.step] at stepped
    split at stepped
    · cases stepped
      rfl
    · cases stepped

/-- Careful steps keep what was delivered in order, and before what is pending. -/
theorem Sound.inOrder {choice : LaneChoice Content} (stepped : CarefulSteps record lane choice next)
    (sound : lane.Sound) (inOrder : lane.cargo.InOrder) : next.cargo.InOrder := by
  -- A receive delivers what comes before everything pending, and no one else delivers.
  obtain ⟨stepped, careful⟩ := stepped
  obtain ⟨moved, _⟩ := sound.step stepped
  refine inOrder.move sound.cargo moved fun entry _ delivered => ?_
  by_cases receives : choice = .receiver
  · subst receives
    exact sound.receive_first careful stepped delivered
  · have same := sound.nothing_delivered stepped receives
    replace delivered : next.delivered = lane.delivered ++ [entry] := delivered
    rw [same] at delivered
    simp at delivered

end DeliveryLane

end Hotki.Client

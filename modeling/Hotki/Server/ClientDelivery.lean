import Hotki.App.UiDelivery
import Hotki.Base.Channel
import Hotki.Base.Slots

/-! The delivery lane of a client: a bounded ordered channel beside slots for snapshots. -/

namespace Hotki.Client

open Base

variable {Content : Type*}

/-- The number of ordered events the lane holds. -/
def clientEventCapacity : Nat := 256

/-- The kinds of snapshots, in the order in which their slots are searched. -/
inductive SnapshotKind where
  | hud | selector | heartbeat | world
  deriving DecidableEq, Repr

/-- Every kind of snapshot. -/
def SnapshotKind.all : List SnapshotKind := [hud, selector, heartbeat, world]

/-- A message with its place among all that were sent. -/
structure DeliveryEntry (Content : Type*) where
  /-- A 64-bit counter, which is not modelled to wrap. -/
  sequence : Nat
  message : UiMessage Content
  deriving DecidableEq

/-- The kind of snapshot a message is, which is the slot it goes to. -/
def slotKind : UiMessage Content → Option SnapshotKind
  | .hudUpdate _ => some .hud
  | .selectorUpdate _ | .selectorHide => some .selector
  | .heartbeat _ => some .heartbeat
  | .world _ => some .world
  | _ => none

/-- The slot an entry has, if it is a snapshot. -/
def DeliveryEntry.kind (entry : DeliveryEntry Content) : Option SnapshotKind :=
  slotKind entry.message

/-- Whether the sender takes a message for a snapshot. -/
def isSnapshot : UiMessage Content → Bool
  | .hudUpdate _ | .selectorUpdate _ | .selectorHide | .heartbeat _ | .world _ => true
  | _ => false

/-- Whether a message is a log record, which a full lane drops. -/
def isLog : UiMessage Content → Bool
  | .log _ => true
  | _ => false

/-- The latest snapshots that were not delivered. -/
abbrev PendingSnapshots (Content : Type*) := Slots SnapshotKind (DeliveryEntry Content)

/-- The sequence of the earliest pending snapshot. -/
def PendingSnapshots.nextSequence (pending : PendingSnapshots Content) : Option Nat :=
  pending.next SnapshotKind.all DeliveryEntry.sequence

/-- Removes the pending snapshot of a sequence. -/
def PendingSnapshots.takeSequence (pending : PendingSnapshots Content) (sequence : Nat) :
    Option (DeliveryEntry Content × PendingSnapshots Content) :=
  pending.take SnapshotKind.all DeliveryEntry.sequence sequence

/-- How a send ended. -/
inductive DeliveryOutcome where
  | queued | coalesced | droppedLogFull | closed
  deriving DecidableEq, Repr

/-- Where the producer is in a send. -/
inductive SendStage (Content : Type*) where
  /-- No send is in progress; this is how the last one ended. -/
  | returned (outcome : Option DeliveryOutcome)
  /-- About to take a sequence for a snapshot. -/
  | sequencing (message : UiMessage Content)
  /-- About to put a snapshot in its slot. -/
  | storing (entry : DeliveryEntry Content)
  /-- About to wake the consumer. -/
  | notifying (coalesced : Bool)
  /-- About to reserve a place in the ordered channel, or awaiting one. -/
  | reserving (message : UiMessage Content)
  /-- About to count a log record that found the channel full. -/
  | dropping
  /-- About to take a sequence for an ordered event that has a place. -/
  | permitted (message : UiMessage Content)
  /-- About to put an ordered event in its place. -/
  | queueing (entry : DeliveryEntry Content)
  /-- A snapshot had no slot. -/
  | panicked

/-- The answer of a receive. -/
inductive Answer (Content : Type*) where
  | message (message : UiMessage Content)
  /-- Nothing is pending. -/
  | empty
  | disconnected

/-- Where the consumer is in a receive, and whether that waits for a message. -/
inductive RecvStage (Content : Type*) where
  /-- No receive is in progress; this is what the last one returned. -/
  | resting (answer : Option (Answer Content))
  /-- About to read how many log records were dropped. -/
  | counting (waits : Bool)
  /-- About to look for an ordered event. -/
  | looking (waits : Bool)
  /-- About to look for the earliest snapshot. -/
  | peeking (waits : Bool)
  /-- About to take the snapshot of a sequence. -/
  | taking (waits : Bool) (sequence : Nat)
  /-- Waiting for an ordered event or a wake-up. -/
  | waiting
  | dropped

/-- The lane, with its producer and its consumer. -/
structure DeliveryLane (Content : Type*) where
  ordered : List (DeliveryEntry Content) := []
  snapshots : PendingSnapshots Content := {}
  snapshotReady : Notify := {}
  droppedLogs : Nat := 0
  coalescedSnapshots : Nat := 0
  nextSequence : Nat := 0
  sender : SendStage Content := .returned none
  /-- Whether every handle of the producer was dropped. -/
  senderDropped : Bool := false
  receiver : RecvStage Content := .resting none
  reportedDroppedLogs : Nat := 0
  bufferedOrdered : Option (DeliveryEntry Content) := none
  orderedClosed : Bool := false
  /-- What was put in the channel and in the slots, in order. The code keeps none of these logs. -/
  sent : List (DeliveryEntry Content) := []
  /-- The snapshots that were replaced, each with the one that took its slot. -/
  replaced : List (DeliveryEntry Content × DeliveryEntry Content) := []
  /-- The entries that receives returned, in order. -/
  delivered : List (DeliveryEntry Content) := []

/-- Who moves. -/
inductive LaneChoice (Content : Type*) where
  /-- The producer starts to send a message. -/
  | send (message : UiMessage Content)
  /-- The producer goes on. -/
  | sender
  /-- The producer drops its handles. -/
  | dropSender
  /-- The consumer starts a receive, and waits if nothing is pending. -/
  | receive (waits : Bool)
  /-- The consumer goes on. -/
  | receiver
  /-- The wait of the consumer ends with what the ordered channel has. -/
  | awaitOrdered
  /-- The wait of the consumer ends with a wake-up. -/
  | awaitReady
  /-- The wait of the consumer is abandoned. -/
  | cancel
  | dropReceiver

namespace DeliveryLane

/-- Whether no send is in progress. -/
def sendsStopped (lane : DeliveryLane Content) : Bool :=
  match lane.sender with
  | .returned _ => true
  | _ => false

/-- Whether no receive is in progress. -/
def isResting (lane : DeliveryLane Content) : Bool :=
  match lane.receiver with
  | .resting _ => true
  | _ => false

/-- How a send goes on. -/
def sendOn (lane : DeliveryLane Content) : Option (DeliveryLane Content) :=
  match lane.sender with
  | .returned _ | .panicked => none
  | .sequencing message =>
    some { lane with
      nextSequence := lane.nextSequence + 1
      sender := .storing ⟨lane.nextSequence, message⟩ }
  | .storing entry =>
    match entry.kind with
    | none => some { lane with sender := .panicked }
    | some kind =>
      let old := lane.snapshots.slot kind
      some { lane with
        snapshots := lane.snapshots.set kind (some entry)
        coalescedSnapshots := lane.coalescedSnapshots + if old.isSome then 1 else 0
        sender := .notifying old.isSome
        sent := lane.sent ++ [entry]
        replaced := lane.replaced ++ old.toList.map fun old => (old, entry) }
  | .notifying coalesced =>
    some { lane with
      snapshotReady := lane.snapshotReady.notifyOne
      sender := .returned (some (if coalesced then .coalesced else .queued)) }
  | .reserving message =>
    match lane.receiver with
    | .dropped => some { lane with sender := .returned (some .closed) }
    | _ =>
      if lane.ordered.length < clientEventCapacity then
        some { lane with sender := .permitted message }
      -- Only a log record does not wait for a place.
      else if isLog message then some { lane with sender := .dropping }
      else none
  | .dropping =>
    some { lane with
      droppedLogs := lane.droppedLogs + 1
      sender := .returned (some .droppedLogFull) }
  | .permitted message =>
    some { lane with
      nextSequence := lane.nextSequence + 1
      sender := .queueing ⟨lane.nextSequence, message⟩ }
  | .queueing entry =>
    some { lane with
      ordered := lane.ordered ++ [entry]
      sender := .returned (some .queued)
      sent := lane.sent ++ [entry] }

/-- Ends a try with its answer: a receive that waits does so when nothing is pending. -/
def answering (waits : Bool) : Answer Content → RecvStage Content
  | .empty => if waits then .waiting else .resting (some .empty)
  | answer => .resting (some answer)

/-- Receives the next ordered event into the buffer, or learns that there will be none. -/
def buffer (lane : DeliveryLane Content) : Option (DeliveryLane Content) :=
  match lane.ordered with
  | entry :: rest => some { lane with ordered := rest, bufferedOrdered := some entry }
  | [] => if lane.senderDropped then some { lane with orderedClosed := true } else none

/-- Whether the snapshot of a sequence comes before the ordered event in the buffer. -/
def precedesOrdered (lane : DeliveryLane Content) (sequence : Nat) : Bool :=
  lane.bufferedOrdered.all fun ordered => sequence < ordered.sequence

/-- What a try returns without a snapshot: the buffered event, or why there is none. -/
def tryBuffered (lane : DeliveryLane Content) (waits : Bool) : DeliveryLane Content :=
  match lane.bufferedOrdered with
  | some entry =>
    { lane with
      bufferedOrdered := none
      receiver := answering waits (.message entry.message)
      delivered := lane.delivered ++ [entry] }
  | none =>
    { lane with receiver := answering waits (if lane.orderedClosed then .disconnected else .empty) }

/-- The report of newly dropped log records, given how a log record is a content. -/
def droppedLogSummary (record : String → String → String → Content) (newlyDropped : Nat) :
    UiMessage Content :=
  .log (record "warn" "hotki_server::delivery"
    s!"dropped {newlyDropped} server log messages under queue pressure")

/-- How a receive goes on, given how a log record is a content. -/
def receiveOn (record : String → String → String → Content) (lane : DeliveryLane Content) :
    Option (DeliveryLane Content) :=
  match lane.receiver with
  | .resting _ | .waiting | .dropped => none
  | .counting waits =>
    let newlyDropped := lane.droppedLogs - lane.reportedDroppedLogs
    if newlyDropped = 0 then some { lane with receiver := .looking waits }
    else
      some { lane with
        reportedDroppedLogs := lane.droppedLogs
        receiver := answering waits (.message (droppedLogSummary record newlyDropped)) }
  | .looking waits =>
    -- The ordered channel is looked at only with the buffer empty.
    if lane.bufferedOrdered.isNone && !lane.orderedClosed then
      some { lane.buffer.getD lane with receiver := .peeking waits }
    else some { lane with receiver := .peeking waits }
  | .peeking waits =>
    match lane.snapshots.nextSequence with
    | some sequence =>
      if lane.precedesOrdered sequence then some { lane with receiver := .taking waits sequence }
      else some (lane.tryBuffered waits)
    | none => some (lane.tryBuffered waits)
  | .taking waits sequence =>
    match lane.snapshots.takeSequence sequence with
    | some (entry, left) =>
      some { lane with
        snapshots := left
        receiver := answering waits (.message entry.message)
        delivered := lane.delivered ++ [entry] }
    -- It was replaced since it was seen.
    | none => some { lane with receiver := .looking waits }

/-- How the wait of a receive ends, if what it waits for is there. -/
def wait (lane : DeliveryLane Content) (ended : Option (DeliveryLane Content)) :
    Option (DeliveryLane Content) :=
  match lane.receiver with
  | .waiting => ended.map fun lane => { lane with receiver := .counting true }
  | _ => none

/-- One step of whoever is chosen, or none when they cannot move. -/
def step (record : String → String → String → Content) (lane : DeliveryLane Content) :
    LaneChoice Content → Option (DeliveryLane Content)
  | .send message =>
    if lane.sendsStopped && !lane.senderDropped then
      some { lane with
        sender := if isSnapshot message then .sequencing message else .reserving message }
    else none
  | .sender => lane.sendOn
  | .dropSender => if lane.sendsStopped then some { lane with senderDropped := true } else none
  | .receive waits =>
    if lane.isResting then some { lane with receiver := .counting waits } else none
  | .receiver => lane.receiveOn record
  | .awaitOrdered => lane.wait lane.buffer
  | .awaitReady =>
    lane.wait (if lane.snapshotReady.permit then some { lane with snapshotReady := {} } else none)
  | .cancel =>
    match lane.receiver with
    | .waiting => some { lane with receiver := .resting none }
    | _ => none
  | .dropReceiver => if lane.isResting then some { lane with receiver := .dropped } else none

/-- The transition relation, whoever moves. -/
def Steps (record : String → String → String → Content) (lane : DeliveryLane Content)
    (choice : LaneChoice Content) (next : DeliveryLane Content) : Prop :=
  lane.step record choice = some next

end DeliveryLane

end Hotki.Client

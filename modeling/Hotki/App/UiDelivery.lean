import Hotki.Base.HashMap

/-! The bounded mailbox to the UI thread: ordered events, coalesced snapshots, blocking senders. -/

namespace Hotki

open Base

/-- Maximum pending notifications, controls, and retained log messages. -/
def uiOrderedCapacity : Nat := 256

/-- A message to the UI, by its kind; the mailbox passes the content on unread. -/
inductive UiMessage (Content : Type*) where
  | hudKeyState (content : Content)
  | hudUpdate (content : Content)
  | selectorUpdate (content : Content)
  | selectorHide
  | notify (content : Content)
  | clearNotifications
  | showMainWindow (content : Content)
  | log (content : Content)
  | heartbeat (content : Content)
  | world (content : Content)
  deriving DecidableEq

/-- A local UI-only command, by its kind. -/
inductive UiCommand (Content : Type*) where
  | activateApp
  | showAbout
  | shutdown
  | showPermissionsHelp
  | hidePermissionsHelp
  | showLogs
  | hideLogs
  | setRuntimeHealth (content : Content)
  | setRuntimeHealthOverride (content : Content)
  | setServerBindings (content : Content)
  | setInputHealth (content : Content)
  | setPermissionStatusOverride (content : Content)
  | setNotificationPresentationOverride (content : Content)
  | setHudPresentationOverride (content : Content)
  deriving DecidableEq

/-- An event of the UI thread. -/
inductive UiEvent (Content : Type*) where
  | message (message : UiMessage Content)
  | command (command : UiCommand Content)
  deriving DecidableEq

/-- The classes of state of which only the latest pending value matters. -/
inductive SnapshotClass where
  | hud | selector | heartbeat | world | runtimeHealth | bindingHealth | permissionHealth
  deriving DecidableEq, Repr

namespace SnapshotClass

/-- Every class, in the order in which pending snapshots are searched. -/
def all : List SnapshotClass :=
  [hud, selector, runtimeHealth, bindingHealth, permissionHealth, heartbeat, world]

end SnapshotClass

namespace UiEvent

variable {Content : Type*}

/-- The snapshot class of an event, or none for an ordered event. -/
def snapshotClass : UiEvent Content → Option SnapshotClass
  | .message (.hudUpdate _) => some .hud
  | .message (.selectorUpdate _) | .message .selectorHide => some .selector
  | .message (.heartbeat _) => some .heartbeat
  | .message (.world _) => some .world
  | .command (.setRuntimeHealth _) => some .runtimeHealth
  | .command (.setServerBindings _) => some .bindingHealth
  | .command (.setPermissionStatusOverride _) => some .permissionHealth
  | _ => none

/-- Whether an event is a log message, which a full lane may drop. -/
def isLog : UiEvent Content → Bool
  | .message (.log _) => true
  | _ => false

end UiEvent

/-- One accepted event with its causal mailbox position. -/
structure SequencedUiEvent (Content : Type*) where
  sequence : Nat
  event : UiEvent Content
  deriving DecidableEq

/-- Latest pending value for each coalescible state class. -/
structure PendingSnapshots (Content : Type*) where
  slot : SnapshotClass → Option (SequencedUiEvent Content) := fun _ => none

namespace PendingSnapshots

variable {Content : Type*}

/-- The pending snapshots, in search order. -/
def entries (pending : PendingSnapshots Content) : List (SequencedUiEvent Content) :=
  SnapshotClass.all.filterMap pending.slot

/-- Retains an event in a slot. -/
def set (pending : PendingSnapshots Content) (kind : SnapshotClass)
    (entry : Option (SequencedUiEvent Content)) : PendingSnapshots Content where
  slot := Function.update pending.slot kind entry

/-- The earliest surviving snapshot sequence. -/
def nextSequence (pending : PendingSnapshots Content) : Option Nat :=
  (pending.entries.map SequencedUiEvent.sequence).min?

/-- The number of retained snapshot classes. -/
def len (pending : PendingSnapshots Content) : Nat := pending.entries.length

/-- Removes the snapshot at a sequence. -/
def take (pending : PendingSnapshots Content) (sequence : Nat) :
    Option (SequencedUiEvent Content × PendingSnapshots Content) :=
  let found := SnapshotClass.all.find? fun kind =>
    (pending.slot kind).any fun entry => entry.sequence == sequence
  found.bind fun kind => (pending.slot kind).map fun entry => (entry, pending.set kind none)

end PendingSnapshots

/-- Cumulative pressure counters for the delivery lane. -/
structure UiDeliveryStats where
  droppedLogs : Nat := 0
  coalescedSnapshots : Nat := 0
  deriving DecidableEq

/-- Mutable mailbox state protected by one short-lived lock. -/
structure UiDeliveryState (Content : Type*) where
  ordered : List (SequencedUiEvent Content) := []
  snapshots : PendingSnapshots Content := {}
  stats : UiDeliveryStats := {}
  /-- Sequence assigned to the next accepted event, below 2^64. -/
  nextSequence : Nat := 0

/-- Result of accepting one UI event. -/
inductive UiDeliveryOutcome where
  | queued | coalesced | droppedLogFull
  deriving DecidableEq

/-- What a sender is waiting for space to do. -/
inductive AwaitedSpace where
  /-- To move the snapshot of a sequence ahead of its own event. -/
  | flushing (sequence : Nat)
  /-- To append its own event. -/
  | finishing
  deriving DecidableEq

/-- Where a call of `send` stands. -/
inductive SenderStage (Content : Type*) where
  /-- About to read whether the receiver is open. -/
  | opening (event : UiEvent Content)
  /-- About to lock the mailbox. -/
  | locking (event : UiEvent Content)
  /-- Owning the lock, and about to wait for space. -/
  | parking (entry : SequencedUiEvent Content) (awaited : AwaitedSpace)
  /-- Asleep until notified. -/
  | sleeping (entry : SequencedUiEvent Content) (awaited : AwaitedSpace)
  /-- Notified, and about to take the lock again. -/
  | waking (entry : SequencedUiEvent Content) (awaited : AwaitedSpace)
  /-- Ended with an outcome, or with none because the receiver was closed. -/
  | returned (outcome : Option UiDeliveryOutcome)
  | panicked
  deriving DecidableEq

namespace SenderStage

variable {Content : Type*}

/-- The stage of a call after a notification. -/
def woken : SenderStage Content → SenderStage Content
  | .sleeping entry awaited => .waking entry awaited
  | stage => stage

/-- Whether a call is asleep. -/
def isSleeping : SenderStage Content → Bool
  | .sleeping _ _ => true
  | _ => false

end SenderStage

/-- Where the sole receiver stands. -/
inductive ReceiverStage where
  | live
  /-- Marked closed, and about to wake the senders. -/
  | dropping
  | dropped
  deriving DecidableEq

/-- The mailbox shared by the senders' calls and the receiver. -/
structure UiDelivery (Content : Type*) where
  state : UiDeliveryState Content := {}
  /-- The call that owns the lock between two steps. -/
  lockedBy : Option Nat := none
  /-- Every call of `send` so far, each known by its position. -/
  senders : List (SenderStage Content) := []
  receiver : ReceiverStage := .live

/-- What a step shows of the events passing through the mailbox. -/
inductive UiObservation (Content : Type*) where
  /-- A call took the next sequence for its event. -/
  | sequenced (sender : Nat) (entry : SequencedUiEvent Content)
  /-- A call returned with its snapshot pending, perhaps in the place of an older one. -/
  | retained (sender : Nat) (entry : SequencedUiEvent Content)
      (replaced : Option (SequencedUiEvent Content))
  /-- An ordered event was accepted, its call having left no earlier snapshot pending. -/
  | accepted (sender : Nat) (entry : SequencedUiEvent Content)
  /-- An event got its final place, behind all that were placed before. -/
  | placed (entry : SequencedUiEvent Content)
  /-- A call returned with its ordered event in the lane. -/
  | queued (sender : Nat) (entry : SequencedUiEvent Content)
  /-- A call returned having dropped its log event. -/
  | droppedLog (sender : Nat) (entry : SequencedUiEvent Content)
  /-- The receiver was given an event. -/
  | delivered (entry : SequencedUiEvent Content)
  | panicked (sender : Nat)
  deriving DecidableEq

/-- Who takes the next step. -/
inductive UiChoice (Content : Type*) where
  /-- A new call of `send`. -/
  | send (event : UiEvent Content)
  /-- An earlier call goes on. -/
  | sender (sender : Nat)
  /-- The receiver takes one event, waking a given call if it frees a place in the lane. -/
  | tryRecv (woken : Nat)
  | dropReceiver

/-- What a critical section leaves: the state, the call's next stage, and what was seen. -/
structure Section (Content : Type*) where
  state : UiDeliveryState Content
  stage : SenderStage Content
  seen : List (UiObservation Content)

namespace UiDeliveryState

variable {Content : Type*}

/-- Appends an event to the ordered lane. -/
def pushBack (state : UiDeliveryState Content) (entry : SequencedUiEvent Content) :
    UiDeliveryState Content :=
  { state with ordered := state.ordered ++ [entry] }

/-- Stops a call at a full lane: it ends if the receiver is closed, and else waits. -/
def awaitSpace (isOpen : Bool) (entry : SequencedUiEvent Content) (awaited : AwaitedSpace)
    (seen : List (UiObservation Content)) (state : UiDeliveryState Content) : Section Content :=
  ⟨state, if isOpen then .parking entry awaited else .returned none, seen⟩

/-- Appends the call's own event, if there is space. -/
def finish (isOpen : Bool) (sender : Nat) (entry : SequencedUiEvent Content)
    (seen : List (UiObservation Content)) (state : UiDeliveryState Content) : Section Content :=
  if state.ordered.length ≥ uiOrderedCapacity then state.awaitSpace isOpen entry .finishing seen
  else ⟨state.pushBack entry, .returned (some .queued),
    seen ++ [.placed entry, .queued sender entry]⟩

/-- Moves pending snapshots into the lane one by one, and then the call's own event. -/
def flush (isOpen : Bool) (sender : Nat) (entry : SequencedUiEvent Content) :
    Nat → List (UiObservation Content) → UiDeliveryState Content → Section Content
  -- Each turn removes one of the pending snapshots, so none is left after so many turns.
  | 0, seen, state => state.finish isOpen sender entry (seen ++ [.accepted sender entry])
  | turns + 1, seen, state =>
    match state.snapshots.nextSequence with
    | none => state.finish isOpen sender entry (seen ++ [.accepted sender entry])
    | some sequence =>
      if state.ordered.length ≥ uiOrderedCapacity then
        state.awaitSpace isOpen entry (.flushing sequence) seen
      else
        match state.snapshots.take sequence with
        | none => ⟨state, .panicked, seen ++ [.panicked sender]⟩
        | some (snapshot, snapshots) =>
          flush isOpen sender entry turns (seen ++ [.placed snapshot])
            { state.pushBack snapshot with snapshots }

/-- The critical section of a call, up to its return or its first wait. -/
def send (isOpen : Bool) (sender : Nat) (event : UiEvent Content)
    (state : UiDeliveryState Content) : Section Content :=
  -- The number is taken before it is known whether the event will be kept.
  let entry := ⟨state.nextSequence, event⟩
  let state := { state with nextSequence := (state.nextSequence + 1) % UInt64.size }
  match event.snapshotClass with
  | some kind =>
    let replaced := state.snapshots.slot kind
    let state := { state with snapshots := state.snapshots.set kind (some entry) }
    let seen := [.sequenced sender entry, .retained sender entry replaced]
    -- The newer snapshot takes the slot; only its replacement is counted.
    if replaced.isSome then
      ⟨{ state with stats :=
          { state.stats with coalescedSnapshots := state.stats.coalescedSnapshots + 1 } },
        .returned (some .coalesced), seen⟩
    else ⟨state, .returned (some .queued), seen⟩
  | none =>
    -- A log never waits for room: it is dropped.
    if event.isLog && state.ordered.length + state.snapshots.len ≥ uiOrderedCapacity then
      ⟨{ state with stats := { state.stats with droppedLogs := state.stats.droppedLogs + 1 } },
        .returned (some .droppedLogFull), [.sequenced sender entry, .droppedLog sender entry]⟩
    else state.flush isOpen sender entry state.snapshots.len [.sequenced sender entry]

/-- The critical section of a call that was notified, up to its return or its next wait. -/
def resume (isOpen : Bool) (sender : Nat) (entry : SequencedUiEvent Content) :
    AwaitedSpace → UiDeliveryState Content → Section Content
  | .finishing, state => state.finish isOpen sender entry []
  | .flushing sequence, state =>
    if state.ordered.length ≥ uiOrderedCapacity then
      state.awaitSpace isOpen entry (.flushing sequence) []
    else
      match state.snapshots.take sequence with
      | none => ⟨state, .panicked, [.panicked sender]⟩
      | some (snapshot, snapshots) =>
        { state.pushBack snapshot with snapshots }.flush isOpen sender entry snapshots.len
          [.placed snapshot]

/-- Removes the front of the ordered lane. -/
def popFront (state : UiDeliveryState Content) :
    Option (UiDeliveryState Content × SequencedUiEvent Content) :=
  match state.ordered with
  | [] => none
  | entry :: ordered => some ({ state with ordered }, entry)

/-- Takes the next event out of the mailbox, and says whether that freed a place in the lane. -/
def tryRecv (state : UiDeliveryState Content) :
    Option (UiDeliveryState Content × SequencedUiEvent Content × Bool) :=
  let fromLane := state.popFront.map fun popped => (popped.1, popped.2, true)
  match state.snapshots.nextSequence with
  | none => fromLane
  | some sequence =>
    if state.ordered.head?.all fun entry => sequence < entry.sequence then
      (state.snapshots.take sequence).map fun (entry, snapshots) =>
        ({ state with snapshots }, entry, false)
    else fromLane

end UiDeliveryState

namespace UiDelivery

variable {Content : Type*}

/-- Whether the receiver still counts as open. -/
def receiverOpen (mailbox : UiDelivery Content) : Bool := mailbox.receiver == .live

/-- Replaces the stage of one call. -/
def setSender (mailbox : UiDelivery Content) (sender : Nat) (stage : SenderStage Content) :
    UiDelivery Content :=
  { mailbox with senders := mailbox.senders.set sender stage }

/-- Ends a critical section, keeping the lock for a call that is about to wait. -/
def leave (mailbox : UiDelivery Content) (sender : Nat) (left : Section Content) :
    UiDelivery Content × List (UiObservation Content) :=
  let lockedBy := if left.stage matches .parking _ _ then some sender else none
  ({ mailbox.setSender sender left.stage with state := left.state, lockedBy }, left.seen)

/-- The next operation of one call of `send`. -/
def senderStep (mailbox : UiDelivery Content) (sender : Nat) :
    Option (UiDelivery Content × List (UiObservation Content)) :=
  mailbox.senders[sender]?.bind fun stage =>
    match stage with
    | .opening event =>
      let stage := if mailbox.receiverOpen then .locking event else .returned none
      some (mailbox.setSender sender stage, [])
    -- The lock is a mutex: a sender that finds it taken is not enabled.
    | .locking event =>
      if mailbox.lockedBy.isSome then none
      else some (mailbox.leave sender (mailbox.state.send mailbox.receiverOpen sender event))
    | .parking entry awaited =>
      some ({ mailbox.setSender sender (.sleeping entry awaited) with lockedBy := none }, [])
    | .waking entry awaited =>
      if mailbox.lockedBy.isSome then none
      else
        some (mailbox.leave sender
          (mailbox.state.resume mailbox.receiverOpen sender entry awaited))
    | .sleeping _ _ | .returned _ | .panicked => none

/-- Wakes one sleeping call, whichever is chosen, or none when no call is asleep. -/
def notifyOne (mailbox : UiDelivery Content) (woken : Nat) : Option (UiDelivery Content) :=
  if mailbox.senders.any SenderStage.isSleeping then
    mailbox.senders[woken]?.bind fun stage =>
      if stage.isSleeping then some (mailbox.setSender woken stage.woken) else none
  else some mailbox

/-- Wakes every sleeping call. -/
def notifyAll (mailbox : UiDelivery Content) : UiDelivery Content :=
  { mailbox with senders := mailbox.senders.map SenderStage.woken }

/-- One step of the mailbox, taken by whoever is chosen, or none when they cannot move. -/
def step (mailbox : UiDelivery Content) :
    UiChoice Content → Option (UiDelivery Content × List (UiObservation Content))
  | .send event =>
    some ({ mailbox with senders := mailbox.senders ++ [.opening event] }, [])
  | .sender sender => mailbox.senderStep sender
  | .tryRecv woken =>
    if mailbox.receiver = .live ∧ mailbox.lockedBy = none then
      match mailbox.state.tryRecv with
      | none => some (mailbox, [])
      -- An ordered event leaves room behind it, and one waiter is told.
      | some (state, entry, true) =>
        ({ mailbox with state }.notifyOne woken).map fun next => (next, [.delivered entry])
      -- With no ordered event waiting, the oldest snapshot is delivered.
      | some (state, entry, false) =>
        some ({ mailbox with state }, [.placed entry, .delivered entry])
    else none
  | .dropReceiver =>
    match mailbox.receiver with
    | .live => some ({ mailbox with receiver := .dropping }, [])
    | .dropping => some ({ mailbox.notifyAll with receiver := .dropped }, [])
    | .dropped => none

/-- The transition relation of the mailbox, labelled with the choice and what it shows. -/
def Steps (mailbox : UiDelivery Content)
    (label : UiChoice Content × List (UiObservation Content)) (next : UiDelivery Content) : Prop :=
  mailbox.step label.1 = some (next, label.2)

end UiDelivery

end Hotki

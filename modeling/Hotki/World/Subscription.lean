import Hotki.World.Polling

/-! Subscriptions to the world: the event cursor and a subscriber that keeps the focus it follows. -/

namespace Hotki

open Base

/-- Cursor tracking progress through a subscription stream. -/
structure EventCursor where
  /-- Total number of events dropped for this cursor due to lag. -/
  lostCount : Nat := 0
  /-- Where its receiver is in the channel. -/
  receiver : Nat
  deriving DecidableEq

/-- Subscribes to the events of a hub. -/
def EventCursor.subscribe (hub : Broadcast WorldEvent) : EventCursor := { receiver := hub.subscribe }

/-- One look of a cursor for the next event, which it finds or not. -/
def EventCursor.look (cursor : EventCursor) (hub : Broadcast WorldEvent) :
    Option WorldEvent × EventCursor :=
  match hub.recv cursor.receiver with
  | (.value event, receiver) => (some event, { cursor with receiver })
  -- What was lost is only counted, and the wait for an event goes on.
  | (.lagged missed, receiver) =>
    (none, { lostCount := min (cursor.lostCount + missed) u64Max, receiver })
  | (.empty, receiver) => (none, { cursor with receiver })

/-- Where a subscriber that follows the focus is. -/
inductive FollowStage where
  | subscribing
  /-- It has subscribed, and is about to read the snapshot that goes with the subscription. -/
  | seeding (cursor : EventCursor)
  /-- A focus is about to be applied: the snapshot's, or that of an event. -/
  | applying (cursor : EventCursor) (lastLost : Nat) (focus : Option FocusSnapshot)
  /-- It waits for the next event. -/
  | reading (cursor : EventCursor) (lastLost : Nat)
  deriving DecidableEq

/-- What a subscriber does with an event, which is to start again if others were lost before. -/
def FollowStage.take (cursor : EventCursor) (lastLost : Nat) : WorldEvent → FollowStage
  | .focusChanged change =>
    if cursor.lostCount > lastLost then .subscribing
    else .applying cursor cursor.lostCount change.focus
  | .displaysChanged =>
    if cursor.lostCount > lastLost then .subscribing else .reading cursor cursor.lostCount

/-- A step of a subscriber: where it gets, and the focus it applies, if it does. -/
def FollowStage.step {Displays : Type} (world : PollingWorld Displays) :
    FollowStage → FollowStage × Option (Option FocusSnapshot)
  | .subscribing => (.seeding (.subscribe world.hub), none)
  | .seeding cursor => (.applying cursor cursor.lostCount world.state.focus, none)
  | .applying cursor lastLost focus => (.reading cursor lastLost, some focus)
  | .reading cursor lastLost =>
    match cursor.look world.hub with
    | (some event, cursor) => (.take cursor lastLost event, none)
    | (none, cursor) => (.reading cursor lastLost, none)

/-- A subscriber of a polling world with the focus it holds. -/
structure Followed (Displays : Type) where
  world : PollingWorld Displays
  stage : FollowStage := .subscribing
  held : Option FocusSnapshot := none
  /-- Where the subscription began, which the code does not keep. -/
  since : Nat := 0
  /-- The events received since it began, which the code does not keep. -/
  heard : List WorldEvent := []

/-- Who moves: somebody in the world, or the subscriber. -/
inductive FollowChoice (Displays : Type) where
  | world (choice : PollChoice Displays)
  | follow

namespace Followed

variable {Displays : Type}

/-- The event a subscriber receives when it moves, if it does. -/
def receives (state : Followed Displays) : Option WorldEvent :=
  match state.stage with
  | .reading cursor _ => (cursor.look state.world.hub).1
  | _ => none

/-- A step of the subscriber. -/
def follow (state : Followed Displays) : Followed Displays :=
  let (stage, applied) := state.stage.step state.world
  { state with
    stage
    held := applied.getD state.held
    since := if state.stage = .subscribing then state.world.hub.subscribe else state.since
    heard := if state.stage = .subscribing then [] else state.heard ++ state.receives.toList }

/-- The transition relation of a world and a subscriber, whoever moves. -/
def Steps [BEq Displays] [Inhabited Displays] (state : Followed Displays) :
    FollowChoice Displays → Followed Displays → Prop
  | .world choice, next =>
    ∃ world, state.world.Steps choice world ∧ next = { state with world }
  | .follow, next => next = state.follow

end Followed

end Hotki

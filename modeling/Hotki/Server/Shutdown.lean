import Hotki.Base.Run
import Mathlib.Logic.Function.Basic

/-! Shared shutdown coordination: a flag, a broadcast notification, requests and waiters. -/

namespace Hotki

/-- Where a shutdown request stands. -/
inductive RequestStage where
  | unstarted
  /-- The flag is set, and this was or was not the first request to set it. -/
  | flagged (first : Bool)
  | finished (first : Bool)
  deriving DecidableEq

/-- Where a waiter stands. A future remembers how often waiters had been notified when it was made,
and it is ready once they have been notified again. -/
inductive WaiterStage where
  | unstarted
  /-- The future was made. -/
  | created (seen : Nat)
  /-- The future is registered with the notification. -/
  | enabled (seen : Nat)
  /-- The flag was read unset, and the future is about to be polled. -/
  | awaiting (seen : Nat)
  /-- The future was polled before it was ready, and its task sleeps until it is woken. -/
  | asleep (seen : Nat)
  /-- The task was woken and is about to poll the future again. -/
  | woken (seen : Nat)
  | returned
  deriving DecidableEq

/-- What the parties of a shutdown share, and where each of them stands. -/
structure ShutdownCoordinator where
  requested : Bool := false
  /-- How often all waiters were notified. -/
  notifications : Nat := 0
  requests : Nat → RequestStage := fun _ => .unstarted
  waiters : Nat → WaiterStage := fun _ => .unstarted

/-- What may happen next. -/
inductive ShutdownChoice where
  /-- Some owner starts a request, which sets the flag. -/
  | request (index : Nat)
  /-- A started request notifies the waiters. -/
  | notify (index : Nat)
  /-- A task starts to wait. -/
  | wait (index : Nat)
  /-- A task that waits runs to its next shared access. -/
  | proceed (index : Nat)
  /-- A notification reaches a sleeping task. -/
  | wake (index : Nat)
  /-- Something else runs. -/
  | other
  deriving DecidableEq

/-- What a party sees happen. -/
inductive ShutdownLabel where
  | requested (index : Nat) (first : Bool)
  | returned (waiter : Nat)
  | silent
  deriving DecidableEq

namespace ShutdownCoordinator

/-- Moves a waiter. -/
def setWaiter (state : ShutdownCoordinator) (index : Nat) (stage : WaiterStage) :
    ShutdownCoordinator :=
  { state with waiters := Function.update state.waiters index stage }

/-- Polls a waiter's future. -/
def poll (state : ShutdownCoordinator) (index seen : Nat) : ShutdownCoordinator × ShutdownLabel :=
  if seen < state.notifications then (state.setWaiter index .returned, .returned index)
  else (state.setWaiter index (.asleep seen), .silent)

/-- Runs a waiter to its next access of the shared state. -/
def proceed (state : ShutdownCoordinator) (index : Nat) :
    Option (ShutdownCoordinator × ShutdownLabel) :=
  match state.waiters index with
  | .created seen => some (state.setWaiter index (.enabled seen), .silent)
  | .enabled seen =>
    if state.requested then some (state.setWaiter index .returned, .returned index)
    else some (state.setWaiter index (.awaiting seen), .silent)
  | .awaiting seen => some (state.poll index seen)
  | .woken seen => some (state.poll index seen)
  | .unstarted | .asleep _ | .returned => none

/-- One step of one party, if it can move. -/
def step (state : ShutdownCoordinator) :
    ShutdownChoice → Option (ShutdownCoordinator × ShutdownLabel)
  | .request index =>
    match state.requests index with
    | .unstarted =>
      let first := !state.requested
      let requests := Function.update state.requests index (.flagged first)
      some ({ state with requested := true, requests }, .silent)
    | .flagged _ | .finished _ => none
  | .notify index =>
    match state.requests index with
    | .flagged first =>
      let requests := Function.update state.requests index (.finished first)
      let notifications := state.notifications + 1
      some ({ state with notifications, requests }, .requested index first)
    | .unstarted | .finished _ => none
  | .wait index =>
    match state.waiters index with
    | .unstarted => some (state.setWaiter index (.created state.notifications), .silent)
    | _ => none
  | .proceed index => state.proceed index
  | .wake index =>
    match state.waiters index with
    | .asleep seen =>
      if seen < state.notifications then some (state.setWaiter index (.woken seen), .silent)
      else none
    | _ => none
  | .other => some (state, .silent)

/-- A step of some party. -/
def Steps (state : ShutdownCoordinator) (label : ShutdownLabel) (next : ShutdownCoordinator) :
    Prop := ∃ choice, state.step choice = some (next, label)

end ShutdownCoordinator

/-- What was started goes on: requests to their notification, waiters to their next access, and
notifications to the tasks that sleep. -/
def ShutdownChoice.Ongoing : ShutdownChoice → Prop
  | .notify _ | .proceed _ | .wake _ => True
  | .request _ | .wait _ | .other => False

end Hotki

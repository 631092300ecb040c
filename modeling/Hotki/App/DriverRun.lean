import Hotki.App.ConnectionDriver

/-! A run of the connection driver: what it receives, what it owns, and what it does to the server
and the UI. -/

namespace Hotki

namespace App

/-- What the driver's task owns. -/
inductive Owned where
  | nothing
  /-- A connect attempt in flight. -/
  | connectTask
  /-- A connect attempt that was aborted and has yet to end. -/
  | canceledTask
  /-- The client of a connection. -/
  | client
  deriving DecidableEq

/-- What a run of the driver does and receives, as far as connections and controls go. -/
inductive DriverEvent where
  /-- A connect attempt starts. -/
  | connecting
  /-- A connection is established and opened. -/
  | opened
  /-- A server control is received without a connection. -/
  | queued (control : ServerControl)
  /-- A queued control is handed to the server handler. -/
  | drained (control : ServerControl)
  /-- A server control is received with a connection, and handed to the handler. -/
  | handled (control : ServerControl)
  /-- A shutdown control is received. -/
  | shutdown
  /-- The shutdown command is sent to the UI. -/
  | closed
  deriving DecidableEq

/-- The driver in its task, with the controls in its channel. -/
structure DriverRun (Input : Type*) where
  driver : ConnectionDriver Input
  rxCtrl : List ControlMsg := []
  owned : Owned := .nothing
  /-- The task's run has returned. -/
  returned : Bool := false
  events : List DriverEvent := []

/-- What can happen in a run of the driver. -/
inductive RunInput (Input : Type*) where
  /-- A control is sent to the driver. -/
  | send (msg : ControlMsg)
  /-- The connection is lost, which the driver finds out later. -/
  | drop
  /-- The driver receives the next control. -/
  | receive (observed : PermissionsStatus)
  /-- Something else that the driver awaits comes. -/
  | await (input : DriverInput Input)
  /-- The aborted connect task ends. -/
  | taskEnds
  /-- The run returns. -/
  | finish

namespace DriverRun

variable {Input : Type*} [DecidableEq Input]

/-- What a step of the driver is seen to do. -/
def eventsOf (driver next : ConnectionDriver Input) : DriverInput Input → List DriverEvent
  | .begin _ => if next.stage = .connecting then [.connecting] else []
  -- A client that was refused, or did not open, is dropped again.
  | .connected _ _ => if next.stage = .waiting then [] else [.opened]
  | .drain _ =>
    match driver.pendingControls with
    | control :: _ => [.drained control]
    | [] => []
  | .control msg _ =>
    match ControlRoute.fromMsg msg, driver.stage with
    -- Outside the select loop the message is only put on the queue.
    | .toServer control, .driving _ => [.handled control]
    | .toServer control, _ => [.queued control]
    | .shutdown, _ => [.shutdown]
    | .toLocal _, _ => []
  | .connectFailed _ | .connectCanceled | .dropped | .activated _ | .heartbeat _ | .lost _
  | .shutdownAcknowledged | .controlsClosed => []

/-- What the driver owns after a step. -/
def ownedAfter (owned : Owned) (driver next : ConnectionDriver Input) :
    DriverInput Input → Owned
  | .begin _ => if next.stage = .connecting then .connectTask else owned
  | .connected _ _ => if next.stage = .waiting then .nothing else .client
  | .connectFailed _ | .connectCanceled => .nothing
  -- A control that stops or pauses an attempt aborts its task.
  | .control _ _ =>
    if driver.stage = .connecting ∧ next.stage ≠ .connecting then .canceledTask else owned
  | .lost _ | .shutdownAcknowledged => .nothing
  | .dropped | .activated _ | .drain _ | .heartbeat _ | .controlsClosed => owned

/-- Whether the driver goes on, or awaits the end of an aborted task. -/
def isBusy (run : DriverRun Input) : Bool := run.returned || run.owned == .canceledTask

/-- A run after a step of its driver. -/
def moved (run : DriverRun Input) (input : DriverInput Input) (next : ConnectionDriver Input) :
    DriverRun Input :=
  { run with
    driver := next
    owned := ownedAfter run.owned run.driver next input
    events := run.events ++ eventsOf run.driver next input }

/-- The end of the run, which closes the UI if the driver shut down. -/
def finished (run : DriverRun Input) : DriverRun Input :=
  { run with
    returned := true
    events := run.events ++ if run.driver.health.isShuttingDown then [.closed] else [] }

/-- One step of a run. -/
def step (run : DriverRun Input) : RunInput Input → Option (DriverRun Input)
  -- The channel is unbounded: sending neither waits nor fails.
  | .send msg => some { run with rxCtrl := run.rxCtrl ++ [msg] }
  | .drop => if run.isBusy then none else (run.driver.step .dropped).map (run.moved .dropped)
  -- The driver reads the channel only between its awaited calls.
  | .receive observed =>
    match run.rxCtrl with
    | msg :: rest =>
      if run.isBusy then none
      else do
        let next ← run.driver.step (.control msg observed)
        some { run.moved (.control msg observed) next with rxCtrl := rest }
    | [] => none
  | .await input =>
    match input with
    | .control _ _ | .dropped => none
    -- A closed channel is seen once everything sent before has been read.
    | .controlsClosed =>
      if run.isBusy ∨ run.rxCtrl ≠ [] then none
      else (run.driver.step .controlsClosed).map (run.moved .controlsClosed)
    | input => if run.isBusy then none else (run.driver.step input).map (run.moved input)
  | .taskEnds => if run.owned = .canceledTask then some { run with owned := .nothing } else none
  | .finish => if !run.isBusy ∧ run.driver.stage = .stopped then some run.finished else none

/-- The transition relation of runs. -/
def Steps (run : DriverRun Input) (input : RunInput Input) (next : DriverRun Input) : Prop :=
  run.step input = some next

end DriverRun

end App

end Hotki

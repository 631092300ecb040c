import Hotki.App.RuntimeHealth

/-! The connection driver: it connects, activates the config, and acts on control messages. -/

namespace Hotki

namespace App

/-- One permission snapshot together with whether it was overridden. -/
structure PermissionObservation where
  status : PermissionsStatus
  overridden : Bool

/-- A control message of the UI. -/
inductive ControlMsg where
  | reload
  | shutdown
  | injectKey (ident : String) (reportErrors : Bool)
  | openPermissionsHelp
  | notice (title text : String)
  | permissionsChanged (observation : PermissionObservation)

/-- Local UI control that does not require a server connection. -/
inductive LocalControl where
  | openPermissionsHelp
  | notice (title text : String)
  | permissionsChanged (observation : PermissionObservation)

/-- Server-bound control command. -/
inductive ServerControl where
  | reload
  | injectKey (ident : String) (reportErrors : Bool)
  deriving DecidableEq

/-- Routing class for a control message. -/
inductive ControlRoute where
  | toLocal (control : LocalControl)
  | toServer (control : ServerControl)
  | shutdown

/-- Classifies a control message by the connection it needs. -/
def ControlRoute.fromMsg : ControlMsg → ControlRoute
  | .shutdown => .shutdown
  | .reload => .toServer .reload
  | .injectKey ident reportErrors => .toServer (.injectKey ident reportErrors)
  | .openPermissionsHelp => .toLocal .openPermissionsHelp
  | .notice title text => .toLocal (.notice title text)
  | .permissionsChanged observation => .toLocal (.permissionsChanged observation)

/-- Result of processing a control message. -/
inductive ControlOutcome where
  | continue_
  /-- Retry the server connection. -/
  | retryConnect
  /-- Pause a connection attempt until required permissions are granted. -/
  | pauseConnect
  /-- Stop the current driver loop. -/
  | stop
  deriving DecidableEq

/-- What the server behind an owned connection answered to config activations. -/
structure OwnedServer where
  /-- The config that it accepted last. -/
  activated : Option String := none
  /-- Whether it rejected a config after that. -/
  rejected : Bool := false
  /-- Whether the connection was lost, of which the driver may not know yet. -/
  lost : Bool := false
  deriving DecidableEq

/-- Where the driver's task stands between two of its awaits. -/
inductive DriverStage where
  /-- About to connect for the first time. -/
  | starting
  /-- About to connect again. -/
  | retrying
  /-- A connect attempt is in flight. -/
  | connecting
  /-- Awaiting the activation of the config on a new connection. -/
  | activating (server : OwnedServer)
  /-- Draining the controls that were queued while connecting. -/
  | draining (server : OwnedServer)
  /-- Awaiting the activation of a reload, while draining or driving. -/
  | reloading (server : OwnedServer) (draining : Bool)
  /-- Driving the events of a connection. -/
  | driving (server : OwnedServer)
  /-- Waiting for a signal to retry. -/
  | waiting
  /-- Awaiting the server's acknowledgement of a shutdown. -/
  | closing (server : OwnedServer)
  | stopped
  deriving DecidableEq

/-- The stage in which a control with some outcome leaves the driver. -/
def DriverStage.after (stage : DriverStage) (outcome : ControlOutcome) : DriverStage :=
  match stage, outcome with
  | .connecting, .stop => .stopped
  | .connecting, .pauseConnect => .waiting
  | .waiting, .stop => .stopped
  | .waiting, .retryConnect => .retrying
  | .driving server, .stop => .closing server
  | stage, _ => stage

/-- A server whose connection is lost, if it was not before. -/
def OwnedServer.drop (server : OwnedServer) : Option OwnedServer :=
  if server.lost then none else some { server with lost := true }

/-- The stage of a driver whose connection is lost under it, if it has one that was not. -/
def DriverStage.lose : DriverStage → Option DriverStage
  | .activating server => server.drop.map .activating
  | .draining server => server.drop.map .draining
  | .reloading server fromQueue => server.drop.map (.reloading · fromQueue)
  | .driving server => server.drop.map .driving
  | .starting | .retrying | .connecting | .waiting | .closing _ | .stopped => none

/-- The state of the connection driver, with the snapshots that it published. -/
structure ConnectionDriver (Input : Type*) where
  configPath : String
  serverEventTapEnabled : Bool
  health : RuntimeHealth Input
  /-- Deterministic permission state, when active. -/
  permissionOverride : Option PermissionsStatus := none
  /-- Server-bound controls received before a connection is ready. -/
  pendingControls : List ServerControl := []
  stage : DriverStage := .starting
  /-- Every published snapshot, with the stage to which its transition leads. -/
  published : List (RuntimeHealth Input × DriverStage) := []

/-- What the driver is given at one of its awaits. -/
inductive DriverInput (Input : Type*) where
  /-- The next connect begins, with the permissions that are observed. -/
  | begin (observed : PermissionsStatus)
  /-- The connect attempt succeeds; the connection opens, or fails to. -/
  | connected (observed : PermissionsStatus) (opened : Except String Unit)
  | connectFailed (error : String)
  /-- The connect task ends without a result. -/
  | connectCanceled
  /-- The connection is lost, whatever the driver awaits. -/
  | dropped
  /-- A request to activate a config is acknowledged, or fails: it was rejected, or the connection
  was lost before the answer came. -/
  | activated (result : Except String Unit)
  /-- The next queued control, or the end of the queue. -/
  | drain (observed : PermissionsStatus)
  | control (msg : ControlMsg) (observed : PermissionsStatus)
  /-- A heartbeat with the projection of its input health. -/
  | heartbeat (input : Input)
  /-- The event loop finds the connection lost or silent, or it does not open for that loop. -/
  | lost (opening : Option String)
  | shutdownAcknowledged
  /-- The last sender of controls is gone. -/
  | controlsClosed

namespace ConnectionDriver

variable {Input : Type*}

/-- Publishes the complete health snapshot after a state transition. -/
def publishHealth (driver : ConnectionDriver Input) : ConnectionDriver Input :=
  { driver with published := driver.published ++ [(driver.health, driver.stage)] }

/-- A new driver, with the permissions that are observed. -/
def new (configPath : String) (serverEventTapEnabled : Bool) (observed : PermissionsStatus)
    (input : Input) : ConnectionDriver Input :=
  ({ configPath, serverEventTapEnabled
     health := { state := .initialConnection configPath, permissions := observed, input } } :
    ConnectionDriver Input).publishHealth

/-- Moves the driver on to a stage. -/
def enter (driver : ConnectionDriver Input) (stage : DriverStage) : ConnectionDriver Input :=
  { driver with stage }

/-- Records a connection failure that can be retried. -/
def markDisconnected (driver : ConnectionDriver Input) (message : String) :
    ConnectionDriver Input :=
  { driver with health := driver.health.disconnect message }.publishHealth

/-- Begins the first connection or a reconnect attempt. -/
def markConnecting (driver : ConnectionDriver Input) : ConnectionDriver Input :=
  { driver with health := driver.health.startConnecting driver.configPath }.publishHealth

/-- Records that required permissions are still missing. -/
def markWaitingForPermissions (driver : ConnectionDriver Input) : ConnectionDriver Input :=
  { driver with health := driver.health.blockOnPermissions }.publishHealth

/-- Records an acknowledged active config and ready server. -/
def markReady (driver : ConnectionDriver Input) : ConnectionDriver Input :=
  { driver with health := driver.health.runConfig driver.configPath }.publishHealth

/-- Records a rejected config while keeping any prior active config explicit. -/
def markInvalidConfig (driver : ConnectionDriver Input) (message : String) :
    ConnectionDriver Input :=
  { driver with health := driver.health.rejectConfig driver.configPath message }.publishHealth

/-- Whether the latest observation contains both permissions used by hotkeys. -/
def observedPermissionsGranted (perms : PermissionsStatus) : Bool :=
  perms.accessibilityOk && perms.inputOk

/-- Whether a permission snapshot allows the server event tap to start. -/
def requiredPermissionsGranted (driver : ConnectionDriver Input) (perms : PermissionsStatus) :
    Bool :=
  !driver.serverEventTapEnabled || observedPermissionsGranted perms

/-- Acts on a permission observation; the stage moves on with the snapshot it is about. -/
def permissionsChanged (driver : ConnectionDriver Input) (observation : PermissionObservation) :
    ConnectionDriver Input × ControlOutcome :=
  let status := observation.status
  let driver := { driver with
    permissionOverride := if observation.overridden then some status else none
    health := { driver.health with permissions := status } }
  if !observedPermissionsGranted status then
    -- A rejected config stays in view while its server is live.
    let driver :=
      if driver.health.serverConnected && driver.health.phase == .invalidConfig then driver
      else { driver with health := driver.health.blockOnPermissions }
    let outcome :=
      if driver.serverEventTapEnabled && !driver.health.serverConnected then
        ControlOutcome.pauseConnect
      else .continue_
    ((driver.enter (driver.stage.after outcome)).publishHealth, outcome)
  else if driver.health.serverConnected && driver.health.phase == .waitingPermissions then
    (driver.markReady, .continue_)
  else if driver.health.phase ∈
      [RuntimePhase.disconnected, .connecting, .waitingPermissions] then
    let driver := { driver with health := driver.health.queueReconnect driver.configPath }
    ((driver.enter (driver.stage.after .retryConnect)).publishHealth, .retryConnect)
  else (driver.publishHealth, .continue_)

/-- Handles control messages that do not require a connected server. -/
def handleLocalControl (driver : ConnectionDriver Input) :
    LocalControl → ConnectionDriver Input × ControlOutcome
  | .openPermissionsHelp | .notice _ _ => (driver, .continue_)
  | .permissionsChanged observation => driver.permissionsChanged observation

/-- Whether the event tap lacks permissions, in which case the driver moves on to a stage. -/
def eventTapPermissionsMissing (driver : ConnectionDriver Input) (observed : PermissionsStatus)
    (blocked : DriverStage) : ConnectionDriver Input × Bool :=
  let perms := driver.permissionOverride.getD observed
  let driver :=
    if driver.health.permissions ≠ perms then
      { driver with health := { driver.health with permissions := perms } }.publishHealth
    else driver
  if driver.requiredPermissionsGranted perms then (driver, false)
  else ((driver.enter blocked).markWaitingForPermissions, true)

/-- Handles a control that requires a server connection, up to the answer to a reload. -/
def handleServerControl (driver : ConnectionDriver Input) (server : OwnedServer) (draining : Bool)
    (observed : PermissionsStatus) : ServerControl → ConnectionDriver Input
  | .reload =>
    let checked := driver.eventTapPermissionsMissing observed driver.stage
    if checked.2 then checked.1
    else
      { checked.1 with
        health := checked.1.health.startConfigReload checked.1.configPath
        stage := .reloading server draining }.publishHealth
  | .injectKey _ _ => driver

/-- Records shutdown before waiting for owned runtime work to finish. -/
def beginShutdown (driver : ConnectionDriver Input) : ConnectionDriver Input :=
  { driver with
    health := driver.health.beginShutdown
    stage := driver.stage.after .stop }.publishHealth

/-- Routes a control message without a connection, queueing it if it needs one. -/
def routeControlMsg (driver : ConnectionDriver Input) (msg : ControlMsg) : ConnectionDriver Input :=
  match ControlRoute.fromMsg msg with
  | .toLocal control => (driver.handleLocalControl control).1
  | .toServer control =>
    { driver with
      pendingControls := driver.pendingControls ++ [control]
      health := driver.health.queueReconnect driver.configPath
      stage := driver.stage.after .retryConnect }.publishHealth
  | .shutdown => driver.beginShutdown

/-- Routes a control message with a connection. -/
def routeConnected (driver : ConnectionDriver Input) (server : OwnedServer) (msg : ControlMsg)
    (observed : PermissionsStatus) : ConnectionDriver Input :=
  match ControlRoute.fromMsg msg with
  | .toLocal control => (driver.handleLocalControl control).1
  | .toServer control => driver.handleServerControl server false observed control
  | .shutdown => driver.beginShutdown

/-- Begins to connect, unless permissions are missing. -/
def connect (driver : ConnectionDriver Input) (observed : PermissionsStatus) :
    ConnectionDriver Input :=
  let checked := driver.eventTapPermissionsMissing observed .waiting
  if checked.2 then checked.1 else (checked.1.enter .connecting).markConnecting

/-- Takes over a new connection, unless permissions went missing or it does not open. -/
def takeClient (driver : ConnectionDriver Input) (observed : PermissionsStatus)
    (opened : Except String Unit) : ConnectionDriver Input :=
  -- The attempt is over, and the client is owned while permissions are checked.
  let checked := (driver.enter (.activating {})).eventTapPermissionsMissing observed .waiting
  if checked.2 then checked.1
  else
    match opened with
    | .ok _ => checked.1
    | .error error =>
      (checked.1.enter .waiting).markDisconnected s!"Failed to open server connection: {error}"

/-- Publishes the outcome of an activation, and moves on to a stage. -/
def activateConfig (driver : ConnectionDriver Input) (server : OwnedServer)
    (next : OwnedServer → DriverStage) : Except String Unit → ConnectionDriver Input
  | .ok _ =>
    (driver.enter
      (next { server with activated := some driver.configPath, rejected := false })).markReady
  | .error error =>
    -- Every failure is taken for a rejection, though the server of a lost connection gave none.
    (driver.enter
      (next { server with rejected := server.rejected || !server.lost })).markInvalidConfig error

/-- The answer to an activation, which on a lost connection can only be that it failed. -/
def answerActivation (driver : ConnectionDriver Input) (server : OwnedServer)
    (next : OwnedServer → DriverStage) (result : Except String Unit) :
    Option (ConnectionDriver Input) :=
  if server.lost ∧ result.isOk then none else some (driver.activateConfig server next result)

/-- Publishes the input health of a heartbeat if it changed. -/
def handleInputHealth [DecidableEq Input] (driver : ConnectionDriver Input) (input : Input) :
    ConnectionDriver Input :=
  if driver.health.input ≠ input then
    { driver with health := { driver.health with input } }.publishHealth
  else driver

/-- One step of the driver, from one await to the next. -/
def step [DecidableEq Input] (driver : ConnectionDriver Input) :
    DriverInput Input → Option (ConnectionDriver Input)
  | .begin observed =>
    if driver.stage = .starting ∨ driver.stage = .retrying then some (driver.connect observed)
    else none
  | .connected observed opened =>
    if driver.stage = .connecting then some (driver.takeClient observed opened) else none
  | .connectFailed error =>
    if driver.stage = .connecting then
      some ((driver.enter .waiting).markDisconnected s!"Failed to start hotkey server: {error}")
    else none
  | .connectCanceled =>
    if driver.stage = .connecting then
      some ((driver.enter .waiting).markDisconnected "Server connection attempt was canceled")
    else none
  -- The stream may break in any state that still holds a live server.
  | .dropped => driver.stage.lose.map driver.enter
  -- The answer decides where a start-up activation or a reload goes on.
  | .activated result =>
    match driver.stage with
    | .activating server => driver.answerActivation server .draining result
    -- A reload read while the queue was drained returns to the queue.
    | .reloading server true => driver.answerActivation server .draining result
    | .reloading server false => driver.answerActivation server .driving result
    | _ => none
  | .drain observed =>
    match driver.stage, driver.pendingControls with
    -- The queue is served to its end before the select loop is entered.
    | .draining server, [] => some (driver.enter (.driving server))
    | .draining server, control :: rest =>
      some ({ driver with pendingControls := rest }.handleServerControl server true observed
        control)
    | _, _ => none
  | .control msg observed =>
    match driver.stage with
    -- Without a connection a message for the server is queued; the others are served at once.
    | .connecting | .waiting => some (driver.routeControlMsg msg)
    | .driving server => some (driver.routeConnected server msg observed)
    | _ => none
  | .heartbeat input =>
    match driver.stage with
    | .driving _ => some (driver.handleInputHealth input)
    | _ => none
  -- The select loop sees the stream end; whatever opening it again brought, the driver reconnects.
  | .lost opening =>
    match driver.stage, opening with
    | .driving _, none =>
      some ((driver.enter .retrying).markDisconnected "Server connection lost; reconnecting")
    | .driving _, some error =>
      some ((driver.enter .retrying).markDisconnected
        s!"Failed to open server connection: {error}")
    | _, _ => none
  | .shutdownAcknowledged =>
    match driver.stage with
    | .closing _ => some (driver.enter .stopped)
    | _ => none
  | .controlsClosed =>
    if driver.stage = .waiting then some (driver.enter .stopped) else none

/-- The transition relation of the driver, labelled with what it is given. -/
def Steps [DecidableEq Input] (driver : ConnectionDriver Input) (label : DriverInput Input)
    (next : ConnectionDriver Input) : Prop :=
  driver.step label = some next

end ConnectionDriver

end App

end Hotki

import Hotki.Base.Run

/-! The runtime health that the connection driver publishes: lifecycle states and projections. -/

namespace Hotki

namespace App

/-- Permission state for a specific capability. -/
inductive PermissionState where
  | granted
  | denied
  /-- The state has not been queried yet. -/
  | unknown
  deriving DecidableEq

/-- Whether a permission state is granted. -/
def PermissionState.isGranted (state : PermissionState) : Bool := state == .granted

/-- Current permission status for the process. -/
structure PermissionsStatus where
  accessibility : PermissionState := .unknown
  inputMonitoring : PermissionState := .unknown
  screenRecording : PermissionState := .unknown
  deriving DecidableEq

namespace PermissionsStatus

/-- Whether the accessibility permission is granted. -/
def accessibilityOk (status : PermissionsStatus) : Bool := status.accessibility.isGranted

/-- Whether the input monitoring permission is granted. -/
def inputOk (status : PermissionsStatus) : Bool := status.inputMonitoring.isGranted

end PermissionsStatus

/-- Coarse lifecycle phase for the app and its server runtime. -/
inductive RuntimePhase where
  | disconnected | connecting | invalidConfig | waitingPermissions | ready | retrying | shuttingDown
  deriving DecidableEq

/-- Connection component of the health snapshot. -/
inductive ConnectionStatus where
  /-- No server connection is active. -/
  | disconnected
  /-- A connection attempt is in progress. -/
  | connecting
  /-- The app has an active server connection. -/
  | connected
  /-- The active connection is closing during shutdown. -/
  | closing
  deriving DecidableEq

/-- Valid lifecycle states for the app's runtime lane. -/
inductive RuntimeState where
  /-- No server connection is active; the message is the context of a failure. -/
  | disconnected (message : Option String)
  /-- The first server connection and config activation are in progress. -/
  | initialConnection (candidate : String)
  /-- A reconnect has been requested but no connection attempt is active yet. -/
  | queuedReconnect (candidate : String)
  /-- A server connection attempt after a failure is active. -/
  | reconnecting (candidate : String)
  /-- A connected server is activating a replacement config. -/
  | liveConfigReload (active : Option String) (candidate : String)
  /-- Required permissions are missing. -/
  | permissionBlocked (active : Option String) (liveRuntime : Bool)
  /-- A connected server is running the active config. -/
  | running (active : String)
  /-- A connected server rejected a config candidate. -/
  | configRejected (active : Option String) (candidate message : String)
  /-- Owned runtime work is finishing before the app exits. -/
  | shuttingDown (liveRuntime : Bool)
  deriving DecidableEq

/-- Complete state of the app's runtime lane that the UI sees. -/
structure RuntimeHealth (Input : Type*) where
  state : RuntimeState
  /-- Latest permission observation owned by the runtime. -/
  permissions : PermissionsStatus := {}
  /-- Physical-input health that is stable over transitions. -/
  input : Input
  deriving DecidableEq

namespace RuntimeHealth

variable {Input : Type*}

/-- Stable diagnostic phase projection. -/
def phase (health : RuntimeHealth Input) : RuntimePhase :=
  match health.state with
  | .disconnected _ => .disconnected
  | .initialConnection _ => .connecting
  | .queuedReconnect _ | .reconnecting _ | .liveConfigReload _ _ => .retrying
  | .permissionBlocked _ _ => .waitingPermissions
  | .running _ => .ready
  | .configRejected _ _ _ => .invalidConfig
  | .shuttingDown _ => .shuttingDown

/-- Stable diagnostic connection projection. -/
def connection (health : RuntimeHealth Input) : ConnectionStatus :=
  match health.state with
  | .disconnected _ | .queuedReconnect _ | .permissionBlocked _ false | .shuttingDown false =>
    .disconnected
  | .initialConnection _ | .reconnecting _ => .connecting
  | .liveConfigReload _ _ | .permissionBlocked _ true | .running _ | .configRejected _ _ _ =>
    .connected
  | .shuttingDown true => .closing

/-- Config currently installed in a live engine. -/
def activeConfig (health : RuntimeHealth Input) : Option String :=
  match health.state with
  | .liveConfigReload active _ | .permissionBlocked active _ | .configRejected active _ _ => active
  | .running active => some active
  | .disconnected _ | .initialConnection _ | .queuedReconnect _ | .reconnecting _
  | .shuttingDown _ => none

/-- Whether the current snapshot has a live server connection. -/
def serverConnected (health : RuntimeHealth Input) : Bool := health.connection == .connected

/-- Whether owned runtime work is finishing. -/
def isShuttingDown (health : RuntimeHealth Input) : Bool :=
  match health.state with
  | .shuttingDown _ => true
  | _ => false

/-- Records an offline failure that can be retried. -/
def disconnect (health : RuntimeHealth Input) (message : String) : RuntimeHealth Input :=
  { health with state := .disconnected (some message) }

/-- Begins the current initial connection or a reconnect after a failure. -/
def startConnecting (health : RuntimeHealth Input) (candidate : String) : RuntimeHealth Input :=
  match health.state with
  | .initialConnection _ => { health with state := .initialConnection candidate }
  | _ => { health with state := .reconnecting candidate }

/-- Queues a reconnect before a connection attempt can start. -/
def queueReconnect (health : RuntimeHealth Input) (candidate : String) : RuntimeHealth Input :=
  { health with state := .queuedReconnect candidate }

/-- Records missing permissions while preserving whether the server remains live. -/
def blockOnPermissions (health : RuntimeHealth Input) : RuntimeHealth Input :=
  { health with state := .permissionBlocked health.activeConfig health.serverConnected }

/-- Records an acknowledged active config and ready server. -/
def runConfig (health : RuntimeHealth Input) (active : String) : RuntimeHealth Input :=
  { health with state := .running active }

/-- Begins activating a replacement config on a live server. -/
def startConfigReload (health : RuntimeHealth Input) (candidate : String) : RuntimeHealth Input :=
  { health with state := .liveConfigReload health.activeConfig candidate }

/-- Records a rejected candidate while retaining the previous live config. -/
def rejectConfig (health : RuntimeHealth Input) (candidate message : String) :
    RuntimeHealth Input :=
  { health with state := .configRejected health.activeConfig candidate message }

/-- Records shutdown before waiting for owned runtime work to finish. -/
def beginShutdown (health : RuntimeHealth Input) : RuntimeHealth Input :=
  { health with state := .shuttingDown health.serverConnected }

end RuntimeHealth

end App

end Hotki

import Hotki.Base.CommandLine

/-! A client's server process: the options it is launched with, and who holds it while it runs. -/

namespace Hotki

open Base

def serverFlag : String := "--server"

def socketFlag : String := "--socket"

def disableEventTapFlag : String := "--disable-event-tap"

def parentPidFlag : String := "--parent-pid"

def logFilterFlag : String := "--log-filter"

/-- The flags that the options of a server process are given by. -/
def serverFlags : List String :=
  [serverFlag, socketFlag, parentPidFlag, logFilterFlag, disableEventTapFlag]

/-- Replaces a flag and its value, or adds them. -/
def replaceFlagPair (args : List String) (flag value : String) : List String :=
  CommandOption.removePairs flag args ++ [flag, value]

/-- Adds a flag, or takes it away. -/
def setPlainFlag (args : List String) (flag : String) (enabled : Bool) : List String :=
  args.filter (fun arg => decide (arg ≠ flag)) ++ if enabled then [flag] else []

/-- Configuration for launching a server process. -/
structure ProcessConfig where
  executable : String
  args : List String := [serverFlag]
  deriving DecidableEq

namespace ProcessConfig

def setExecutable (config : ProcessConfig) (executable : String) : ProcessConfig :=
  { config with executable }

/-- Ensures that the process runs as a server. -/
def ensureServerMode (config : ProcessConfig) : ProcessConfig :=
  if config.args.any fun arg => decide (arg = serverFlag) then config
  else { config with args := serverFlag :: config.args }

def setSocketPath (config : ProcessConfig) (path : String) : ProcessConfig :=
  { config with args := replaceFlagPair config.args socketFlag path }

def setParentPid (config : ProcessConfig) (pid : UInt32) : ProcessConfig :=
  { config with args := replaceFlagPair config.args parentPidFlag (toString pid.toNat) }

def setLogFilter (config : ProcessConfig) (filter : String) : ProcessConfig :=
  { config with args := replaceFlagPair config.args logFilterFlag filter }

/-- Enables or disables the physical keyboard event tap in the server process. -/
def setEventTapEnabled (config : ProcessConfig) (enabled : Bool) : ProcessConfig :=
  { config with args := setPlainFlag config.args disableEventTapFlag !enabled }

end ProcessConfig

/-- The policy for spawning a server, and the spawned process that is tracked. -/
structure ManagedServer where
  socketPath : String
  autoSpawn : Bool := false
  config : Option ProcessConfig := none
  pendingLogFilter : Option String := none
  pendingEventTapEnabled : Option Bool := none
  /-- The tracked process, by its place among those spawned. -/
  server : Option Nat := none
  deriving DecidableEq

/-- A choice about the server to spawn. -/
inductive ServerSetting where
  | socketPath (path : String)
  | autoSpawn
  | logFilter (filter : String)
  | eventTapEnabled (enabled : Bool)
  | connectOnly
  deriving DecidableEq

namespace ManagedServer

section Settings

/- `pid` is the process of the client, and `exe` what reading its executable's path gives. -/
variable (pid : UInt32) (exe : Option String)

/-- The process configuration, brought up to date. -/
def spawnConfig (managed : ManagedServer) (exe : String) : ProcessConfig :=
  let config := managed.config.getD { executable := exe }
  let config := (config.setExecutable exe).ensureServerMode
  let config := (config.setSocketPath managed.socketPath).setParentPid pid
  let config := managed.pendingLogFilter.elim config config.setLogFilter
  managed.pendingEventTapEnabled.elim config config.setEventTapEnabled

/-- Brings the process configuration up to date, if servers are spawned at all. -/
def ensureAutoSpawnConfig (managed : ManagedServer) : ManagedServer :=
  if !managed.autoSpawn then managed
  else exe.elim managed fun exe => { managed with config := some (managed.spawnConfig pid exe) }

/-- Changes the configuration that setting an option works on. -/
def configure (managed : ManagedServer) (change : ProcessConfig → ProcessConfig) : ManagedServer :=
  let managed := managed.ensureAutoSpawnConfig pid exe
  if managed.autoSpawn then { managed with config := managed.config.map change } else managed

def setSocketPath (managed : ManagedServer) (path : String) : ManagedServer :=
  { managed with socketPath := path, config := managed.config.map (·.setSocketPath path) }

def enableAutoSpawnServer (managed : ManagedServer) : ManagedServer :=
  ({ managed with autoSpawn := true }).ensureAutoSpawnConfig pid exe

def setServerLogFilter (managed : ManagedServer) (filter : String) : ManagedServer :=
  ({ managed with pendingLogFilter := some filter }).configure pid exe (·.setLogFilter filter)

def setServerEventTapEnabled (managed : ManagedServer) (enabled : Bool) : ManagedServer :=
  ({ managed with pendingEventTapEnabled := some enabled }).configure pid exe
    (·.setEventTapEnabled enabled)

def disableAutoSpawn (managed : ManagedServer) : ManagedServer :=
  { managed with autoSpawn := false, config := none }

/-- Makes a choice. -/
def apply (managed : ManagedServer) : ServerSetting → ManagedServer
  | .socketPath path => managed.setSocketPath path
  | .autoSpawn => managed.enableAutoSpawnServer pid exe
  | .logFilter filter => managed.setServerLogFilter pid exe filter
  | .eventTapEnabled enabled => managed.setServerEventTapEnabled pid exe enabled
  | .connectOnly => managed.disableAutoSpawn

end Settings

end ManagedServer

/-- How many attempts a connect makes once the startup window is over. -/
def connectAttempts : Nat := 5

/-- A server process that was spawned. -/
structure ServerChild where
  /-- What it was launched with. -/
  config : ProcessConfig
  alive : Bool := true
  /-- Whether it was told to terminate. -/
  signalled : Bool := false
  /-- Whether its exit status has been read. -/
  reaped : Bool := false
  deriving DecidableEq

/-- Which of its two loops a connect is in. -/
inductive ConnectLoop where
  /-- Polling a spawned server during its startup window. -/
  | polling
  | retry (attempt : Nat)
  deriving DecidableEq

/-- How far a connect has come. -/
inductive ConnectPlace where
  /-- At the head of the polling loop. -/
  | window
  /-- About to check the spawned server, before an attempt. -/
  | before (loop : ConnectLoop)
  | attempting (loop : ConnectLoop)
  /-- About to check the spawned server, after an attempt that failed. -/
  | refused (loop : ConnectLoop)
  /-- Sleeping before the next attempt. -/
  | sleeping (loop : ConnectLoop)
  deriving DecidableEq

/-- The call of a client that is in progress. -/
inductive ClientCall where
  | idle
  | connecting (spawned : Option Nat) (place : ConnectPlace)
  /-- A failed connect is about to stop the server it spawned. -/
  | failing (child : Nat)
  /-- A failed connect waits for the server it spawned to exit. -/
  | abandoning (child : Nat)
  /-- The server was asked to shut down. -/
  | requesting
  /-- The tracked process is about to be stopped. -/
  | halting
  /-- The process that was tracked is waited for. -/
  | stopping (child : Nat)
  /-- The handle of a process is about to be dropped, and the client with it or not. -/
  | dropping (child : Nat) (client : Bool)
  /-- The client is dropped. -/
  | gone
  deriving DecidableEq

/-- How spawning a server process ends. -/
inductive SpawnOutcome where
  | failed
  /-- It exited before it was looked at: its status was read, or it was not even found. -/
  | died (read : Bool)
  | running
  deriving DecidableEq

/-- What killing a process and waiting for it comes to. -/
inductive KillOutcome where
  | failed
  /-- It was killed, but waiting for it failed. -/
  | unwaited
  | waited
  deriving DecidableEq

/-- What the system answers while the handle of a process is dropped. -/
structure DropAnswers where
  /-- Whether its status can be read at once. -/
  readable : Bool := true
  /-- Whether a process that is not seen to have exited is found. -/
  found : Bool := true
  /-- Whether its status is read in the end, after it was told to terminate. -/
  waited : Bool := true
  deriving DecidableEq

/-- What a client does, and what happens around it. -/
inductive ClientMove where
  | set (exe : Option String) (setting : ServerSetting)
  | connect (outcome : SpawnOutcome)
  /-- The polling loop looks at the clock. -/
  | poll (elapsed : Bool)
  /-- The spawned server is looked at; its status may fail to be read. -/
  | check (readable : Bool)
  | attempt (connects : Bool)
  | wake
  | disconnect
  | shutdown
  /-- The request to shut down is answered, or fails. -/
  | answered (ok : Bool)
  /-- Stopping a process begins; its status may fail to be read. -/
  | stop (readable : Bool)
  /-- The exit of a process that was told to terminate is seen. -/
  | noticed
  /-- A process that was told to terminate is to be killed. -/
  | timedOut (outcome : KillOutcome)
  /-- The handle of a process is dropped. -/
  | released (answers : DropAnswers)
  /-- The call in progress is dropped. -/
  | cancel
  | drop
  | exits (child : Nat)
  deriving DecidableEq

/-- A client with the server processes it has spawned. -/
structure ManagedClient where
  managed : ManagedServer
  connected : Bool := false
  children : List ServerChild := []
  call : ClientCall := .idle
  deriving DecidableEq

namespace ServerChild

/-- Its exit status is read. -/
def reap (child : ServerChild) : ServerChild := { child with reaped := true }

/-- It is told to terminate. -/
def signal (child : ServerChild) : ServerChild := { child with signalled := true }

/-- It has exited, and its exit status is read. -/
def finish (child : ServerChild) : ServerChild := { child with alive := false, reaped := true }

/-- Its handle is dropped: it is terminated unless it is seen to have exited, and waited for. -/
def release (child : ServerChild) (answers : DropAnswers) : ServerChild :=
  -- A status that has been read before is at hand.
  if child.reaped || (!child.alive && answers.readable) then child.reap
  -- A process that has not exited is there to be found.
  else if child.alive || answers.found then
    if answers.waited then child.signal.finish else child.signal
  else child

end ServerChild

namespace ManagedClient

/-- Changes a spawned process. -/
def modifyChild (state : ManagedClient) (child : Nat) (change : ServerChild → ServerChild) :
    ManagedClient :=
  { state with children := state.children.modify child change }

/-- Whether a spawned process is running. -/
def isAlive (state : ManagedClient) (child : Nat) : Bool := state.children[child]?.any (·.alive)

/-- Whether the exit status of a spawned process has been read. -/
def isReaped (state : ManagedClient) (child : Nat) : Bool :=
  state.children[child]?.any (·.reaped)

/-- Drops the client, and the process it tracks with it. -/
def finish (state : ManagedClient) : ManagedClient :=
  { state with
    managed := { state.managed with server := none }
    connected := false
    call := state.managed.server.elim .gone (.dropping · true) }

/-- A connect fails, after stopping the server it spawned if there is one. -/
def fail (state : ManagedClient) : Option Nat → ManagedClient
  | none => state.finish
  | some child => { state with call := .failing child }

/-- A connect succeeds: what it spawned is tracked from now on. -/
def succeed (state : ManagedClient) (spawned : Option Nat) : ManagedClient :=
  { state with
    managed := { state.managed with server := spawned }
    connected := true
    call := state.managed.server.elim .idle (.dropping · false) }

/-- Spawns what the policy asks for, and begins to connect. -/
def connect (state : ManagedClient) (outcome : SpawnOutcome) : ManagedClient :=
  if state.connected then state
  else
    match state.managed.config with
    | none => { state with call := .connecting none (.before (.retry 1)) }
    | some config =>
      match outcome with
      | .failed => state.finish
      | .died true =>
        finish { state with
          children := state.children ++ [{ config, alive := false, reaped := true }] }
      | .died false =>
        { state with
          children := state.children ++ [{ config, alive := false }]
          call := .dropping state.children.length true }
      | .running =>
        { state with
          children := state.children ++ [{ config }]
          call := .connecting (some state.children.length) .window }

/-- Where a connect goes on after a check that found nothing wrong. -/
def checked (state : ManagedClient) (spawned : Option Nat) : ConnectPlace → Option ManagedClient
  | .before loop => some { state with call := .connecting spawned (.attempting loop) }
  | .refused .polling => some { state with call := .connecting spawned (.sleeping .polling) }
  | .refused (.retry attempt) =>
    some <|
      if attempt < connectAttempts then
        { state with call := .connecting spawned (.sleeping (.retry (attempt + 1))) }
      else state.fail spawned
  | _ => none

/-- Looks at the spawned server between attempts. -/
def check (state : ManagedClient) (spawned : Option Nat) (place : ConnectPlace) (readable : Bool) :
    Option ManagedClient :=
  match spawned with
  | none => state.checked none place
  | some child =>
    -- Only before an attempt and after one that failed is there a check.
    (state.checked spawned place).map fun next =>
      if !readable then state.fail spawned
      else if state.isAlive child then next
      else (state.modifyChild child ServerChild.reap).fail spawned

/-- Begins to stop a process: the call that waits for it, or what follows when there is no need. -/
def stopChild (state : ManagedClient) (child : Nat) (readable : Bool) (waiting : ClientCall)
    (done : ManagedClient → ManagedClient) : ManagedClient :=
  -- A status that has been read before is at hand.
  if state.isReaped child || !readable then done state
  else if state.isAlive child then
    { state.modifyChild child ServerChild.signal with call := waiting }
  else done (state.modifyChild child ServerChild.reap)

/-- A call on a client that stays ends. -/
def rest (state : ManagedClient) : ManagedClient := { state with call := .idle }

/-- Stops the process that a call is about to stop. -/
def stop (state : ManagedClient) (readable : Bool) : Option ManagedClient :=
  match state.call with
  | .failing child => some (state.stopChild child readable (.abandoning child) finish)
  | .halting =>
    match state.managed.server with
    | none => some state.rest
    | some child =>
      let state := { state with managed := { state.managed with server := none } }
      some (state.stopChild child readable (.stopping child) rest)
  | _ => none

/-- The process that a call waits for, with what follows the call. -/
def awaited (state : ManagedClient) : Option (Nat × (ManagedClient → ManagedClient)) :=
  match state.call with
  | .abandoning child => some (child, finish)
  | .stopping child => some (child, rest)
  | _ => none

/-- Drops the call in progress, where it waits for something. -/
def cancel (state : ManagedClient) : Option ManagedClient :=
  match state.call with
  | .connecting spawned (.attempting _) | .connecting spawned (.sleeping _) =>
    some (spawned.elim state.finish fun child => { state with call := .dropping child true })
  -- The process waited for was moved into the call, whose end does not touch it.
  | .abandoning _ => some state.finish
  | .stopping _ | .requesting => some state.rest
  | _ => none

variable (pid : UInt32)

/-- One move, or none when it cannot happen. -/
def step (state : ManagedClient) : ClientMove → Option ManagedClient
  | .set exe setting =>
    if state.call = .idle then some { state with managed := state.managed.apply pid exe setting }
    else none
  | .connect outcome => if state.call = .idle then some (state.connect outcome) else none
  | .poll elapsed =>
    match state.call with
    | .connecting spawned .window =>
      let loop := if elapsed then .retry 1 else .polling
      some { state with call := .connecting spawned (.before loop) }
    | _ => none
  | .check readable =>
    match state.call with
    | .connecting spawned place => state.check spawned place readable
    | _ => none
  | .attempt connects =>
    match state.call with
    | .connecting spawned (.attempting loop) =>
      some <|
        if connects then state.succeed spawned
        else { state with call := .connecting spawned (.refused loop) }
    | _ => none
  | .wake =>
    match state.call with
    | .connecting spawned (.sleeping .polling) =>
      some { state with call := .connecting spawned .window }
    | .connecting spawned (.sleeping loop) =>
      some { state with call := .connecting spawned (.before loop) }
    | _ => none
  | .disconnect => if state.call = .idle then some { state with connected := false } else none
  | .shutdown =>
    if state.call = .idle then
      some { state with call := if state.connected then .requesting else .halting }
    else none
  | .answered ok =>
    if state.call = .requesting then some { state with call := if ok then .halting else .idle }
    else none
  | .stop readable => state.stop readable
  | .noticed =>
    state.awaited.bind fun (child, done) =>
      if state.isAlive child then none
      else some (done (state.modifyChild child ServerChild.reap))
  | .timedOut outcome =>
    state.awaited.map fun (child, done) =>
      done (if outcome = .waited then state.modifyChild child ServerChild.finish else state)
  | .released answers =>
    match state.call with
    | .dropping child client =>
      let state := state.modifyChild child (·.release answers)
      some (if client then state.finish else state.rest)
    | _ => none
  | .cancel => state.cancel
  | .drop => if state.call = .idle then some state.finish else none
  | .exits child =>
    if state.isAlive child then
      some (state.modifyChild child fun found => { found with alive := false })
    else none

/-- A move as a relation. -/
def Steps (state : ManagedClient) (move : ClientMove) (next : ManagedClient) : Prop :=
  state.step pid move = some next

end ManagedClient

end Hotki

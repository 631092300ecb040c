import Hotki.Base.Run

/-! The idle timer: client connections, failed broadcasts, wake events, and the main event loop. -/

namespace Hotki

/-- Main-loop wake reason. -/
inductive WakeEvent where
  /-- Shutdown state changed and the loop should check it again. -/
  | shutdown
  /-- A client connected and any idle timer should be canceled. -/
  | clientConnected
  /-- The last observed client disconnected and idle shutdown can be armed. -/
  | clientDisconnected
  deriving DecidableEq

/-- Origin of a server shutdown request. -/
inductive ShutdownReason where
  | rpc
  | parentExited
  /-- The last-client idle deadline elapsed. -/
  | idleExpired
  | ipcRuntimeFailed
  | ipcStopped
  | eventLoopDestroyed
  deriving DecidableEq

/-- Shared idle timer state, as the server status reports it. -/
structure IdleTimerState where
  armed : Bool := false
  deadline : Nat := 0

namespace IdleTimerState

/-- Marks the idle timer as armed with a deadline. -/
def arm (deadline : Nat) : IdleTimerState := ⟨true, deadline⟩

/-- The cleared idle timer. -/
def disarm : IdleTimerState := ⟨false, 0⟩

end IdleTimerState

/-- An event given to the loop's callback. -/
inductive LoopEvent where
  | user (wake : WakeEvent)
  /-- An event of the window system. -/
  | other

/-- A number of seconds, in nanoseconds. -/
def fromSecs (secs : Nat) : Nat := secs * 1000000000

/-- What the main event loop keeps between two iterations. -/
structure EventLoop where
  idleTimeoutSecs : Nat := 5
  clientDisconnected : Bool := false
  /-- Deadline of the idle timer, or none if it is not running. -/
  idleDeadline : Option Nat := none
  idleState : IdleTimerState := {}
  /-- The monotone clock, in nanoseconds. -/
  now : Nat := 0
  /-- Whether the control flow was set to exit. -/
  exited : Bool := false

namespace EventLoop

/-- The loop some time later. -/
def advance (loop : EventLoop) (elapsed : Nat) : EventLoop := { loop with now := loop.now + elapsed }

/-- Arms the idle timer on the first sight of the disconnect, and clears it without one. -/
def checkIdle (loop : EventLoop) : EventLoop :=
  if loop.clientDisconnected then
    match loop.idleDeadline with
    | none =>
      let deadline := loop.now + fromSecs loop.idleTimeoutSecs
      { loop with idleDeadline := some deadline, idleState := .arm deadline }
    | some _ => loop
  else
    { loop with
      idleState := if loop.idleDeadline.isSome then .disarm else loop.idleState
      idleDeadline := none }

/-- Whether an iteration finds the idle deadline elapsed. -/
def isDue (loop : EventLoop) : Bool :=
  loop.clientDisconnected && loop.idleDeadline.any fun deadline => !decide (loop.now < deadline)

/-- What the callback does with its event. -/
def handle (loop : EventLoop) : LoopEvent → EventLoop
  | .user .clientConnected =>
    if loop.clientDisconnected then
      { loop with clientDisconnected := false, idleState := .disarm, idleDeadline := none }
    else loop
  | .user .clientDisconnected => { loop with clientDisconnected := true }
  | .user .shutdown | .other => loop

end EventLoop

/-- The cell that holds the lazy engine. -/
inductive EngineCell where
  | empty
  /-- A connection is initializing the engine, and the others wait. -/
  | initializing
  | ready
  deriving DecidableEq

/-- Where the registration of one connection stands. -/
inductive ConnectStage where
  /-- About to check for shutdown. -/
  | arriving
  /-- Numbered, and about to lock the registry. -/
  | locking (id : Nat)
  /-- Registered, and about to ask for the engine. -/
  | registered
  /-- Registered, and initializing the engine. -/
  | initializing
  /-- Its wake was posted. -/
  | connected
  /-- Refused during shutdown. -/
  | refused
  deriving DecidableEq

/-- A tracked client, with its identifier and the connection it sends to. -/
structure TrackedClient where
  id : Nat
  sender : Nat
  deriving DecidableEq

/-- The parts of the server that decide when it is idle. -/
structure Server where
  eventLoop : EventLoop := {}
  /-- Whether shutdown was requested. -/
  requested : Bool := false
  /-- The wakes posted to the loop and not yet delivered. -/
  wakes : List WakeEvent := []
  engine : EngineCell := .empty
  /-- The identifier of the next client, below 2^32. -/
  nextId : Nat := 0
  clients : List TrackedClient := []
  /-- Every connection so far, each known by its position. -/
  connections : List ConnectStage := []
  /-- The identifiers whose sends each broadcast still waits for. -/
  broadcasts : List (List Nat) := []

/-- Who takes the next step. -/
inductive ServerChoice where
  /-- A client connects. -/
  | connect
  /-- An earlier connection goes on. -/
  | connection (index : Nat)
  /-- A broadcast begins. -/
  | broadcast
  /-- A send of a broadcast ends. -/
  | sent (broadcast position : Nat) (failed : Bool)
  /-- The loop's callback runs some time later, with the oldest wake or with another event. -/
  | iteration (elapsed : Nat) (wake : Bool)
  /-- Shutdown is requested by someone else than the idle timer. -/
  | requestShutdown (reason : ShutdownReason)
  /-- The event pipeline stops and clears the clients. -/
  | stopPipeline
  /-- The event loop is destroyed. -/
  | destroyLoop

namespace Server

/-- Posts a wake event to the main loop. -/
def postUserEvent (server : Server) (wake : WakeEvent) : Server :=
  { server with wakes := server.wakes ++ [wake] }

/-- Requests shutdown and wakes the loop. -/
def request (server : Server) : Server := { server with requested := true }.postUserEvent .shutdown

/-- Replaces the stage of one connection. -/
def setConnection (server : Server) (index : Nat) (stage : ConnectStage) : Server :=
  { server with connections := server.connections.set index stage }

/-- The next operation of one connection, from one await to the next. -/
def connected (server : Server) (index : Nat) : Option Server :=
  server.connections[index]?.bind fun stage =>
    match stage with
    | .arriving =>
      if server.requested then some (server.setConnection index .refused)
      else
        some ({ server with nextId := (server.nextId + 1) % UInt32.size }.setConnection index
          (.locking server.nextId))
    | .locking id =>
      some ({ server with clients := server.clients ++ [TrackedClient.mk id index] }.setConnection index
        .registered)
    | .registered =>
      match server.engine with
      | .empty => some ({ server with engine := .initializing }.setConnection index .initializing)
      | .initializing => none
      | .ready => some ((server.setConnection index .connected).postUserEvent .clientConnected)
    | .initializing =>
      some (({ server with engine := .ready }.setConnection index .connected).postUserEvent
        .clientConnected)
    | .connected | .refused => none

/-- Begins to send an event to every client; the sources of events start with the engine. -/
def broadcastEvent (server : Server) : Option Server :=
  if server.engine = .ready then
    if server.requested then some server
    else
      some { server with
        broadcasts := server.broadcasts ++ [server.clients.map TrackedClient.id] }
  else none

/-- Removes a client, and says whether that left the registry empty. -/
def remove (clients : List TrackedClient) (id : Nat) : List TrackedClient × Bool :=
  let left := clients.filter fun client => client.id != id
  (left, !clients.isEmpty && decide (left.length < clients.length) && left.isEmpty)

/-- Drops a client whose send failed; nothing is awaited between its removal and the wake. -/
def dropClient (server : Server) (id : Nat) : Server :=
  let removed := remove server.clients id
  let server := { server with clients := removed.1 }
  if removed.2 then server.postUserEvent .clientDisconnected else server

/-- Ends one send of a broadcast. -/
def sendEnded (server : Server) (broadcast position : Nat) (failed : Bool) : Option Server :=
  server.broadcasts[broadcast]?.bind fun pending =>
    pending[position]?.map fun id =>
      let server :=
        { server with broadcasts := server.broadcasts.set broadcast (pending.eraseIdx position) }
      if failed then server.dropClient id else server

/-- One run of the loop's callback, which leaves some wakes for later. -/
def iterate (server : Server) (elapsed : Nat) (event : LoopEvent) (left : List WakeEvent) :
    Option (Server × Option ShutdownReason) :=
  let loop := server.eventLoop.advance elapsed
  let server := { server with wakes := left }
  if loop.exited then none
  else if server.requested then some ({ server with eventLoop := { loop with exited := true } }, none)
  else if loop.isDue then
    -- The deadline is checked first, so the event of this iteration is dropped unseen.
    some ({ server with eventLoop := { loop with exited := true } }.request, some .idleExpired)
  else some ({ server with eventLoop := loop.checkIdle.handle event }, none)

/-- One step of the server, with the reason for which it requests shutdown. -/
def step (server : Server) : ServerChoice → Option (Server × Option ShutdownReason)
  | .connect => some ({ server with connections := server.connections ++ [.arriving] }, none)
  | .connection index => (server.connected index).map fun next => (next, none)
  | .broadcast => server.broadcastEvent.map fun next => (next, none)
  | .sent broadcast position failed =>
    (server.sendEnded broadcast position failed).map fun next => (next, none)
  | .iteration elapsed false => server.iterate elapsed .other server.wakes
  | .iteration elapsed true =>
    match server.wakes with
    | [] => none
    | wake :: left => server.iterate elapsed (.user wake) left
  | .requestShutdown reason =>
    if reason = .idleExpired then none else some (server.request, some reason)
  | .stopPipeline => if server.requested then some ({ server with clients := [] }, none) else none
  | .destroyLoop =>
    some ({ server with
      eventLoop := { server.eventLoop with idleState := .disarm, exited := true } }.request,
      some .eventLoopDestroyed)

/-- The transition relation of the server, labelled with the choice and the reason it gives. -/
def Steps (server : Server) (label : ServerChoice × Option ShutdownReason) (next : Server) : Prop :=
  server.step label.1 = some (next, label.2)

end Server

end Hotki

import Hotki.Server.IdleShutdown

/-! The event pipeline: queued UI events and heartbeats fanned out to the connected clients. -/

namespace Hotki

/-- The number of UI events the queue of the pipeline holds. -/
def defaultUiChannelCapacity : Nat := 10000

/-- Where one call of `broadcast_event` stands. -/
inductive BroadcastStage where
  /-- About to read the shutdown flag. -/
  | entering
  /-- Awaiting the registry for its snapshot. -/
  | locking
  /-- Awaiting the sends to clients of the snapshot. -/
  | sending (waiting : List TrackedClient)
  /-- Awaiting the registry to remove a client whose send failed. -/
  | removing (client : TrackedClient) (waiting : List TrackedClient)

/-- The next move of a broadcasting task. -/
inductive TaskMove where
  /-- It passes the point at which it stands. -/
  | proceed
  /-- It finds its group cancelled. -/
  | cancel
  /-- One of its sends ends. -/
  | sent (position : Nat) (delivered : Bool)

/-- What a call of `broadcast_event` does in one move. -/
inductive BroadcastAction where
  | quiet
  /-- The snapshot is taken and the sends begin. -/
  | began
  | delivered (sender : Nat)
  | failed (sender : Nat)
  /-- A client is removed, which may leave the registry empty. -/
  | removed (emptied : Bool)
  deriving DecidableEq

namespace BroadcastStage

/-- The next stage, if any, with the clients that are left and what was done. -/
def step (encodes requested : Bool) (clients : List TrackedClient) :
    BroadcastStage → TaskMove →
      Option (Option BroadcastStage × List TrackedClient × BroadcastAction)
  | entering, .proceed => some (if requested then none else some locking, clients, .quiet)
  | locking, .proceed =>
    -- What cannot be encoded is sent to nobody.
    if encodes then some (some (sending clients), clients, .began) else some (none, clients, .quiet)
  | sending [], .proceed => some (none, clients, .quiet)
  | sending waiting, .sent position delivered =>
    waiting[position]?.map fun client =>
      let left := waiting.eraseIdx position
      if delivered then (some (sending left), clients, .delivered client.sender)
      else (some (removing client left), clients, .failed client.sender)
  | removing client waiting, .proceed =>
    let (left, emptied) := Server.remove clients client.id
    some (some (sending waiting), left, .removed emptied)
  | _, _ => none

end BroadcastStage

/-- Where the task that forwards queued events stands. -/
inductive FanoutStage (Message : Type) where
  /-- Awaiting cancellation or an event. -/
  | waiting
  /-- About to read the shutdown flag with an event in hand. -/
  | received (event : Message)
  | broadcasting (event : Message) (stage : BroadcastStage)
  | ended

/-- Where the task that broadcasts heartbeats stands. -/
inductive HeartbeatStage (Message : Type) where
  /-- About to read the shutdown flag. -/
  | looping
  | broadcasting (heartbeat : Message) (stage : BroadcastStage)
  /-- Awaiting cancellation or the end of the interval. -/
  | sleeping
  | ended

/-- The tasks of one running pipeline. -/
structure PipelineTasks (Message : Type) where
  cancelled : Bool := false
  fanout : FanoutStage Message := .waiting
  heartbeat : HeartbeatStage Message := .looping

/-- Whether every task has ended. -/
def PipelineTasks.joined {Message : Type} (tasks : PipelineTasks Message) : Bool :=
  match tasks.fanout, tasks.heartbeat with
  | .ended, .ended => true
  | _, _ => false

/-- Lifecycle of the single task group. -/
inductive PipelineLifecycle where
  /-- The receiver is retained until the lazy engine exposes its world. -/
  | ready
  | running
  /-- Shut down for good. -/
  | stopped
  deriving DecidableEq

/-- Where one connection stands. -/
inductive ClientStage where
  /-- About to read the shutdown flag. -/
  | arriving
  /-- Numbered, and awaiting the registry. -/
  | numbered (id : Nat)
  | registered (id : Nat)
  /-- Refused during shutdown. -/
  | refused
  deriving DecidableEq

/-- Where one call of the pipeline's `shutdown` stands. -/
inductive StopStage where
  /-- About to clear the registry. -/
  | clearing
  /-- About to take the lifecycle. -/
  | replacing
  /-- Awaiting the tasks it has cancelled. -/
  | joining
  | returned
  deriving DecidableEq

/-- The event pipeline with its clients. -/
structure EventPipeline (Message : Type) where
  /-- The queued events not yet received. -/
  queue : List Message := []
  clients : List TrackedClient := []
  /-- The identifier of the next client, below 2^32. -/
  nextId : Nat := 0
  /-- Every connection so far, each known by its position. -/
  connections : List ClientStage := []
  lifecycle : PipelineLifecycle := .ready
  /-- The tasks, once they were started. -/
  tasks : Option (PipelineTasks Message) := none
  /-- Whether shutdown was requested. -/
  requested : Bool := false
  stops : List StopStage := []

/-- Who takes the next step. -/
inductive PipelineChoice (Message : Type) where
  /-- A client connects. -/
  | connect
  /-- An earlier connection goes on. -/
  | connection (index : Nat)
  /-- A connection asks for the engine, which starts the pipeline. -/
  | start
  /-- The engine, a log or the world offers an event. -/
  | offer (event : Message)
  | fanout (move : TaskMove)
  /-- The heartbeat task moves, with the heartbeat that it would send. -/
  | heartbeat (beat : Message) (move : TaskMove)
  | request
  /-- The pipeline is shut down. -/
  | stop
  /-- An earlier shutdown of the pipeline goes on. -/
  | stopping (index : Nat)

/-- What a step shows. -/
inductive PipelineLabel (Message : Type) where
  | quiet
  | registered (sender : Nat)
  | accepted (event : Message)
  | started
  | fanout (event : Message) (action : BroadcastAction)
  | heartbeat (beat : Message) (action : BroadcastAction)
  /-- A shutdown of the pipeline returned, having ended its run or found it ended. -/
  | stopped (first : Bool)
  deriving DecidableEq

namespace PipelineLabel

variable {Message : Type}

/-- The event a label accepts into the queue. -/
def acceptance : PipelineLabel Message → Option Message
  | accepted event => some event
  | _ => none

/-- The event whose fan-out a label begins. -/
def beginning : PipelineLabel Message → Option Message
  | fanout event .began => some event
  | _ => none

/-- The event a label delivers to a connection. -/
def delivery (sender : Nat) : PipelineLabel Message → Option Message
  | fanout event (.delivered receiver) => if receiver = sender then some event else none
  | _ => none

/-- Whether a label shows the run of the pipeline: its start and its end, the events it accepts and
what it delivers to anyone. -/
def runs : PipelineLabel Message → Bool
  | started | accepted _ | stopped true => true
  | fanout _ (.delivered _) | heartbeat _ (.delivered _) => true
  | _ => false

end PipelineLabel

namespace FanoutStage

variable {Message : Type}

/-- Whether the task still holds the receiver of the queue. -/
def receives : FanoutStage Message → Bool
  | ended => false
  | _ => true

/-- The event received whose fan-out has not begun. -/
def inHand : FanoutStage Message → List Message
  | received event | broadcasting event .entering | broadcasting event .locking => [event]
  | _ => []

/-- The clients whose sends of the current event have not ended. -/
def awaited : FanoutStage Message → List TrackedClient
  | broadcasting _ (.sending awaits) | broadcasting _ (.removing _ awaits) => awaits
  | _ => []

/-- The client that is about to be removed. -/
def leaving : FanoutStage Message → Option TrackedClient
  | broadcasting _ (.removing client _) => some client
  | _ => none

/-- The event of the current broadcast. -/
def current : FanoutStage Message → Option Message
  | broadcasting event _ => some event
  | _ => none

end FanoutStage

namespace EventPipeline

variable {Message : Type}

/-- Where the fanout task stands, which awaits an event before it is started. -/
def fanout (pipeline : EventPipeline Message) : FanoutStage Message :=
  pipeline.tasks.elim .waiting PipelineTasks.fanout

/-- Whether a connection is among the clients. -/
def Connected (pipeline : EventPipeline Message) (sender : Nat) : Prop :=
  ∃ client ∈ pipeline.clients, client.sender = sender

/-- Whether the receiver of the queue still exists. -/
def accepting (pipeline : EventPipeline Message) : Bool :=
  match pipeline.tasks with
  | none => decide (pipeline.lifecycle = .ready)
  | some tasks => tasks.fanout.receives

/-- The next operation of a connection. -/
def connected (pipeline : EventPipeline Message) (index : Nat) :
    Option (EventPipeline Message × PipelineLabel Message) :=
  match pipeline.connections[index]? with
  | some .arriving =>
    if pipeline.requested then
      some ({ pipeline with connections := pipeline.connections.set index .refused }, .quiet)
    else
      some ({ pipeline with
        nextId := (pipeline.nextId + 1) % UInt32.size
        connections := pipeline.connections.set index (.numbered pipeline.nextId) }, .quiet)
  | some (.numbered id) =>
    some ({ pipeline with
      clients := pipeline.clients ++ [⟨id, index⟩]
      connections := pipeline.connections.set index (.registered id) }, .registered index)
  | _ => none

/-- The next operation of the fanout task. -/
def forwardEvents (encodes : Message → Bool) (pipeline : EventPipeline Message)
    (tasks : PipelineTasks Message) (move : TaskMove) :
    Option (EventPipeline Message × PipelineLabel Message) :=
  match tasks.fanout, move with
  | .waiting, .cancel =>
    if tasks.cancelled then
      some ({ pipeline with tasks := some { tasks with fanout := .ended } }, .quiet)
    else none
  | .waiting, .proceed =>
    match pipeline.queue with
    | [] => none
    | event :: queue =>
      some ({ pipeline with queue, tasks := some { tasks with fanout := .received event } }, .quiet)
  | .received event, .proceed =>
    let fanout := if pipeline.requested then .ended else .broadcasting event .entering
    some ({ pipeline with tasks := some { tasks with fanout } }, .quiet)
  | .broadcasting event stage, move =>
    (stage.step (encodes event) pipeline.requested pipeline.clients move).map
      fun (next, clients, action) =>
        let fanout := next.elim .waiting (.broadcasting event)
        ({ pipeline with clients, tasks := some { tasks with fanout } }, .fanout event action)
  | _, _ => none

/-- The next operation of the heartbeat task. -/
def broadcastHeartbeats (encodes : Message → Bool) (pipeline : EventPipeline Message)
    (tasks : PipelineTasks Message) (beat : Message) (move : TaskMove) :
    Option (EventPipeline Message × PipelineLabel Message) :=
  match tasks.heartbeat, move with
  | .looping, .proceed =>
    let heartbeat := if pipeline.requested then .ended else .broadcasting beat .entering
    some ({ pipeline with tasks := some { tasks with heartbeat } }, .quiet)
  | .broadcasting sent stage, move =>
    (stage.step (encodes sent) pipeline.requested pipeline.clients move).map
      fun (next, clients, action) =>
        let heartbeat := next.elim .sleeping (.broadcasting sent)
        ({ pipeline with clients, tasks := some { tasks with heartbeat } }, .heartbeat sent action)
  | .sleeping, .proceed =>
    some ({ pipeline with tasks := some { tasks with heartbeat := .looping } }, .quiet)
  | .sleeping, .cancel =>
    if tasks.cancelled then
      some ({ pipeline with tasks := some { tasks with heartbeat := .ended } }, .quiet)
    else none
  | _, _ => none

/-- The next operation of a shutdown of the pipeline. -/
def stopped (pipeline : EventPipeline Message) (index : Nat) :
    Option (EventPipeline Message × PipelineLabel Message) :=
  let moved stage := { pipeline with stops := pipeline.stops.set index stage }
  match pipeline.stops[index]? with
  | some .clearing => some ({ moved .replacing with clients := [] }, .quiet)
  | some .replacing =>
    match pipeline.lifecycle with
    | .ready =>
      -- The receiver is dropped, with the events it holds.
      some ({ moved .returned with lifecycle := .stopped, queue := [] }, .stopped true)
    | .running =>
      some ({ moved .joining with
        lifecycle := .stopped
        tasks := pipeline.tasks.map fun tasks => { tasks with cancelled := true } }, .quiet)
    | .stopped => some (moved .returned, .stopped false)
  | some .joining =>
    if pipeline.tasks.all PipelineTasks.joined then some (moved .returned, .stopped true) else none
  | _ => none

/-- One step of the pipeline, and what it shows. -/
def step (encodes : Message → Bool) (pipeline : EventPipeline Message) :
    PipelineChoice Message → Option (EventPipeline Message × PipelineLabel Message)
  | .connect =>
    some ({ pipeline with connections := pipeline.connections ++ [.arriving] }, .quiet)
  | .connection index => pipeline.connected index
  | .start =>
    if pipeline.lifecycle = .ready then
      some ({ pipeline with lifecycle := .running, tasks := some {} }, .started)
    else some (pipeline, .quiet)
  | .offer event =>
    if pipeline.accepting && decide (pipeline.queue.length < defaultUiChannelCapacity) then
      some ({ pipeline with queue := pipeline.queue ++ [event] }, .accepted event)
    else some (pipeline, .quiet)
  | .fanout move => pipeline.tasks.bind fun tasks => pipeline.forwardEvents encodes tasks move
  | .heartbeat beat move =>
    pipeline.tasks.bind fun tasks => pipeline.broadcastHeartbeats encodes tasks beat move
  | .request => some ({ pipeline with requested := true }, .quiet)
  | .stop => some ({ pipeline with stops := pipeline.stops ++ [.clearing] }, .quiet)
  | .stopping index => pipeline.stopped index

/-- The transition relation of the pipeline, labelled with what it shows. -/
def Steps (encodes : Message → Bool) (pipeline : EventPipeline Message)
    (label : PipelineLabel Message) (next : EventPipeline Message) : Prop :=
  ∃ choice, pipeline.step encodes choice = some (next, label)

end EventPipeline

end Hotki

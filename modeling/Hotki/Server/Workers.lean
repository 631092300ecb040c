import Hotki.Base.HashMap
import Hotki.Hotkey.Tap

/-! The per-hotkey worker pool: one dispatcher, and workers that come and go in generations. -/

namespace Hotki

open Base

/-- The number of messages a worker queue takes before it counts as full. -/
def defaultQueueCapacity : Nat := 64

/-- The result of queueing an event for a per-id worker. -/
inductive DispatchResult where
  | queued | queueFull | releaseQueued | queueClosed
  deriving DecidableEq

/-- One ordered message in a worker generation. -/
inductive WorkerMessage where
  /-- A physical hotkey event. -/
  | event (event : Event)
  /-- A synthetic release retained when the queue was saturated. -/
  | forcedRelease (id : UInt32) (generation : Nat)
  deriving DecidableEq

/-- The hotkey id of a message. -/
def WorkerMessage.id : WorkerMessage → UInt32
  | .event input => input.id
  | .forcedRelease id _ => id

/-- What the engine is told to dispatch for a message: its kind, and whether it repeats. -/
def WorkerMessage.dispatched : WorkerMessage → EventKind × Bool
  | .event input => (input.kind, input.repeated)
  | .forcedRelease _ _ => (.keyUp, false)

/-- Where a worker task stands, between two of its atomic operations. -/
inductive WorkerStage where
  /-- Awaiting the handoff lock. -/
  | acquiring
  /-- Initializing the engine. -/
  | starting
  /-- About to read the shutdown flag. -/
  | looping
  /-- Awaiting a message or the idle timeout. -/
  | receiving
  /-- Awaiting the engine's dispatch of a message. -/
  | processing (message : WorkerMessage) (draining : Bool)
  /-- About to lower the pending count. -/
  | counting (forcedRelease : Bool) (draining : Bool)
  /-- About to clear the release flag. -/
  | clearing (draining : Bool)
  /-- About to reject late sends. -/
  | closing
  /-- Receiving what was accepted before the closure. -/
  | draining
  /-- About to leave the worker table. -/
  | removing
  /-- Ended, with the handoff lock released. -/
  | finished
  deriving DecidableEq

/-- The stage after a processed message, back in the main loop or in the final drain. -/
def WorkerStage.resumed (draining : Bool) : WorkerStage :=
  if draining then .draining else .looping

/-- One worker generation: its task, its channel, and the state shared with its handles. -/
structure Worker where
  id : UInt32
  /-- The lock a replacement shares with the generation it replaces. -/
  handoff : Nat
  queue : List WorkerMessage := []
  closed : Bool := false
  pending : Nat := 0
  releasePending : Bool := false
  stage : WorkerStage := .acquiring
  deriving DecidableEq

/-- Whether a worker owns its handoff lock. -/
def Worker.holdsHandoff (worker : Worker) : Bool :=
  worker.stage != .acquiring && worker.stage != .finished

/-- Whether a message is a synthetic release. -/
def WorkerMessage.isForced : WorkerMessage → Bool
  | .forcedRelease _ _ => true
  | .event _ => false

/-- The next atomic operation of a worker task, with the message the engine has now dispatched. -/
def Worker.step (handoffHeld shutdown : Bool) (worker : Worker) :
    Option (Worker × Option WorkerMessage) :=
  match worker.stage with
  | .acquiring => if handoffHeld then none else some ({ worker with stage := .starting }, none)
  | .starting => some ({ worker with stage := .looping }, none)
  | .looping => some ({ worker with stage := if shutdown then .closing else .receiving }, none)
  | .receiving =>
    match worker.queue with
    | [] => none
    | message :: queue => some ({ worker with queue, stage := .processing message false }, none)
  | .processing message draining =>
    some ({ worker with stage := .counting message.isForced draining }, some message)
  | .counting forcedRelease draining =>
    let stage := if forcedRelease then .clearing draining else .resumed draining
    some ({ worker with pending := worker.pending - 1, stage }, none)
  | .clearing draining =>
    some ({ worker with releasePending := false, stage := .resumed draining }, none)
  | .closing => some ({ worker with closed := true, stage := .draining }, none)
  | .draining =>
    match worker.queue with
    | [] => some ({ worker with stage := .removing }, none)
    | message :: queue => some ({ worker with queue, stage := .processing message true }, none)
  | .removing => some ({ worker with stage := .finished }, none)
  | .finished => none

/-- The idle timeout of a worker task, which fires only after a poll that found no message. -/
def Worker.timeOut (worker : Worker) : Option Worker :=
  if worker.stage = .receiving ∧ worker.queue = [] then some { worker with stage := .closing }
  else none

/-- Where the dispatcher stands in `dispatch_with`, on its first or its second attempt. -/
inductive DispatcherStage where
  | idle
  | lookingUp (event : Event) (retry : Bool)
  | checkingClosed (event : Event) (retry : Bool) (generation : Nat)
  | loadingPending (event : Event) (retry : Bool) (generation : Nat)
  | swappingRelease (event : Event) (retry : Bool) (generation : Nat)
  | addingPending (event : Event) (retry : Bool) (generation : Nat) (message : WorkerMessage)
  | sending (event : Event) (retry : Bool) (generation : Nat) (message : WorkerMessage)
  | subtractingPending (event : Event) (retry : Bool) (generation : Nat) (message : WorkerMessage)
  | clearingRelease (event : Event) (retry : Bool) (generation : Nat)
  | replacing (event : Event) (generation : Nat)
  | removing (event : Event) (generation : Nat)
  deriving DecidableEq

/-- The worker pool with the tasks it spawned and the dispatcher that feeds it. -/
structure WorkerPool where
  /-- The current generation of each id. -/
  workers : HashMap UInt32 Nat := ∅
  /-- Every generation ever spawned, each known by its position. -/
  tasks : List Worker := []
  /-- How many handoff locks were made. -/
  handoffs : Nat := 0
  shutdown : Bool := false
  dispatcher : DispatcherStage := .idle

/-- What a step of the pool shows to the outside. -/
inductive PoolLabel where
  /-- An event is handed to `dispatch`. -/
  | arrive (event : Event)
  /-- A call of `dispatch` returns with its message queued. -/
  | accept (message : WorkerMessage)
  /-- A call of `dispatch` returns without having queued anything. -/
  | refuse (event : Event) (result : DispatchResult)
  /-- A generation has had the engine dispatch a message. -/
  | process (generation : Nat) (message : WorkerMessage)
  | internal
  deriving DecidableEq

/-- Who takes the next step. -/
inductive PoolChoice where
  | arrive (event : Event)
  | dispatcher
  | worker (generation : Nat)
  /-- The idle timeout of a generation fires. -/
  | timeout (generation : Nat)
  | shutdown
  deriving DecidableEq

namespace WorkerPool

/-- Changes one generation. -/
def update (pool : WorkerPool) (generation : Nat) (change : Worker → Worker) : WorkerPool :=
  { pool with tasks := pool.tasks.modify generation change }

/-- Takes a generation out of the worker table if it is the current one of its id. -/
def removeGeneration (pool : WorkerPool) (id : UInt32) (generation : Nat) : WorkerPool :=
  if pool.workers.lookup id = some generation then
    { pool with workers := pool.workers.erase id }
  else pool

/-- Spawns a generation of an id, under an inherited handoff lock or a new one. -/
def spawnWorker (pool : WorkerPool) (id : UInt32) (handoff : Option Nat) : WorkerPool :=
  { pool with
    tasks := pool.tasks ++ [{ id, handoff := handoff.getD pool.handoffs }]
    handoffs := if handoff.isSome then pool.handoffs else pool.handoffs + 1
    workers := pool.workers.insert id pool.tasks.length }

/-- Spawns a replacement unless another generation has taken the closed one's place. -/
def replaceClosedGeneration (pool : WorkerPool) (id : UInt32) (generation : Nat)
    (closed : Worker) : WorkerPool :=
  match pool.workers.lookup id with
  | none => pool.spawnWorker id (some closed.handoff)
  | some current =>
    if current = generation then pool.spawnWorker id (some closed.handoff) else pool

/-- What follows a failed attempt: a replacement first, a removal the second time. -/
def giveUp (pool : WorkerPool) (event : Event) (retry : Bool) (generation : Nat) : WorkerPool :=
  { pool with
    dispatcher := if retry then .removing event generation else .replacing event generation }

/-- The next atomic operation of the dispatcher. -/
def dispatcherStep (capacity : Nat) (pool : WorkerPool) : Option (WorkerPool × PoolLabel) :=
  match pool.dispatcher with
  | .idle => none
  | .lookingUp event retry =>
    match pool.workers.lookup event.id with
    | some generation =>
      some ({ pool with dispatcher := .checkingClosed event retry generation }, .internal)
    | none =>
      some ({ pool.spawnWorker event.id none with
        dispatcher := .checkingClosed event retry pool.tasks.length }, .internal)
  | .checkingClosed event retry generation => do
    let worker ← pool.tasks[generation]?
    if worker.closed then some (pool.giveUp event retry generation, .internal)
    else some ({ pool with dispatcher := .loadingPending event retry generation }, .internal)
  | .loadingPending event retry generation => do
    let worker ← pool.tasks[generation]?
    if worker.pending ≥ capacity then
      match event.kind with
      | .keyUp =>
        some ({ pool with dispatcher := .swappingRelease event retry generation }, .internal)
      | .keyDown => some ({ pool with dispatcher := .idle }, .refuse event .queueFull)
    else
      some ({ pool with dispatcher := .addingPending event retry generation (.event event) },
        .internal)
  | .swappingRelease event retry generation => do
    let worker ← pool.tasks[generation]?
    if worker.releasePending then some ({ pool with dispatcher := .idle }, .refuse event .queueFull)
    else
      some ({ pool.update generation fun worker => { worker with releasePending := true } with
        dispatcher := .addingPending event retry generation
          (.forcedRelease event.id generation) }, .internal)
  | .addingPending event retry generation message =>
    some ({ pool.update generation fun worker => { worker with pending := worker.pending + 1 } with
      dispatcher := .sending event retry generation message }, .internal)
  | .sending event retry generation message => do
    let worker ← pool.tasks[generation]?
    if worker.closed then
      some ({ pool with dispatcher := .subtractingPending event retry generation message },
        .internal)
    else
      some ({ pool.update generation fun worker =>
          { worker with queue := worker.queue ++ [message] } with
        dispatcher := .idle }, .accept message)
  | .subtractingPending event retry generation message =>
    let next := pool.update generation fun worker => { worker with pending := worker.pending - 1 }
    match message with
    | .forcedRelease _ _ =>
      some ({ next with dispatcher := .clearingRelease event retry generation }, .internal)
    | .event _ => some (next.giveUp event retry generation, .internal)
  | .clearingRelease event retry generation =>
    let next := pool.update generation fun worker => { worker with releasePending := false }
    some (next.giveUp event retry generation, .internal)
  | .replacing event generation => do
    let closed ← pool.tasks[generation]?
    some ({ pool.replaceClosedGeneration event.id generation closed with
      dispatcher := .lookingUp event true }, .internal)
  | .removing event generation =>
    some ({ pool.removeGeneration event.id generation with dispatcher := .idle },
      .refuse event .queueClosed)

/-- Whether some task owns a handoff lock. -/
def handoffHeld (pool : WorkerPool) (handoff : Nat) : Bool :=
  pool.tasks.any fun worker => worker.holdsHandoff && worker.handoff == handoff

/-- The next atomic operation of one worker task. -/
def workerStep (pool : WorkerPool) (generation : Nat) : Option (WorkerPool × PoolLabel) := do
  let worker ← pool.tasks[generation]?
  let (next, processed) ← worker.step (pool.handoffHeld worker.handoff) pool.shutdown
  let pool :=
    if worker.stage = .removing then pool.removeGeneration worker.id generation else pool
  some (pool.update generation fun _ => next,
    match processed with
    | some message => .process generation message
    | none => .internal)

/-- One step of the pool, taken by whoever is chosen, or none when they cannot move. -/
def step (capacity : Nat) (pool : WorkerPool) : PoolChoice → Option (WorkerPool × PoolLabel)
  | .arrive event =>
    match pool.dispatcher with
    | .idle => some ({ pool with dispatcher := .lookingUp event false }, .arrive event)
    | _ => none
  | .dispatcher => pool.dispatcherStep capacity
  | .worker generation => pool.workerStep generation
  | .timeout generation => do
    let worker ← pool.tasks[generation]?
    let next ← worker.timeOut
    some (pool.update generation fun _ => next, .internal)
  | .shutdown => some ({ pool with shutdown := true }, .internal)

/-- The transition relation of the pool, whoever moves. -/
def Steps (capacity : Nat) (pool : WorkerPool) (label : PoolLabel) (next : WorkerPool) : Prop :=
  ∃ choice, pool.step capacity choice = some (next, label)

end WorkerPool

end Hotki

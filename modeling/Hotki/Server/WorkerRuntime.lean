import Hotki.Engine.Gesture
import Hotki.Server.Workers

/-! The workers of the pool with the engine they dispatch through: each awaits its own dispatch. -/

namespace Hotki

open Base

/-- What the engine is asked to dispatch for a message. -/
def WorkerMessage.request (message : WorkerMessage) : DispatchRequest :=
  ⟨.physical message.id, message.dispatched.1, message.dispatched.2⟩

/-- The worker pool with the engine its workers dispatch through. -/
structure WorkerRuntime where
  pool : WorkerPool := {}
  engine : Engine
  /-- The engine's task for the message a generation is processing, or has processed last. -/
  awaiting : HashMap Nat Nat := ∅

/-- Who takes the next step. -/
inductive RuntimeChoice where
  | pool (choice : PoolChoice)
  | engine (choice : EngineChoice)

namespace WorkerPool

/-- The message that a choice has had a generation take up, given the pool after it. -/
def takenUp (next : WorkerPool) : PoolChoice → Option (Nat × WorkerMessage)
  | .worker generation =>
    match (next.tasks[generation]?).map Worker.stage with
    | some (.processing message _) => some (generation, message)
    | _ => none
  | _ => none

end WorkerPool

namespace WorkerRuntime

/-- Whether the dispatch that a generation awaits has returned. -/
def returned (runtime : WorkerRuntime) (generation : Nat) : Bool :=
  match (runtime.awaiting.lookup generation).bind (runtime.engine.tasks[·]?) with
  | some entry => decide (entry.stage = .finished)
  | none => false

/-- One step of the workers or of the engine, or none where they cannot move: taking up a message
starts its dispatch, and a worker goes on once that has returned. -/
def step (capacity : Nat) (host : ProcessHost) (runtime : WorkerRuntime) :
    RuntimeChoice → Option (WorkerRuntime × PoolLabel)
  | .pool choice => do
    let (pool, label) ← runtime.pool.step capacity choice
    match pool.takenUp choice, label with
    | some (generation, message), label =>
      some ({ pool
              engine := runtime.engine.spawn message.request
              awaiting := runtime.awaiting.insert generation runtime.engine.tasks.length }, label)
    | none, .process generation message =>
      if runtime.returned generation then some ({ runtime with pool }, .process generation message)
      else none
    | none, label => some ({ runtime with pool }, label)
  -- Only a worker dispatches physical events.
  | .engine (.call ⟨.physical _, _, _⟩) => none
  | .engine choice =>
    (runtime.engine.step host choice).map fun engine => ({ runtime with engine }, .internal)

end WorkerRuntime

end Hotki

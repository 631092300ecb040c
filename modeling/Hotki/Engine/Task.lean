import Hotki.Engine.KeyState
import Hotki.Engine.Repeater
import Hotki.Hotkey.Tap
import Hotki.Relay.RelayKey

/-! The tasks of the engine: where they await, and what they do in between. -/

namespace Hotki

open Base

/-- How an effect queue is being applied. -/
inductive EffectRun where
  /-- Ordinary one-shot action activation. -/
  | oneShot
  /-- First invocation of a held-key repeated action. -/
  | repeatedFirst
  /-- Timer-driven invocation of a held-key repeated action. -/
  | repeatedTick
  deriving DecidableEq

/-- A repeated action with its timing. -/
structure HeldAction where
  action : HandlerRef
  timing : Option ScriptRepeat
  deriving DecidableEq

/-- What the callback of an action repeat loop captures. -/
structure ActionLoop where
  held : HeldAction
  /-- Whether a tick of the loop is still being applied. -/
  running : Bool
  /-- The task that started the loop. -/
  starter : Nat
  deriving DecidableEq

/-- Binding identity retained until its matching registration id is released. -/
structure HeldBinding where
  identifier : String
  chord : Chord
  deriving DecidableEq

/-- Where a key event comes from. -/
inductive DispatchOrigin where
  /-- A physical event, known by its registration id. -/
  | physical (id : UInt32)
  /-- An event injected by identifier. -/
  | injected (ident : String)
  deriving DecidableEq

/-- The arguments of a dispatch. -/
structure DispatchRequest where
  origin : DispatchOrigin
  kind : EventKind
  repeated : Bool
  deriving DecidableEq

/-- Where a task stands, at one of its awaits. -/
inductive TaskStage where
  /-- Awaiting the binding manager. -/
  | resolving
  /-- A repeated key-down awaiting the runtime, to learn whether a selector is open. -/
  | checkingSelector (chord : Chord)
  /-- Awaiting focus, configuration, selector and runtime, up to what the key sets off. -/
  | handling (chord : Chord) (feedback : Bool)
  /-- Applying what is left of a queue. -/
  | applying (queue : List Effect)
  /-- Awaiting the script of a held action's first run, before the rest of the queue. -/
  | calling (held : HeldAction) (rest : List Effect)
  /-- Applying what is left of a held action's first run, before the rest of the queue. -/
  | applyingFirst (queue : List Effect) (held : HeldAction) (rest : List Effect)
  /-- A tick awaiting the script of its held action. -/
  | ticking
  /-- Awaiting the locks of the refresh that ends a key-down. -/
  | refreshing
  /-- Awaiting the loops cancelled by changed bindings, in a reload or in a refresh. -/
  | clearing (loops : List Nat) (reloading : Bool)
  /-- A key-up awaiting the loop it stopped. -/
  | releasing (loop : Nat) (notified : Option Chord)
  /-- A key-up awaiting the UI channel for the release of a notified press. -/
  | notifying (chord : Chord)
  /-- A tick awaiting the loop it stopped. -/
  | stopping (loop : Nat)
  | finished
  deriving DecidableEq

/-- What a task runs for. -/
inductive TaskRole where
  | dispatch (request : DispatchRequest)
  /-- One tick of an action repeat loop. -/
  | tick (loop : Nat)
  deriving DecidableEq

/-- The policy under which the queue of a task is applied. -/
def TaskRole.run : TaskRole → EffectRun
  | dispatch _ => .oneShot
  | tick _ => .repeatedTick

/-- One task of the engine. -/
structure EngineTask where
  role : TaskRole
  stage : TaskStage
  /-- The identifier it acts on, once resolved. -/
  identifier : Option String
  /-- How many dispatches had reached the key tracker before it did. -/
  entry : Option Nat
  deriving DecidableEq

/-- What a key event sets off once it got through to a binding or a selector. -/
inductive KeyOutcome where
  /-- Nothing, or nothing that is followed by a refresh. -/
  | ignored
  /-- An error that ends the dispatch. -/
  | failed
  /-- A mode was entered. -/
  | entered
  /-- A handler or a selector callback queued effects. -/
  | queued (effects : List Effect)
  deriving DecidableEq

/-- What a task finds when it resumes. -/
inductive TaskAnswer where
  /-- What it awaited, or a UI channel that takes its message. -/
  | granted
  /-- Whether a selector is open. -/
  | selector (isOpen : Bool)
  /-- What the key sets off, and whether the HUD was told of the press. -/
  | handled (notified : Bool) (outcome : KeyOutcome)
  /-- The effects a script queued, or none without a configuration or after a script error. -/
  | script (effects : Option (List Effect))
  /-- The destination of a relay target, if the world has exactly one. -/
  | destination (found : Option RelayDestination)
  /-- An install or refresh that is over, and whether it changed bindings. -/
  | refreshed (changed : Bool)
  /-- A UI channel that refuses a message, or another error. -/
  | failed
  deriving DecidableEq

/-- What a task does to the state it shares with the others. -/
inductive Operation where
  | hold (id : UInt32) (binding : HeldBinding)
  | letGo (id : UInt32)
  | onKeyDown (chord : Chord)
  | onKeyUp
  | markPressNotified (chord : Chord)
  | forbidRepeat
  /-- Begins a relay, which a one-shot run ends at once. -/
  | applyRelay (run : EffectRun) (chord : Chord) (destination : RelayDestination)
  | repeatRelay
  | endRelay
  | releaseRelays
  | startProcess (run : EffectRun) (process : ProcessSpec)
  | stopProcess
  | noteOsRepeat
  | stopProcessRepeats
  | startLoop (held : HeldAction)
  | stopLoop
  | clearLoops
  /-- Clears the running flag of a loop. -/
  | tickDone (loop : Nat)
  deriving DecidableEq

namespace Operation

/-- What an operation does to the bindings retained for held keys. -/
def onHeld (held : HashMap UInt32 HeldBinding) : Operation → HashMap UInt32 HeldBinding
  | hold id binding => held.insert id binding
  | letGo id => held.erase id
  | _ => held

/-- What an operation under an identifier does to the key tracker. -/
def onTracker (ident : String) (tracker : KeyStateTracker) : Operation → KeyStateTracker
  | onKeyDown chord => (tracker.onKeyDown ident chord).2
  | onKeyUp => (tracker.onKeyUp ident).2
  | markPressNotified _ => tracker.markPressNotified ident
  | forbidRepeat => tracker.setRepeatAllowed ident false
  | _ => tracker

/-- What an operation under an identifier does to the relayer. -/
def onRelay (ident : String) (relay : RelayKey) : Operation → RelayKey
  | applyRelay run chord destination =>
    let begun := relay.begin ident chord destination
    if run = .oneShot then (begun.endGesture ident).2 else begun
  | repeatRelay => (relay.repeatGesture ident).2
  | endRelay => (relay.endGesture ident).2
  | releaseRelays => relay.releaseAll
  | _ => relay

/-- What an operation under an identifier does to the process repeater. -/
def onRepeater (ident : String) (repeater : Repeater) : Operation → Repeater
  | startProcess _ process => repeater.start ident process false
  | stopProcess => repeater.stop ident
  | noteOsRepeat => { repeater with ticker := (repeater.ticker.stop ident).2 }
  | stopProcessRepeats => repeater.stopRepeats
  | _ => repeater

/-- What an operation of a task under an identifier does to the action repeat loops. -/
def onLoops (task : Nat) (ident : String) (loops : Ticker ActionLoop) :
    Operation → Ticker ActionLoop
  | startLoop held => loops.start ident ⟨held, false, task⟩
  | stopLoop => (loops.stop ident).2
  | clearLoops => loops.clear.2
  | tickDone loop => loops.update loop fun entry =>
    { entry with callback := { entry.callback with running := false } }
  | _ => loops

/-- Which task an operation makes the one behind an identifier's key state. -/
def onDownBy (task : Nat) (ident : String) (tracker : KeyStateTracker)
    (downBy : HashMap String Nat) : Operation → HashMap String Nat
  | onKeyDown _ => if tracker.isDown ident then downBy else downBy.insert ident task
  | _ => downBy

/-- Which task an operation makes the one behind an identifier's relay. -/
def onRelayBy (task : Nat) (ident : String) (relayBy : HashMap String Nat) :
    Operation → HashMap String Nat
  | applyRelay _ _ _ => relayBy.insert ident task
  | _ => relayBy

/-- Which task and policy an operation puts behind a process run. -/
def onProcessBy (task : Nat) (processBy : List (Nat × EffectRun)) :
    Operation → List (Nat × EffectRun)
  | startProcess run _ => processBy ++ [(task, run)]
  | _ => processBy

end Operation

/-- How far a task gets before its next await, and what it does on the way. -/
structure Resumption where
  stage : TaskStage
  operations : List Operation := []
  /-- The identifier under which it reaches the key tracker, if it does. -/
  reached : Option String := none
  deriving DecidableEq

/-- Puts operations before those of a resumption. -/
def Resumption.after (resumption : Resumption) (operations : List Operation) : Resumption :=
  { resumption with operations := operations ++ resumption.operations }

/-- A task once it resumed, given how many dispatches reached the key tracker before. -/
def EngineTask.moveTo (task : EngineTask) (entries : Nat) (resumed : Resumption) : EngineTask :=
  { task with
    stage := resumed.stage
    identifier := resumed.reached.or task.identifier
    entry := (resumed.reached.map fun _ => entries).or task.entry }

end Hotki

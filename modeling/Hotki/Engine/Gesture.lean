import Hotki.Engine.Task
import Hotki.Keycode.Parse

/-! The engine's tasks between their awaits: key dispatches, held actions and repeat ticks. -/

namespace Hotki

open Base

/-- What applying one effect leads to. -/
inductive EffectOutcome where
  /-- The next effect follows. -/
  | applied (operations : List Operation)
  /-- No later effect runs. -/
  | terminal (operations : List Operation)
  /-- An error ends the queue and its task. -/
  | failed (operations : List Operation)
  /-- A held action is invoked for the first time. -/
  | holding (held : HeldAction)
  /-- A configuration was reloaded, which is terminal. -/
  | reloaded (changed : Bool) (operations : List Operation)
  deriving DecidableEq

/-- The engine: what its tasks share, and the tasks in the order they were started. -/
structure Engine where
  /-- The registered ids of the binding manager. -/
  bindings : HashMap UInt32 HeldBinding := ∅
  heldBindings : HashMap UInt32 HeldBinding := ∅
  keyTracker : KeyStateTracker := ∅
  relay : RelayKey := {}
  repeater : Repeater := {}
  actionRepeater : Ticker ActionLoop := {}
  tasks : List EngineTask := []
  /-- How many dispatches have reached the key tracker, which the code does not count. -/
  entries : Nat := 0
  /-- The task behind the retained key state of each identifier, which the code does not keep. -/
  downBy : HashMap String Nat := ∅
  /-- The task behind the last relay of each identifier, which the code does not keep. -/
  relayBy : HashMap String Nat := ∅
  /-- The task and the policy behind each process run, which the code does not keep. -/
  processBy : List (Nat × EffectRun) := []

/-- Who moves, and what it finds. -/
inductive EngineChoice where
  /-- A dispatch is started. -/
  | call (request : DispatchRequest)
  /-- A task resumes. -/
  | resume (task : Nat) (answer : TaskAnswer)
  /-- The timer of an action repeat loop fires. -/
  | tick (loop : Nat)
  /-- The task of a cancelled action repeat loop returns. -/
  | loopEnd (loop : Nat)
  /-- The task of a process returns. -/
  | processEnd (run : Nat)
  /-- Other code changes what is registered. -/
  | register (bindings : HashMap UInt32 HeldBinding)
  /-- Other code that changed bindings cancels all repeats. -/
  | stopRepeats
  /-- Other code that changed bindings releases all relays. -/
  | releaseRelays

/-- Applies a relay effect, resolving its target only at gesture start. -/
def applyRelay (spec : RelaySpec) (run : EffectRun) (answer : TaskAnswer) :
    Option EffectOutcome :=
  let begin (chord : Chord) (destination : RelayDestination) : EffectOutcome :=
    .applied [.applyRelay run chord destination]
  match Chord.parse spec.chord, run, spec.target, answer with
  -- A chord that cannot be read is reported, and the report itself may fail.
  | none, _, _, .granted => some (.terminal [])
  | none, _, _, .failed => some (.failed [])
  -- A tick repeats the relay that stands: chord and target are not looked at.
  | some _, .repeatedTick, _, .granted => some (.applied [.repeatRelay])
  | some chord, .oneShot, .focused, .granted => some (begin chord .hid)
  | some chord, .repeatedFirst, .focused, .granted => some (begin chord .hid)
  | some chord, .oneShot, .applicationName _, .destination (some found) => some (begin chord found)
  | some chord, .repeatedFirst, .applicationName _, .destination (some found) =>
    some (begin chord found)
  -- No running application, or several: the user is told and nothing begins.
  | some _, .oneShot, .applicationName _, .destination none => some (.terminal [])
  | some _, .repeatedFirst, .applicationName _, .destination none => some (.terminal [])
  | some _, .oneShot, .applicationName _, .failed => some (.failed [])
  | some _, .repeatedFirst, .applicationName _, .failed => some (.failed [])
  | _, _, _, _ => none

/-- Applies a primitive action other than a relay. -/
def applyAction (host : ProcessHost) (run : EffectRun) (action : Action) (answer : TaskAnswer) :
    Option EffectOutcome :=
  match action, action.process host, answer with
  | _, some process, .granted => some (.applied [.forbidRepeat, .startProcess run process])
  | .reloadConfig, _, .refreshed changed => some (.reloaded changed [.forbidRepeat])
  | .reloadConfig, _, .failed => some (.failed [.forbidRepeat])
  | .clearNotifications, _, .granted => some (.applied [.forbidRepeat])
  | .clearNotifications, _, .failed => some (.failed [.forbidRepeat])
  | .showMainWindow _, _, .granted => some (.applied [.forbidRepeat])
  | .showMainWindow _, _, .failed => some (.failed [.forbidRepeat])
  | _, _, _ => none

/-- Applies one effect of a queue under its run policy. -/
def applyEffect (host : ProcessHost) (run : EffectRun) (effect : Effect) (answer : TaskAnswer) :
    Option EffectOutcome :=
  match effect, answer with
  | .untilKeyUp action timing, .granted =>
    -- A held action cannot be nested inside a repeated one.
    if run = .oneShot then some (.holding ⟨action, timing⟩) else some (.terminal [])
  | .untilKeyUp _ _, .failed => if run = .oneShot then none else some (.failed [])
  | .exec (.relay spec), answer => applyRelay spec run answer
  | .exec action, answer => applyAction host run action answer
  | .notify _ _ _, .granted => some (.applied [])
  | .notify _ _ _, .failed => some (.failed [])
  | .nav _, .granted => some (.applied [])
  | .select _, .granted => some (.applied [])
  | .select _, .failed => some (.failed [])
  | _, _ => none

namespace Engine

/-- The engine before any dispatch, with its relayer enabled or not. -/
def build (relayEnabled : Bool) : Engine := { relay := { poster := relayEnabled } }

/-- The binding a registration id stands for. -/
def resolve (engine : Engine) (id : UInt32) : Option HeldBinding := engine.bindings.lookup id

/-- The chord bound under an identifier. -/
def chordForIdent (engine : Engine) (ident : String) : Option Chord :=
  (engine.bindings.entries.find? fun entry => entry.2.identifier == ident).map fun entry =>
    entry.2.chord

/-- What a key-up does once the loop it stopped has ended. -/
def releaseRest (notified : Option Chord) : Resumption where
  stage := match notified with
    | some chord => .notifying chord
    | none => .finished
  operations := [.stopProcess, .endRelay]

/-- Handles a resolved key event up to its first await. -/
def dispatchResolved (engine : Engine) (request : DispatchRequest) (binding : HeldBinding) :
    Resumption :=
  let ident := binding.identifier
  match request.kind, request.repeated with
  -- A repeat reaches the selector alone.
  | .keyDown, true => { stage := .checkingSelector binding.chord, reached := some ident }
  | .keyDown, false =>
    { stage := .handling binding.chord !engine.keyTracker.isDown ident
      operations := [.onKeyDown binding.chord]
      reached := some ident }
  | .keyUp, _ =>
    -- The chord to release is the one noted at the press.
    let released := (KeyStateTracker.onKeyUp engine.keyTracker ident).1
    let notified := (released.filter KeyState.pressNotified).map KeyState.chord
    match engine.actionRepeater.entries.lookup ident with
    -- The loop's task is joined before the relay is ended.
    | some loop =>
      { stage := .releasing loop notified
        operations := [.onKeyUp, .stopLoop]
        reached := some ident }
    | none =>
      { (releaseRest notified).after [.onKeyUp, .stopLoop] with reached := some ident }

/-- The binding a dispatch can use without awaiting the binding manager. -/
def retained (engine : Engine) (request : DispatchRequest) : Option HeldBinding :=
  match request.origin, request.kind, request.repeated with
  | _, .keyDown, false => none
  | .physical id, _, _ => engine.heldBindings.lookup id
  | .injected ident, _, _ =>
    (KeyStateTracker.heldChord engine.keyTracker ident).map fun chord => ⟨ident, chord⟩

/-- The first stretch of a dispatch, up to its first await. -/
def beginDispatch (engine : Engine) (request : DispatchRequest) : Resumption :=
  match engine.retained request with
  | none => { stage := .resolving }
  | some binding =>
    let resolved := engine.dispatchResolved request binding
    match request.origin, request.kind with
    | .physical id, .keyUp => resolved.after [.letGo id]
    | _, _ => resolved

/-- What a dispatch does once the binding manager is there. -/
def resumeResolving (engine : Engine) (request : DispatchRequest) : Resumption :=
  match request.origin with
  | .physical id =>
    match engine.resolve id with
    | none => { stage := .finished }
    | some binding =>
      let resolved := engine.dispatchResolved request binding
      if request.kind = .keyDown then resolved.after [.hold id binding] else resolved
  | .injected ident =>
    match engine.chordForIdent ident with
    | none => { stage := .finished }
    | some chord => engine.dispatchResolved request ⟨ident, chord⟩

/-- What a held key does on a repeated key-down, unless a selector is open. -/
def handleRepeat (engine : Engine) (ident : String) : List Operation :=
  if KeyStateTracker.isDown engine.keyTracker ident &&
      KeyStateTracker.isRepeatAllowed engine.keyTracker ident then
    .repeatRelay ::
      if (engine.relay.repeatGesture ident).1 && engine.repeater.ticker.isActive ident then
        [.noteOsRepeat]
      else []
  else []

/-- What follows once a task's queue is over, terminally or not. -/
def queueOver (engine : Engine) (role : TaskRole) (ident : String) (stop : Bool) : Resumption :=
  match role with
  | .dispatch _ => { stage := .refreshing }
  | .tick loop =>
    if stop then
      match engine.actionRepeater.entries.lookup ident with
      | some registered =>
        { stage := .stopping registered, operations := [.tickDone loop, .stopLoop] }
      | none => { stage := .finished, operations := [.tickDone loop, .stopLoop] }
    else { stage := .finished, operations := [.tickDone loop] }

/-- What an error in a task's queue leads to: a tick stops its loop, a dispatch just ends. -/
def queueFailed (engine : Engine) (role : TaskRole) (ident : String) : Resumption :=
  match role with
  | .dispatch _ => { stage := .finished }
  | .tick _ => engine.queueOver role ident true

/-- Where a task goes once changed bindings have stopped every repeat and relay. -/
def afterClearing (engine : Engine) (role : TaskRole) (ident : String) (reloading : Bool) :
    Resumption :=
  if reloading then engine.queueOver role ident true else { stage := .finished }

/-- Stops every repeat and relay after bindings changed, awaiting the cancelled loops if any. -/
def bindingsChanged (engine : Engine) (role : TaskRole) (ident : String) (reloading : Bool) :
    Resumption :=
  match engine.actionRepeater.clear.1 with
  | [] => (engine.afterClearing role ident reloading).after
      [.stopProcessRepeats, .clearLoops, .releaseRelays]
  | loops =>
    { stage := .clearing loops reloading, operations := [.stopProcessRepeats, .clearLoops] }

/-- Where a task goes after an effect: on with its queue unless the effect cut it short. -/
def afterEffect (engine : Engine) (role : TaskRole) (ident : String) (next : TaskStage)
    (held : HeldAction → Option TaskStage) : EffectOutcome → Option Resumption
  | .applied operations => some { stage := next, operations }
  | .terminal operations => some ((engine.queueOver role ident true).after operations)
  | .failed operations => some ((engine.queueFailed role ident).after operations)
  | .holding action => (held action).map fun stage => { stage }
  | .reloaded changed operations =>
    some ((if changed then engine.bindingsChanged role ident true
      else engine.queueOver role ident true).after operations)

/-- What a key event sets off, after the HUD was told of the press. -/
def handleKeyEvent (chord : Chord) (told : Bool) (outcome : KeyOutcome) : Resumption where
  stage := match outcome with
    | .ignored | .failed => .finished
    | .entered => .refreshing
    | .queued effects => .applying effects
  operations := if told then [.markPressNotified chord] else []

/-- How far a task gets with what it finds, or none if it has to go on waiting. -/
def resumeTask (host : ProcessHost) (engine : Engine) (task : EngineTask) (answer : TaskAnswer) :
    Option Resumption :=
  let ident := task.identifier.getD ""
  match task.stage, task.role, answer with
  | .resolving, .dispatch request, .granted => some (engine.resumeResolving request)
  | .checkingSelector chord, _, .selector true => some { stage := .handling chord false }
  | .checkingSelector _, _, .selector false =>
    some { stage := .finished, operations := engine.handleRepeat ident }
  | .handling chord feedback, _, .handled notified outcome =>
    some (handleKeyEvent chord (feedback && notified) outcome)
  | .applying [], role, .granted => some (engine.queueOver role ident false)
  | .applying (effect :: rest), role, answer =>
    (applyEffect host role.run effect answer).bind
      (engine.afterEffect role ident (.applying rest) fun held => some (.calling held rest))
  | .calling held rest, _, .script (some queue) => some { stage := .applyingFirst queue held rest }
  | .calling _ _, role, .script none => some (engine.queueOver role ident true)
  | .calling _ _, role, .failed => some (engine.queueFailed role ident)
  | .applyingFirst [] held rest, _, .granted =>
    -- The loop starts only if the key is still down.
    some {
      stage := .applying rest
      operations :=
        if KeyStateTracker.isDown engine.keyTracker ident then [.startLoop held] else [] }
  | .applyingFirst (effect :: queue) held rest, role, answer =>
    (applyEffect host .repeatedFirst effect answer).bind
      (engine.afterEffect role ident (.applyingFirst queue held rest) fun _ => none)
  | .ticking, .tick _, .script (some queue) => some { stage := .applying queue }
  | .ticking, role, .script none => some (engine.queueOver role ident true)
  | .ticking, role, .failed => some (engine.queueFailed role ident)
  | .refreshing, role, .refreshed true => some (engine.bindingsChanged role ident false)
  | .refreshing, _, .refreshed false => some { stage := .finished }
  | .refreshing, _, .failed => some { stage := .finished }
  | .clearing loops reloading, role, .granted =>
    if loops.all engine.actionRepeater.hasEnded then
      some ((engine.afterClearing role ident reloading).after [.releaseRelays])
    else none
  | .releasing loop notified, _, .granted =>
    if engine.actionRepeater.hasEnded loop then some (releaseRest notified) else none
  | .notifying _, _, .granted => some { stage := .finished }
  | .notifying _, _, .failed => some { stage := .finished }
  | .stopping loop, _, .granted =>
    if engine.actionRepeater.hasEnded loop then some { stage := .finished } else none
  | _, _, _ => none

/-- One operation of a task on what the tasks share. -/
def perform (task : Nat) (ident : String) (engine : Engine) (operation : Operation) : Engine :=
  { engine with
    heldBindings := operation.onHeld engine.heldBindings
    keyTracker := operation.onTracker ident engine.keyTracker
    relay := operation.onRelay ident engine.relay
    repeater := operation.onRepeater ident engine.repeater
    actionRepeater := operation.onLoops task ident engine.actionRepeater
    downBy := operation.onDownBy task ident engine.keyTracker engine.downBy
    relayBy := operation.onRelayBy task ident engine.relayBy
    processBy := operation.onProcessBy task engine.processBy }

/-- Puts a task among the others and carries out what it does until its next await. -/
def carryOut (engine : Engine) (task : Nat) (entry : EngineTask) (resumed : Resumption)
    (tasks : List EngineTask) : Engine :=
  let placed : Engine :=
    { engine with
      tasks, entries := if resumed.reached.isSome then engine.entries + 1 else engine.entries }
  resumed.operations.foldl (perform task (entry.identifier.getD "")) placed

/-- Starts a dispatch, which runs up to its first await. -/
def spawn (engine : Engine) (request : DispatchRequest) : Engine :=
  let begun := engine.beginDispatch request
  let fresh : EngineTask := ⟨.dispatch request, .resolving, none, none⟩
  let entry := fresh.moveTo engine.entries begun
  engine.carryOut engine.tasks.length entry begun (engine.tasks ++ [entry])

/-- Moves a task on to its next await. -/
def advance (engine : Engine) (task : Nat) (entry : EngineTask) (resumed : Resumption) : Engine :=
  let entry := entry.moveTo engine.entries resumed
  engine.carryOut task entry resumed (engine.tasks.set task entry)

/-- The timer of an action repeat loop fires, which spawns a tick unless one is still running. -/
def tickLoop (engine : Engine) (loop : Nat) : Option Engine := do
  let entry ← engine.actionRepeater.tasks[loop]?
  if entry.ended then none
  else if entry.callback.running then some engine
  else
    some { engine with
      actionRepeater := engine.actionRepeater.update loop fun entry =>
        { entry with callback := { entry.callback with running := true } }
      tasks := engine.tasks ++ [⟨.tick loop, .ticking, some entry.id, none⟩] }

/-- One step of the engine, taken by whoever is chosen, or none when they cannot move. -/
def step (host : ProcessHost) (engine : Engine) : EngineChoice → Option Engine
  | .call request => some (engine.spawn request)
  -- One awaited call of one task returns; the others stay where they are.
  | .resume task answer => do
    let entry ← engine.tasks[task]?
    let resumed ← engine.resumeTask host entry answer
    some (engine.advance task entry resumed)
  | .tick loop => engine.tickLoop loop
  | .loopEnd loop => (engine.actionRepeater.finish loop).map fun actionRepeater =>
    { engine with actionRepeater }
  | .processEnd run => (engine.repeater.finish run).map fun repeater => { engine with repeater }
  | .register bindings => some { engine with bindings }
  -- A context update that changed bindings ends the repeats and then the relays.
  | .stopRepeats =>
    some { engine with
      repeater := engine.repeater.stopRepeats, actionRepeater := engine.actionRepeater.clear.2 }
  | .releaseRelays => some { engine with relay := engine.relay.releaseAll }

/-- The transition relation of the engine, whoever moves. -/
def Steps (host : ProcessHost) (engine : Engine) (choice : EngineChoice) (next : Engine) : Prop :=
  engine.step host choice = some next

end Engine

end Hotki

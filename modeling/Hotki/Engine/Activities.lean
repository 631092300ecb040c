import Hotki.Engine.Segments
import Hotki.Keycode.Parse

/-! The engine's operations, as programs of what they do between their awaits. -/

namespace Hotki

open Base

/-- A part of an operation of the engine, which may end early with an error. -/
abbrev Activity (T : Externals) := ExceptT EngineError (Program (@Segment.Answer T))

/-- Result of applying an effect queue. -/
structure EffectApplication where
  /-- Post-dispatch behavior requested by the queue. -/
  result : Engine.DispatchResult := .autoExit
  /-- Whether no later effects or repeat ticks should run. -/
  terminal : Bool := false
  deriving DecidableEq

/-- Merges in another dispatch result. -/
def EffectApplication.combineResult (applied : EffectApplication)
    (result : Engine.DispatchResult) : EffectApplication :=
  { applied with result := applied.result.combine result }

namespace Activity

variable {T : Externals}

/-- The part that is one segment. -/
def segment (segment : Segment T) : Activity T segment.Answer :=
  ExceptT.lift (Program.perform segment)

/-- The part that is one segment which may fail. -/
def attempt {α : Type} (segment : Segment T) (fallible : segment.Answer = Except EngineError α) :
    Activity T α :=
  ExceptT.mk (fallible ▸ Program.perform segment)

/-- Reads the state. -/
def look : Activity T (LiveEngine T) := segment .look

/-- Sends a message to the UI without waiting for capacity. -/
def trySendUi (message : MsgToUI T) : Activity T Unit := attempt (.send message) rfl

/-- Sends a notification with a kind, title and text. -/
def sendNotification (kind : NotifyKind) (title text : String) : Activity T Unit :=
  trySendUi (.notify kind title text)

/-- Sends an error notification. -/
def sendError (title text : String) : Activity T Unit := sendNotification .error title text

/-- Renders, rebinds and publishes under a focus. -/
def rebindAndRefresh (focus : Option FocusSnapshot) : Activity T Unit := attempt (.rebind focus) rfl

/-- Rebinds under the cached focus. -/
def rebindCurrentContext : Activity T Unit := do
  let engine ← look
  rebindAndRefresh engine.core.focusCtx

/-- Takes a focus into the cache, and rebinds if it changed. -/
def applyWorldFocusSnapshot (focus : Option FocusSnapshot) : Activity T Unit := do
  let changed : Bool ← segment (.setFocus focus)
  if changed then rebindCurrentContext

/-- Takes the focus of the refreshed world into the cache, and rebinds if it changed. -/
def refreshWorldFocus : Activity T Unit := do
  let changed : Bool ← segment .syncFocus
  if changed then rebindCurrentContext

/-- Loads a configuration and installs it. -/
def installConfig (path : String) (mode : ConfigInstall) : Activity T Unit := do
  let config ← attempt (.prepare path mode) rfl
  attempt (.commit config) rfl

/-- Loads the configuration again from where it is. -/
def reloadDynamicConfig : Activity T Unit := do
  let engine ← look
  match engine.core.configPath with
  | none => throw (.msg "No config path set; cannot reload config")
  | some path => installConfig path .keepFocus

/-- Resolves a relay target, answering none after a notification that there is no one process. -/
def resolveRelayDestination (target : RelayTarget) : Activity T (Option RelayDestination) :=
  attempt (.resolveRelay target) rfl

/-- Applies one relay effect, resolving a process target only at gesture start. -/
def applyRelay (spec : RelaySpec) (run : EffectRun) : Activity T EffectApplication := do
  match Chord.parse spec.chord with
  | none =>
    sendError "Relay" ("Invalid relay chord string: " ++ spec.chord)
    return { terminal := true }
  | some _ =>
    -- The posted events touch nothing of this state.
    match run with
    | .oneShot | .repeatedFirst =>
      match ← resolveRelayDestination spec.target with
      | none => return { terminal := true }
      | some _ => return {}
    | .repeatedTick => return {}

/-- Applies one action. Starting its process touches nothing of this state. -/
def applyAction (ident : String) (action : Action) : Activity T Engine.DispatchResult := do
  segment (.forbidRepeat ident)
  match action with
  | .relay spec => return (← applyRelay spec .oneShot).result
  | .reloadConfig =>
    -- A failing reload is told to the user and counts as an action done.
    tryCatch reloadDynamicConfig fun error => sendError "Config" error.display
    return .autoExit
  | .clearNotifications =>
    trySendUi .clearNotifications
    return .autoExit
  | .showMainWindow switch =>
    trySendUi (.showMainWindow switch)
    return .autoExit
  | _ => return .autoExit

/-- Opens a selector, answering whether there was a configuration to resolve its items. -/
def openSelector (config : SelectorConfig) (ctx : ModeCtx) : Activity T Bool := do
  match ← attempt (.resolveItems config ctx) rfl with
  | none => return false
  | some items =>
    attempt (.openSelector config items ctx) rfl
    return true

/-- Whether an effect ends its queue whatever comes of it. -/
def endsQueue : Action → Bool
  | .reloadConfig => true
  | _ => false

section Queue

variable (held : HandlerRef → Activity T EffectApplication) (ident : String) (ctx : ModeCtx)
  (run : EffectRun)

/-- Applies one effect, given how an action is held until key-up. -/
def applyEffect : Effect → Activity T EffectApplication
  -- Holding is refused inside a repeated action, with a notice.
  | .untilKeyUp action _ =>
    match run with
    | .oneShot => held action
    | _ => do
      sendError "Handler" "ctx:until_keyup cannot be nested inside a repeated action"
      return { terminal := true }
  | .exec (.relay spec) => applyRelay spec run
  | .exec action => do
    let result ← applyAction ident action
    return { result, terminal := endsQueue action }
  | .notify kind title body => do
    sendNotification kind title body
    return {}
  | .nav request => do
    let result ← segment (.navigate request ctx.window)
    return { result }
  -- A selector that opened keeps the session; a failed one lets it exit.
  | .select config => do
    let opened ← openSelector config ctx
    return { result := if opened then .selectorOpened else .autoExit }

/-- Applies what is left of an effect queue in source order. -/
def applyEffectQueue (applied : EffectApplication) : List Effect → Activity T EffectApplication
  | [] => pure applied
  | effect :: rest => do
    let outcome ← applyEffect held ident ctx run effect
    let applied := applied.combineResult outcome.result
    if outcome.terminal then return { applied with terminal := true }
    else applyEffectQueue applied rest

end Queue

/-- Runs one repeated action closure invocation and applies its effects. -/
def runRepeatedAction (ident : String) (action : HandlerRef) (ctx : ModeCtx) (run : EffectRun) :
    Activity T EffectApplication := do
  match ← attempt (.callHandler action ctx .repeatedAction) rfl with
  | none => return { terminal := true }
  | some result =>
    -- Within a repeated action nothing is held, so how to hold is never asked.
    let applied ← applyEffectQueue (fun _ => pure {}) ident ctx run {} result.effects
    return { applied with result := applied.result.withStay result.stay }

/-- Starts a held-key repeat loop for an action closure. -/
def startUntilKeyup (ident : String) (ctx : ModeCtx) (action : HandlerRef) :
    Activity T EffectApplication := do
  let first ← runRepeatedAction ident action ctx .repeatedFirst
  if first.terminal then return first
  else
    segment (.startLoop ident ⟨action, ctx⟩)
    return first

/-- Applies an effect queue as an ordinary one-shot activation. -/
def applyEffects (ident : String) (effects : List Effect) (ctx : ModeCtx) :
    Activity T Engine.DispatchResult := do
  let applied ← applyEffectQueue (startUntilKeyup ident ctx) ident ctx .oneShot {} effects
  return applied.result

/-- Executes the terminal handler of a selector whose close was published. -/
def completeClose (ident : String) (focus : Option FocusSnapshot) (close : SelectorClose) :
    Activity T Unit := do
  match ← attempt (.runTerminal close) rfl with
  | none => rebindAndRefresh focus
  | some result =>
    let _ ← applyEffects ident result.effects close.ctx
    rebindAndRefresh focus

/-- Routes one key event to an active selector, answering whether it was consumed. -/
def handleInput (chord : Chord) (ident : String) (focus : Option FocusSnapshot) :
    Activity T Bool := do
  match ← attempt (.selectorInput chord) rfl with
  | .inactive => return false
  | .close close =>
    completeClose ident focus close
    return true
  | _ => return true

/-- Executes a binding, answering none when there is nothing to refresh for. -/
def executeBinding (ident : String) (binding : Binding) (ctx : ModeCtx) :
    Activity T (Option Engine.DispatchResult) := do
  match binding.kind with
  | .mode mode =>
    segment (.pushMode binding mode ctx.window)
    return some (Engine.DispatchResult.enteredMode.withStay binding.flags.stay)
  | .handler handler =>
    match ← attempt (.callHandler handler ctx .heldKey) rfl with
    | none => return none
    | some result =>
      let outcome ← applyEffects ident result.effects ctx
      return some ((outcome.withStay result.stay).withStay binding.flags.stay)

/-- Leaves the modes. -/
def autoExit : Activity T Unit := do
  let _ ← segment (.navigate .exit none)

/-- Handles a key-down that is not an ordinary repeat. -/
def handleKeyEvent (host : Surroundings T) (chord : Chord) (ident : String)
    (refreshWorld allowPressFeedback : Bool) : Activity T Unit := do
  if refreshWorld && host.syncOnDispatch then refreshWorldFocus
  let focus := (← look).core.focusCtx
  let loaded := (← look).core.config.isSome
  if !loaded then return
  -- A selector that is open reads the chord before any binding does.
  if ← handleInput chord ident focus then return
  match ← segment (.resolveKey chord ident focus allowPressFeedback) with
  | none => return
  | some (binding, ctx) =>
    match ← executeBinding ident binding ctx with
    | none => return
    | some result =>
      -- The rebind follows the exit, so what is registered fits the frame left.
      if result.shouldAutoExit then autoExit
      rebindAndRefresh focus

/-- Dispatches a key event of a resolved binding. -/
def dispatchResolved (host : Surroundings T) (ident : String) (chord : Chord) (kind : EventKind)
    (repeated refreshWorld : Bool) : Activity T Unit := do
  match kind with
  | .keyDown =>
    if repeated then
      -- Without a selector a repeat concerns only relays and processes.
      if (← look).core.runtime.selector.isSome then
        handleKeyEvent host chord ident refreshWorld false
    else
      let initialDown : Bool ← segment (.keyDown ident chord)
      handleKeyEvent host chord ident refreshWorld initialDown
  | .keyUp =>
    let released ← segment (.keyUp ident)
    segment (.stopLoop ident)
    match released with
    | some state =>
      if state.pressNotified then segment (.deliver (.hudKeyState state.chord false))
    | none => return

/-- One tick of an action repeat loop, which stops it at its end or after an error. -/
def tick (ident : String) (held : RepeatedAction) : Activity T Unit :=
  tryCatch
    (do
      let applied ← runRepeatedAction ident held.action held.ctx .repeatedTick
      if applied.terminal then segment (.stopLoop ident))
    fun _ => segment (.stopLoop ident)

/-- Publishes the HUD again if the displays changed. -/
def refreshDisplaysIfChanged : Activity T Unit := do
  match ← segment .checkDisplays with
  | none => return
  | some displays =>
    let hud := (← look).core.runtime.hudState
    attempt (.publishHud hud displays) rfl

end Activity

/-- What sets the engine to work. -/
inductive EngineOperation where
  /-- A key event is dispatched, by a physical key or not. -/
  | dispatch (ident : String) (chord : Chord) (kind : EventKind) (repeated physical : Bool)
  /-- The focus of the world changed, or was read anew. -/
  | focusChanged (focus : Option FocusSnapshot)
  /-- An action repeat loop ticks. -/
  | tick (ident : String) (held : RepeatedAction)
  /-- The matcher of a selector has news. -/
  | selectorNotify
  | setConfigPath (path : String)
  | refreshDisplays

variable {T : Externals}

/-- The engine's operations over its segments. -/
def engineOperations [BEq T.Displays] (host : Surroundings T) :
    Operations (LiveEngine T) (Segment T) Segment.Answer EngineOperation
      (Except EngineError Unit) where
  perform := Segment.perform host
  enabled engine
    | .tick ident held => decide (engine.actionLoops.lookup ident = some held)
    | _ => true
  program
    | .dispatch ident chord kind repeated physical =>
      (Activity.dispatchResolved host ident chord kind repeated physical).run
    | .focusChanged focus => (Activity.applyWorldFocusSnapshot focus).run
    | .tick ident held => (Activity.tick ident held).run
    | .selectorNotify => (Activity.attempt .selectorNotify rfl).run
    | .setConfigPath path => (Activity.installConfig path .resetFocus).run
    | .refreshDisplays => Activity.refreshDisplaysIfChanged.run

/-- The engine in progress. -/
abbrev EnginePool (T : Externals) := Pool (LiveEngine T) (@Segment.Answer T) (Except EngineError Unit)

/-- The engine before any operation. -/
def EnginePool.initial (host : Host T) (api : T.Api) (displays : T.Displays) : EnginePool T where
  state := { core := .initial host api displays }

end Hotki

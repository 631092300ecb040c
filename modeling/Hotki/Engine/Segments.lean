import Hotki.Base.Program
import Hotki.Engine.Refresh
import Hotki.Engine.Task
import Hotki.Proofs.Engine.Refresh
import Hotki.Script.Handler
import Hotki.World.Application

/-! What the engine's operations do between two awaits. -/

namespace Hotki

open Base Script

/-- What the operations of the engine find around them. -/
structure Surroundings (T : Externals) extends Host T where
  /-- The focused window of the world at some reading. -/
  worldFocus : Nat → Option FocusSnapshot
  /-- The processes an application name stands for at some reading. -/
  resolveApplication : Nat → String → ApplicationResolution
  /-- Whether a style shows the HUD as such, and not in a minimal or hidden form. -/
  isHudMode : T.Style → Bool
  /-- Whether a physical dispatch refreshes the world first. -/
  syncOnDispatch : Bool

/-- A held action whose loop ticks, with the context it was started in. -/
structure RepeatedAction where
  action : HandlerRef
  ctx : ModeCtx
  deriving DecidableEq

/-- The engine state that its operations share, but for processes and relays. -/
structure LiveEngine (T : Externals) where
  core : Core T
  keyTracker : KeyStateTracker := ∅
  actionLoops : HashMap String RepeatedAction := ∅

/-- How a selector was ended. -/
inductive SelectorTerminal where
  | select (item : SelectorItem) (query : String)
  | cancel

/-- A closed selector, with what its terminal handler needs. -/
structure SelectorClose where
  terminal : SelectorTerminal
  config : SelectorConfig
  ctx : ModeCtx

/-- What a key did to a selector. -/
inductive SelectorInput where
  /-- No selector is active. -/
  | inactive
  | consumed
  | update (snapshot : SelectorSnapshot)
  | close (close : SelectorClose)

/-- A prepared configuration, which starts without a selector. -/
structure PreparedConfig (T : Externals) where
  prepared : Core.Prepared T
  closed : prepared.runtime.selector = none

namespace Core

variable {T : Externals} (host : Surroundings T)

/-- Tears a selector down and packages what ends it. -/
def closeSelector (core : Core T) (selector : SelectorState T) (terminal : SelectorTerminal) :
    SelectorInput × Core T :=
  let runtime := core.runtime.closeSelector selector
  (.close ⟨terminal, selector.config, modeCtx selector.window runtime.hudVisible runtime.depth⟩,
    { core with runtime })

/-- Applies a key to the active selector. -/
def selectorInput (core : Core T) (chord : Chord) : SelectorInput × Core T :=
  match core.runtime.selector with
  | none => (.inactive, core)
  | some selector =>
    let (event, selector) := selector.handleKeyDown host.matching chord
    match event with
    | .update =>
      -- The matcher is given a tick before what is shown is read.
      let (_, selector) := selector.tick host.matching
      let (snapshot, selector) := selector.snapshot host.matching
      (.update snapshot, { core with runtime := { core.runtime with selector := some selector } })
    | .select item query => core.closeSelector selector (.select item query)
    | .cancel => core.closeSelector selector .cancel
    -- An open selector swallows the chords it has no use for.
    | .ignored =>
      (.consumed, { core with runtime := { core.runtime with selector := some selector } })

/-- Applies a key to the active selector and tells the UI. -/
def handleSelectorInput (core : Core T) (chord : Chord) : Except EngineError SelectorInput × Core T :=
  let (input, core) := core.selectorInput host chord
  match input with
  | .update snapshot =>
    let (sent, core) := core.trySendUi host.toHost (.selectorUpdate snapshot)
    (sent.map fun _ => input, core)
  | .close _ =>
    let (sent, core) := core.trySendUi host.toHost .selectorHide
    (sent.map fun _ => input, core)
  | _ => (.ok input, core)

/-- Notifies of the error of a callback, which leaves nothing to apply. -/
def reportError {α : Type} (core : Core T) (title error : String) :
    Except EngineError (Option α) × Core T :=
  let (sent, core) := core.sendError host.toHost title error
  (sent.map fun _ => none, core)

/-- Executes the close handler of a terminal selector event. -/
def executeSelectorClose (cfg : LoadedConfig T) (close : SelectorClose) :
    Except String HandlerResult × LoadedConfig T :=
  match close.terminal with
  | .select item query =>
    Script.executeSelectorSelection host.script cfg close.config close.ctx item query
  | .cancel =>
    let (result, cfg) := Script.executeSelectorCancel host.script cfg close.config close.ctx
    (result.map fun result => result.getD ⟨[], true⟩, cfg)

/-- Runs the terminal handler of a closed selector, answering none when there is nothing to apply. -/
def runTerminal (core : Core T) (close : SelectorClose) :
    Except EngineError (Option HandlerResult) × Core T :=
  match core.config with
  | none => (.ok none, core)
  | some cfg =>
    match executeSelectorClose host cfg close with
    | (.ok result, cfg) => (.ok (some result), { core with config := some cfg })
    | (.error error, cfg) => { core with config := some cfg }.reportError host "Selector" error

/-- Resolves the items of a selector to be opened: none without a configuration, and no items
after a script error. -/
def resolveItems (core : Core T) (config : SelectorConfig) (ctx : ModeCtx) :
    Except EngineError (Option (List SelectorItem)) × Core T :=
  match core.config with
  | none => (.ok none, core)
  | some cfg =>
    match Script.resolveSelectorItems host.script cfg config ctx with
    | (.ok items, cfg) => (.ok (some items), { core with config := some cfg })
    | (.error error, cfg) =>
      let (sent, core) := { core with config := some cfg }.sendError host.toHost "Selector" error
      (sent.map fun _ => some [], core)

/-- Installs a selector over its items and publishes its first snapshot. -/
def openSelector (core : Core T) (config : SelectorConfig) (items : List SelectorItem)
    (ctx : ModeCtx) : Except EngineError Unit × Core T :=
  let selector := SelectorState.new host.matching config items core.runtime.hudVisible ctx.window
  let (_, selector) := selector.tick host.matching
  let (snapshot, selector) := selector.snapshot host.matching
  { core with runtime := { core.runtime with hudVisible := false, selector := some selector } }
    |>.trySendUi host.toHost (.selectorUpdate snapshot)

/-- Lets the matcher of an active selector work, and publishes changed results. -/
def onSelectorNotify (core : Core T) : Except EngineError Unit × Core T :=
  match core.runtime.selector with
  | none => (.ok (), core)
  | some selector =>
    let (changed, selector) := selector.tick host.matching
    if changed then
      let (snapshot, selector) := selector.snapshot host.matching
      { core with runtime := { core.runtime with selector := some selector } }
        |>.trySendUi host.toHost (.selectorUpdate snapshot)
    else (.ok (), { core with runtime := { core.runtime with selector := some selector } })

/-- Calls a handler, answering none without a configuration or after a script error. -/
def callHandler (core : Core T) (handler : HandlerRef) (ctx : ModeCtx)
    (permission : ActionRepeatPermission) : Except EngineError (Option HandlerResult) × Core T :=
  match core.config with
  | none => (.ok none, core)
  | some cfg =>
    match Script.executeHandlerWithPermission host.script cfg handler ctx permission with
    | (.ok result, cfg) => (.ok (some result), { core with config := some cfg })
    | (.error error, cfg) => { core with config := some cfg }.reportError host "Handler" error

/-- Resolves a relay target without changing application state. -/
def resolveRelayDestination (core : Core T) :
    RelayTarget → Except EngineError (Option RelayDestination) × Core T
  -- The focused application is reached through the system's own stream.
  | .focused => (.ok (some .hid), core)
  | .applicationName name =>
    match host.resolveApplication core.readings name with
    | .found pid => (.ok (some (.process pid)), core.tally)
    | .notRunning =>
      -- The notice may fail in its turn, and then the whole call does.
      let (sent, core) := core.tally.sendNotification host.toHost .warn "Relay"
        ("Application \"" ++ name ++ "\" is not running")
      (sent.map fun _ => none, core)
    | .ambiguous count =>
      let (sent, core) := core.tally.sendNotification host.toHost .warn "Relay"
        ("Application \"" ++ name ++ "\" is ambiguous: " ++ toString count ++ " running matches")
      (sent.map fun _ => none, core)

/-- A prepared configuration starts without a selector. -/
theorem prepareConfig_closed {core read : Core T} {path : String} {mode : ConfigInstall}
    {prepared : Prepared T}
    (answered : core.prepareConfig host.toHost path mode = (.ok prepared, read)) :
    prepared.runtime.selector = none := by
  unfold prepareConfig at answered
  split at answered
  · cases answered
  · dsimp only at answered
    split at answered
    · cases answered
      -- Rendering leaves the selector of the candidate, which has none.
      rw [buildLoadedRefreshPlan_frame]
      unfold candidateRuntime
      split <;> rfl
    · cases answered

/-- Loads and renders a configuration, answering it with the proof that it has no selector. -/
def prepare (core : Core T) (path : String) (mode : ConfigInstall) :
    Except EngineError (PreparedConfig T) × Core T :=
  match answered : core.prepareConfig host.toHost path mode with
  | (.ok prepared, core) => (.ok ⟨prepared, prepareConfig_closed host answered⟩, core)
  | (.error error, core) => (.error error, core)

end Core

namespace LiveEngine

variable {T : Externals} (host : Surroundings T)

/-- The binding a key event executes, with its context and whether the HUD is told of the press. -/
structure ResolvedKey where
  binding : Binding
  ctx : ModeCtx
  pressFeedback : Bool

/-- Resolves a chord among the rendered bindings. -/
def resolveKey (rt : RuntimeState T) (chord : Chord) (focus : Option FocusSnapshot)
    (allowPressFeedback : Bool) : Option ResolvedKey :=
  (resolveBinding rt.rendered chord).map fun binding => {
    binding
    ctx := rt.currentCtx focus
    pressFeedback := allowPressFeedback && rt.hudVisible && host.isHudMode rt.rendered.style &&
      !binding.kind.isMode &&
      rt.rendered.hudRows.any fun row => decide (row.chord = chord) && row.stay }

/-- Resolves a chord and tells the HUD of the press, if it shows the row of a binding that stays. -/
def resolveAndNotify (engine : LiveEngine T) (chord : Chord) (ident : String)
    (focus : Option FocusSnapshot) (allowPressFeedback : Bool) :
    Option (Binding × ModeCtx) × LiveEngine T :=
  match resolveKey host engine.core.runtime chord focus allowPressFeedback with
  | none => (none, engine)
  | some resolved =>
    if resolved.pressFeedback then
      match engine.core.trySendUi host.toHost (.hudKeyState chord true) with
      | (.ok (), core) =>
        (some (resolved.binding, resolved.ctx),
          { engine with core, keyTracker := engine.keyTracker.markPressNotified ident })
      | (.error _, core) => (some (resolved.binding, resolved.ctx), { engine with core })
    else (some (resolved.binding, resolved.ctx), engine)

/-- Sets the cached focus, answering whether it changed. -/
def setFocus (engine : LiveEngine T) (focus : Option FocusSnapshot) : Bool × LiveEngine T :=
  if engine.core.focusCtx = focus then (false, engine)
  else (true, { engine with core := { engine.core with focusCtx := focus } })

/-- The end of an install or refresh, which clears the action loops if bindings changed. -/
def rebound (engine : LiveEngine T) (result : Except EngineError Bool × Core T) :
    Except EngineError Unit × LiveEngine T :=
  match result with
  | (.ok changed, core) =>
    (.ok (), { engine with
      core, actionLoops := if changed then ∅ else engine.actionLoops })
  | (.error error, core) => (.error error, { engine with core })

end LiveEngine

/-- What an operation does between two awaits. -/
inductive Segment (T : Externals) where
  /-- Reads the state. -/
  | look
  /-- Takes the focus of the world into the cache. -/
  | syncFocus
  /-- Takes a focus into the cache. -/
  | setFocus (focus : Option FocusSnapshot)
  /-- Applies a key to an active selector. -/
  | selectorInput (chord : Chord)
  | runTerminal (close : SelectorClose)
  | resolveKey (chord : Chord) (ident : String) (focus : Option FocusSnapshot)
      (allowPressFeedback : Bool)
  /-- Enters the mode of a binding. -/
  | pushMode (binding : Binding) (mode : ModeRef) (window : Option FocusSnapshot)
  | callHandler (handler : HandlerRef) (ctx : ModeCtx) (permission : ActionRepeatPermission)
  /-- Sends to the UI without waiting for capacity. -/
  | send (message : MsgToUI T)
  /-- Sends to the UI once it has capacity. -/
  | deliver (message : MsgToUI T)
  | navigate (request : NavRequest) (window : Option FocusSnapshot)
  | resolveItems (config : SelectorConfig) (ctx : ModeCtx)
  | openSelector (config : SelectorConfig) (items : List SelectorItem) (ctx : ModeCtx)
  | selectorNotify
  | resolveRelay (target : RelayTarget)
  | keyDown (ident : String) (chord : Chord)
  | keyUp (ident : String)
  | forbidRepeat (ident : String)
  /-- Starts the loop of a held action if its key is still down. -/
  | startLoop (ident : String) (held : RepeatedAction)
  | stopLoop (ident : String)
  | prepare (path : String) (mode : ConfigInstall)
  | commit (config : PreparedConfig T)
  | rebind (focus : Option FocusSnapshot)
  /-- Reads the displays of the world, and answers them if they are not the cached ones. -/
  | checkDisplays
  /-- Caches displays and sends them with a HUD. -/
  | publishHud (hud : HudState T) (displays : T.Displays)

namespace Segment

variable {T : Externals}

/-- The type of what a segment answers. -/
def Answer : Segment T → Type
  | look => LiveEngine T
  | syncFocus | setFocus _ => Bool
  | selectorInput _ => Except EngineError SelectorInput
  | runTerminal _ => Except EngineError (Option HandlerResult)
  | resolveKey _ _ _ _ => Option (Binding × ModeCtx)
  | pushMode _ _ _ => Unit
  | callHandler _ _ _ => Except EngineError (Option HandlerResult)
  | send _ => Except EngineError Unit
  | deliver _ => Unit
  | navigate _ _ => Engine.DispatchResult
  | resolveItems _ _ => Except EngineError (Option (List SelectorItem))
  | openSelector _ _ _ => Except EngineError Unit
  | selectorNotify => Except EngineError Unit
  | resolveRelay _ => Except EngineError (Option RelayDestination)
  | keyDown _ _ => Bool
  | keyUp _ => Option KeyState
  | forbidRepeat _ | startLoop _ _ | stopLoop _ => Unit
  | prepare _ _ => Except EngineError (PreparedConfig T)
  | commit _ | rebind _ => Except EngineError Unit
  | checkDisplays => Option T.Displays
  | publishHud _ _ => Except EngineError Unit

variable (host : Surroundings T)

/-- A segment that concerns only what refreshes and installs work on. -/
def onCore {α : Type} (engine : LiveEngine T) (result : α × Core T) : α × LiveEngine T :=
  (result.1, { engine with core := result.2 })

/-- What a segment answers and does. -/
def perform [BEq T.Displays] : (segment : Segment T) → LiveEngine T → segment.Answer × LiveEngine T
  | look, engine => (engine, engine)
  | syncFocus, engine =>
    { engine with core := engine.core.tally }.setFocus (host.worldFocus engine.core.readings)
  | setFocus focus, engine => engine.setFocus focus
  | selectorInput chord, engine => onCore engine (engine.core.handleSelectorInput host chord)
  | runTerminal close, engine => onCore engine (engine.core.runTerminal host close)
  | resolveKey chord ident focus allowed, engine =>
    engine.resolveAndNotify host chord ident focus allowed
  | pushMode binding mode window, engine =>
    onCore engine ((), { engine.core with
      runtime := engine.core.runtime.pushMode binding.desc mode
        (binding.modeId.map fun id => (binding.chord, id)) binding.modeCapture window })
  | callHandler handler ctx permission, engine =>
    onCore engine (engine.core.callHandler host handler ctx permission)
  | send message, engine => onCore engine (engine.core.trySendUi host.toHost message)
  | deliver message, engine => onCore engine ((), engine.core.post message)
  | navigate request window, engine =>
    let (result, runtime) := engine.core.runtime.applyNavRequest window request
    onCore engine (result, { engine.core with runtime })
  | resolveItems config ctx, engine => onCore engine (engine.core.resolveItems host config ctx)
  | openSelector config items ctx, engine =>
    onCore engine (engine.core.openSelector host config items ctx)
  | selectorNotify, engine => onCore engine (engine.core.onSelectorNotify host)
  | resolveRelay target, engine => onCore engine (engine.core.resolveRelayDestination host target)
  | keyDown ident chord, engine =>
    let (first, keyTracker) := engine.keyTracker.onKeyDown ident chord
    (first, { engine with keyTracker })
  | keyUp ident, engine =>
    let (released, keyTracker) := engine.keyTracker.onKeyUp ident
    (released, { engine with keyTracker })
  | forbidRepeat ident, engine =>
    ((), { engine with keyTracker := engine.keyTracker.setRepeatAllowed ident false })
  | startLoop ident held, engine =>
    ((), if engine.keyTracker.isDown ident then
      { engine with actionLoops := engine.actionLoops.insert ident held } else engine)
  | stopLoop ident, engine => ((), { engine with actionLoops := engine.actionLoops.erase ident })
  | prepare path mode, engine => onCore engine (engine.core.prepare host path mode)
  | commit config, engine =>
    engine.rebound (engine.core.commitConfig host.toHost config.prepared)
  | rebind focus, engine => engine.rebound (engine.core.rebindAndRefresh host.toHost focus)
  | checkDisplays, engine =>
    let displays := host.displays engine.core.readings
    onCore engine (if engine.core.displaySnapshot == displays then none else some displays,
      engine.core.tally)
  | publishHud hud displays, engine =>
    onCore engine ({ engine.core with displaySnapshot := displays }.trySendUi host.toHost
      (.hudUpdate hud displays))

end Segment

end Hotki

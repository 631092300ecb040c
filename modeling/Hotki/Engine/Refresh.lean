import Hotki.Engine.KeyBinding
import Hotki.Engine.Selector

/-! Rendering, rebinding and publishing: configuration installs and context refreshes. -/

namespace Hotki

open Base Script

/-- HUD snapshot pushed to the UI. -/
structure HudState (T : Externals) where
  visible : Bool
  rows : List HudRow
  depth : Nat
  breadcrumbs : List String
  style : T.Style
  capture : Bool

/-- The messages the engine sends to the UI. -/
inductive MsgToUI (T : Externals) where
  | hudKeyState (chord : Chord) (pressed : Bool)
  | hudUpdate (hud : HudState T) (displays : T.Displays)
  | selectorUpdate (snapshot : SelectorSnapshot)
  | selectorHide
  | notify (kind : NotifyKind) (title text : String)
  | clearNotifications
  | showMainWindow (switch : Toggle)

/-- Unified error type for the engine. -/
inductive EngineError where
  | hotkey (message : String)
  | channelClosed
  | io (message : String)
  | msg (message : String)
  deriving DecidableEq

/-- An error as it is printed. -/
def EngineError.display : EngineError → String
  | .hotkey message => "Hotkey manager error: " ++ message
  | .channelClosed => "UI channel closed"
  | .io message => "I/O error: " ++ message
  | .msg message => "Engine error: " ++ message

/-- What the engine's surroundings answer, each reading of them numbered in turn. -/
structure Host (T : Externals) where
  script : ScriptHost T
  matching : MatcherHost T
  hotkeys : HotkeyApi T.Api EngineError
  defaultStyle : T.Style
  /-- The configuration a path holds at some reading, or why it does not load. -/
  load : Nat → String → Except String (LoadedConfig T)
  /-- Whether the UI channel takes a message without waiting at some reading. -/
  uiAccepts : Nat → Bool
  /-- The displays at some reading. -/
  displays : Nat → T.Displays
  /-- The iteration orders of an update at some reading. -/
  order : Nat → UpdateOrder

/-- The engine state that refreshes and installs work on. -/
structure Core (T : Externals) where
  runtime : RuntimeState T
  manager : KeyBindingManager T.Api
  config : Option (LoadedConfig T)
  /-- The path a reload reads. -/
  configPath : Option String
  /-- Cached focus snapshot from world events. -/
  focusCtx : Option FocusSnapshot
  /-- Last displays snapshot sent to the UI. -/
  displaySnapshot : T.Displays
  /-- The messages put on the UI channel so far. -/
  sent : List (MsgToUI T)
  /-- How many readings of the surroundings were made. -/
  readings : Nat

/-- How an install treats existing focus and HUD state. -/
inductive ConfigInstall where
  /-- Clears the HUD and takes the focus from the world cache. -/
  | resetFocus
  /-- Keeps the current focus and HUD visibility. -/
  | keepFocus
  deriving DecidableEq

/-- What a refresh will bind and show. -/
structure RefreshPlan (T : Externals) where
  warnings : List Effect
  errors : List String
  keyPairs : List (String × Chord)
  captureAll : Bool
  hud : HudState T

namespace RuntimeState

variable {T : Externals}

/-- The HUD state the UI should show for a runtime state. -/
def hudState (rt : RuntimeState T) : HudState T where
  visible := rt.hudVisible
  rows := rt.rendered.hudRows
  depth := rt.depth
  breadcrumbs := rt.breadcrumbs
  style := rt.rendered.style
  capture := rt.hudVisible && rt.rendered.capture

end RuntimeState

section Plan

variable {T : Externals} (host : ScriptHost T)

/-- Attempts one render pass, updating the runtime state on success and its stack in any case. -/
def tryRender (rt : RuntimeState T) (cfg : LoadedConfig T) (ctx : ModeCtx) :
    Except String (List Effect) × RuntimeState T × LoadedConfig T :=
  match renderStack host cfg rt.stack ctx with
  | (.ok (state, warnings), stack, cfg) => (.ok warnings, { rt with stack, rendered := state }, cfg)
  | (.error error, stack, cfg) => (.error error, { rt with stack }, cfg)

/-- Renders the current stack, falling back to the root and then to an empty state. -/
def renderStackWithRecovery (rt : RuntimeState T) (cfg : LoadedConfig T) :
    (List Effect × List String) × RuntimeState T × LoadedConfig T :=
  let ctx := modeCtx rt.focus rt.hudVisible rt.depth
  match tryRender host rt cfg ctx with
  | (.ok warnings, rt, cfg) => ((warnings, []), rt, cfg)
  | (.error first, rt, cfg) =>
    match tryRender host rt.resetToRoot cfg { ctx with depth := 0 } with
    | (.ok warnings, rt, cfg) => ((warnings, [first]), rt, cfg)
    | (.error second, rt, cfg) =>
      (([], [first, second]), { rt with rendered := emptyRendered cfg.baseStyle }, cfg)

/-- The pairs under which a selector captures the keyboard. -/
def selectorKeyPairs : List (String × Chord) :=
  selectorCaptureChords.map fun chord => (chord.display, chord)

/-- The pairs under which rendered bindings are registered, sorted by identifier. -/
def bindingKeyPairs (bindings : List (Chord × Binding)) : List (String × Chord) :=
  (bindings.map fun entry => (entry.1.display, entry.1)).mergeSort fun left right =>
    decide (left.1 ≤ right.1)

/-- Makes sure the stack of a loaded configuration has its root. -/
def ensureStack (cfg : LoadedConfig T) (stack : List ModeFrame) : List ModeFrame :=
  if stack.isEmpty then [rootFrame cfg.root] else stack

/-- Plans a refresh under a loaded configuration. -/
def buildLoadedRefreshPlan (rt : RuntimeState T) (cfg : LoadedConfig T) :
    RefreshPlan T × RuntimeState T × LoadedConfig T :=
  let rt := { rt with stack := ensureStack cfg rt.stack }
  if rt.selector.isSome then (⟨[], [], selectorKeyPairs, true, rt.hudState⟩, rt, cfg)
  else
    match renderStackWithRecovery host rt cfg with
    | ((warnings, errors), rt, cfg) =>
      (⟨warnings, errors, bindingKeyPairs rt.rendered.bindings,
        rt.hudVisible && rt.rendered.capture, rt.hudState⟩, rt, cfg)

/-- Plans a refresh: what to bind and show for the runtime state under a focus. -/
def buildRefreshPlan (defaultStyle : T.Style) (rt : RuntimeState T)
    (cfg : Option (LoadedConfig T)) (focus : Option FocusSnapshot) :
    RefreshPlan T × RuntimeState T × Option (LoadedConfig T) :=
  let rt := { rt with focus := rt.contextWindow focus }
  match cfg with
  | some cfg =>
    match buildLoadedRefreshPlan host rt cfg with
    | (plan, rt, cfg) => (plan, rt, some cfg)
  | none =>
    let rt := rt.clearConfigState defaultStyle
    (⟨[], [], [], false, rt.hudState⟩, rt, none)

end Plan

namespace Core

variable {T : Externals} (host : Host T)

/-- The state before any configuration, over a hotkey manager. -/
def initial (api : T.Api) (displays : T.Displays) : Core T where
  runtime := .empty host.defaultStyle
  manager := .newWithApi api
  config := none
  configPath := none
  focusCtx := none
  displaySnapshot := displays
  sent := []
  readings := 0

/-- Counts one reading of the surroundings. -/
def tally (core : Core T) : Core T := { core with readings := core.readings + 1 }

/-- Whether the UI channel takes a message now. -/
def uiReady (core : Core T) : Bool := host.uiAccepts core.readings

/-- Puts a message on the UI channel. -/
def post (core : Core T) (message : MsgToUI T) : Core T :=
  { core with sent := core.sent ++ [message] }

/-- Sends a message to the UI without waiting for capacity. -/
def trySendUi (core : Core T) (message : MsgToUI T) : Except EngineError Unit × Core T :=
  if core.uiReady host then (.ok (), core.tally.post message)
  else (.error .channelClosed, core.tally)

/-- Sends a notification with a kind, title and text. -/
def sendNotification (core : Core T) (kind : NotifyKind) (title text : String) :
    Except EngineError Unit × Core T :=
  core.trySendUi host (.notify kind title text)

/-- Sends an error notification. -/
def sendError (core : Core T) (title text : String) : Except EngineError Unit × Core T :=
  core.sendNotification host .error title text

/-- Delivers a warning of a plan, if it is a notification. -/
def deliverWarning (core : Core T) : Effect → Core T
  | .notify kind title body => (core.sendNotification host kind title body).2
  | _ => core

/-- Delivers the errors and warnings of a plan, whether or not the UI takes them. -/
def deliverRefreshDiagnostics (core : Core T) (errors : List String) (warnings : List Effect) :
    Core T :=
  let core := errors.foldl (fun core message => (core.sendError host "Config" message).2) core
  warnings.foldl (fun core warning => core.deliverWarning host warning) core

/-- A loaded configuration with the runtime it starts in and what it will bind and show. -/
structure Prepared (T : Externals) where
  path : String
  config : LoadedConfig T
  runtime : RuntimeState T
  plan : RefreshPlan T
  displays : T.Displays

/-- The HUD visibility and focus a configuration is installed with. -/
def installContext (core : Core T) : ConfigInstall → Bool × Option FocusSnapshot
  | .resetFocus => (false, core.focusCtx)
  | .keepFocus => (core.runtime.hudVisible, core.runtime.focus)

/-- The runtime state a configuration starts in, before its first render. -/
def candidateRuntime (config : LoadedConfig T) (hudVisible : Bool)
    (focus : Option FocusSnapshot) : RuntimeState T :=
  let fresh := { RuntimeState.empty host.defaultStyle with hudVisible, focus }
  (if hudVisible then fresh.startSession focus else fresh).installConfig config

/-- Loads and renders a configuration without touching the current one. -/
def prepareConfig (core : Core T) (path : String) (mode : ConfigInstall) :
    Except EngineError (Prepared T) × Core T :=
  match host.load core.readings path with
  | .error error => (.error (.msg error), core.tally)
  | .ok config =>
    let (hudVisible, focus) := core.installContext mode
    let runtime := candidateRuntime host config hudVisible focus
    match buildLoadedRefreshPlan host.script { runtime with focus := runtime.contextWindow focus }
        config with
    | (plan, runtime, config) =>
      if plan.errors.isEmpty then
        (.ok ⟨path, config, runtime, plan, host.displays (core.readings + 1)⟩, core.tally.tally)
      else (.error (.msg (String.intercalate "\n" plan.errors)), core.tally)

/-- Replaces the configuration by a prepared one, reporting whether bindings changed. -/
def commitConfig (core : Core T) (prepared : Prepared T) : Except EngineError Bool × Core T :=
  -- Room in the mailbox is reserved before anything is changed.
  if core.uiReady host then
    let reserved := core.tally
    match reserved.manager.updateBindings host.hotkeys (host.order reserved.readings)
        prepared.plan.keyPairs with
    -- A refused table leaves the configuration in force as it was.
    | (.error error, manager) => (.error error, { reserved.tally with manager })
    | (.ok changed, manager) =>
      let committed : Core T :=
        { reserved.tally with
          manager := manager.setCaptureAll host.hotkeys prepared.plan.captureAll
          config := some prepared.config
          runtime := prepared.runtime
          configPath := some prepared.path
          displaySnapshot := prepared.displays }
      (.ok changed, (committed.post (.hudUpdate prepared.plan.hud prepared.displays))
        |>.deliverRefreshDiagnostics host prepared.plan.errors prepared.plan.warnings)
  else (.error .channelClosed, core.tally)

/-- Loads and installs a configuration, reporting whether held gestures must be released. -/
def installConfig (core : Core T) (path : String) (mode : ConfigInstall) :
    Except EngineError Bool × Core T :=
  match core.prepareConfig host path mode with
  | (.error error, core) => (.error error, core)
  | (.ok prepared, core) => core.commitConfig host prepared

/-- Undoes a refresh whose bindings were refused, rendering the stack of before the call again. -/
def rollback (host : Host T) (saved : RuntimeState T) (failed : RuntimeState T)
    (config : Option (LoadedConfig T)) : RuntimeState T × Option (LoadedConfig T) :=
  let restored := failed.restore saved.checkpoint
  match saved.selector.isSome, config with
  | false, some cfg =>
    match buildRefreshPlan host.script host.defaultStyle restored (some cfg) saved.focus with
    | (plan, rendered, config) =>
      if plan.errors.isEmpty then (rendered, config)
      else (rendered.restore saved.checkpoint, config)
  | _, _ => (restored, config)

/-- Renders, rebinds and publishes under a focus, reporting whether held gestures must be
released. -/
def rebindAndRefresh (core : Core T) (focus : Option FocusSnapshot) :
    Except EngineError Bool × Core T :=
  let displays := host.displays core.readings
  let core := core.tally
  if core.uiReady host then
    let reserved := core.tally
    -- Rendering moves the runtime and the handlers even if the table is refused below.
    match buildRefreshPlan host.script host.defaultStyle core.runtime core.config focus with
    | (plan, runtime, config) =>
      match reserved.manager.updateBindings host.hotkeys (host.order reserved.readings)
          plan.keyPairs with
      | (.error error, manager) =>
        -- What was rendered last time is rendered again, to bring its handlers back.
        let (runtime, config) := rollback host core.runtime runtime config
        (.error error, { reserved.tally with manager, runtime, config })
      | (.ok changed, manager) =>
        let refreshed : Core T :=
          { reserved.tally with
            manager := manager.setCaptureAll host.hotkeys plan.captureAll
            runtime, config, displaySnapshot := displays }
        (.ok changed, (refreshed.post (.hudUpdate plan.hud displays))
          |>.deliverRefreshDiagnostics host plan.errors plan.warnings)
  else (.error .channelClosed, core.tally)

end Core

end Hotki

import Hotki.Script.Render

/-! The runtime state of the mode stack: HUD, session window, rendered bindings and selector. -/

namespace Hotki

open Script

/-- Post-dispatch behavior requested by a binding or action. -/
inductive Engine.DispatchResult where
  | autoExit | stay | navigation | enteredMode | selectorOpened
  deriving DecidableEq

namespace Engine.DispatchResult

/-- Whether the dispatch should leave the transient mode after executing the binding. -/
def shouldAutoExit (result : DispatchResult) : Bool := decide (result = .autoExit)

/-- Applies an explicit stay request without masking stronger navigation outcomes. -/
def withStay (result : DispatchResult) (requested : Bool) : DispatchResult :=
  if requested && result.shouldAutoExit then .stay else result

/-- The order used when several effects request different behavior. -/
def priority : DispatchResult → Nat
  | autoExit => 0
  | stay => 1
  | navigation => 2
  | enteredMode => 3
  | selectorOpened => 4

/-- Merges two outcomes, preserving the stronger one and the earlier of equals. -/
def combine (result other : DispatchResult) : DispatchResult :=
  if other.priority > result.priority then other else result

end Engine.DispatchResult

/-- The focused window retained for one transient session. -/
structure ModeSession where
  window : Option FocusSnapshot
  deriving DecidableEq

/-- Interactive selector state. -/
structure SelectorState (T : Externals) where
  config : SelectorConfig
  matcher : T.Matcher
  query : String
  selected : Nat
  /-- The HUD visibility to return to when the selector closes. -/
  prevHudVisible : Bool
  window : Option FocusSnapshot

/-- Stack-based runtime state for dynamic configuration. -/
structure RuntimeState (T : Externals) where
  hudVisible : Bool
  stack : List ModeFrame
  focus : Option FocusSnapshot
  session : Option ModeSession
  rendered : RenderedState T
  selector : Option (SelectorState T)

/-- The part of the runtime state used to roll back a failed refresh. -/
structure RuntimeCheckpoint (T : Externals) where
  hudVisible : Bool
  stack : List ModeFrame
  focus : Option FocusSnapshot
  session : Option ModeSession
  rendered : RenderedState T

/-- A rendered state without bindings. -/
def emptyRendered {T : Externals} (style : T.Style) : RenderedState T := ⟨[], [], style, false⟩

/-- The root frame of a configuration. -/
def rootFrame (closure : ModeRef) : ModeFrame := ⟨"root", closure, none, [], false⟩

/-- The context modes and actions are run in. -/
def modeCtx (window : Option FocusSnapshot) (hud : Bool) (depth : Nat) : ModeCtx :=
  ⟨window, hud, depth⟩

namespace RuntimeState

variable {T : Externals}

/-- The state before any configuration. -/
def empty (defaultStyle : T.Style) : RuntimeState T :=
  ⟨false, [], none, none, emptyRendered defaultStyle, none⟩

/-- Number of child modes above the root. -/
def depth (rt : RuntimeState T) : Nat := rt.stack.length - 1

/-- Titles of active child modes in root-to-leaf order. -/
def breadcrumbs (rt : RuntimeState T) : List String := (rt.stack.drop 1).map ModeFrame.title

/-- Saves everything but the selector. -/
def checkpoint (rt : RuntimeState T) : RuntimeCheckpoint T :=
  ⟨rt.hudVisible, rt.stack, rt.focus, rt.session, rt.rendered⟩

/-- Returns to a checkpoint, leaving the selector as it is. -/
def restore (rt : RuntimeState T) (saved : RuntimeCheckpoint T) : RuntimeState T :=
  ⟨saved.hudVisible, saved.stack, saved.focus, saved.session, saved.rendered, rt.selector⟩

/-- Installs the root of a configuration. -/
def installConfig (rt : RuntimeState T) (config : LoadedConfig T) : RuntimeState T :=
  { rt with
    selector := none, stack := [rootFrame config.root], rendered := emptyRendered config.baseStyle }

/-- Forgets everything that came from a configuration. -/
def clearConfigState (rt : RuntimeState T) (style : T.Style) : RuntimeState T :=
  { rt with
    hudVisible := false, session := none, selector := none, stack := []
    rendered := emptyRendered style }

/-- Starts a transient session unless one is already active. -/
def startSession (rt : RuntimeState T) (openingWindow : Option FocusSnapshot) : RuntimeState T :=
  { rt with session := some (rt.session.getD ⟨openingWindow⟩) }

/-- Ends the current transient session. -/
def endSession (rt : RuntimeState T) : RuntimeState T := { rt with session := none }

/-- Pushes a child mode frame and makes the HUD visible. -/
def pushMode (rt : RuntimeState T) (title : String) (closure : ModeRef)
    (enteredVia : Option (Chord × ModeId)) (capture : Bool)
    (openingWindow : Option FocusSnapshot) : RuntimeState T :=
  { rt.startSession openingWindow with
    hudVisible := true, stack := rt.stack ++ [⟨title, closure, enteredVia, [], capture⟩] }

/-- Pops one child mode, leaving the root installed. -/
def popMode (rt : RuntimeState T) : RuntimeState T :=
  if rt.depth = 0 then rt else { rt with stack := rt.stack.dropLast }

/-- Removes every child mode, leaving the root installed. -/
def resetToRoot (rt : RuntimeState T) : RuntimeState T := { rt with stack := rt.stack.take 1 }

/-- The window visible to the configuration: the session's while one is active. -/
def contextWindow (rt : RuntimeState T) (liveWindow : Option FocusSnapshot) :
    Option FocusSnapshot :=
  match rt.session with
  | some session => session.window
  | none => liveWindow

/-- The configuration context under the current session window policy. -/
def currentCtx (rt : RuntimeState T) (liveWindow : Option FocusSnapshot) : ModeCtx :=
  modeCtx (rt.contextWindow liveWindow) rt.hudVisible rt.depth

/-- Applies a navigation request to the stack, the HUD and the session. -/
def applyNavRequest (rt : RuntimeState T) (openingWindow : Option FocusSnapshot) :
    NavRequest → Engine.DispatchResult × RuntimeState T
  | .push mode title =>
    let title := (title.or mode.defaultTitle).getD "mode"
    (.enteredMode, rt.pushMode title mode none false openingWindow)
  | .pop =>
    let popped := rt.popMode
    (.navigation,
      if popped.depth = 0 then { popped.endSession with hudVisible := false } else popped)
  | .exit => (.navigation, { rt.resetToRoot.endSession with hudVisible := false })
  | .showRoot =>
    (.navigation, { rt.resetToRoot.startSession openingWindow with hudVisible := true })
  | .hideHud => (.navigation, { rt with hudVisible := false })

/-- Hides the HUD behind a new selector. -/
def openSelector (rt : RuntimeState T) (config : SelectorConfig) (matcher : T.Matcher)
    (window : Option FocusSnapshot) : RuntimeState T :=
  { rt with
    hudVisible := false, selector := some ⟨config, matcher, "", 0, rt.hudVisible, window⟩ }

/-- Tears a selector down and returns to the HUD visibility it found. -/
def closeSelector (rt : RuntimeState T) (selector : SelectorState T) : RuntimeState T :=
  { rt with hudVisible := selector.prevHudVisible, selector := none }

end RuntimeState

end Hotki

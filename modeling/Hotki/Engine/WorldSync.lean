import Hotki.World.Subscription

/-! The engine's focus cache: the subscription to the world, and the dispatch that refreshes it. -/

namespace Hotki

open Base

/-- A rebind after the cached focus changed. -/
inductive RebindStage where
  /-- The cache is about to be read again. -/
  | rereading
  /-- The locks are awaited, to render and bind for this focus. -/
  | rebinding (focus : Option FocusSnapshot)
  deriving DecidableEq

/-- Where a physical dispatch is that refreshes the world first. What its snapshot is as of, the code
does not keep. -/
inductive DispatchStage where
  | idle
  /-- It waits for the refresh it called. -/
  | refreshing (caller : Nat)
  | snapshotting
  /-- It is about to compare its snapshot with the cache. -/
  | applying (asOf : Nat) (focus : Option FocusSnapshot)
  | changed (asOf : Nat) (rebind : RebindStage)
  /-- It is about to read the focus it goes on with. -/
  | reading (asOf : Nat)
  /-- It is about to resolve its binding among those rendered. -/
  | resolving (asOf : Nat) (focus : Option FocusSnapshot)
  /-- It has its action context for a focus, and a binding rendered for a focus. -/
  | resolved (asOf : Nat) (focus rendered : Option FocusSnapshot)
  deriving DecidableEq

/-- The engine's focus and what keeps it up to date, beside the world. -/
structure WorldSync (Displays : Type) where
  world : PollingWorld Displays
  /-- The focus of the world after each of its steps, which the code does not keep. -/
  history : List (Option FocusSnapshot)
  /-- Cached focus snapshot from world events. -/
  focusCtx : Option FocusSnapshot := none
  /-- The focus that was last rendered and bound for, a session's window apart. -/
  rendered : Option FocusSnapshot := none
  follow : FollowStage := .subscribing
  /-- The rebind the subscription task awaits before it goes on. -/
  rebind : Option RebindStage := none
  dispatch : DispatchStage := .idle

/-- Who moves, and what it finds. -/
inductive SyncChoice (Displays : Type) where
  | world (choice : PollChoice Displays)
  /-- The subscription task goes on, any rebind it awaits succeeding or failing. -/
  | follow (bound : Bool)
  /-- A physical key is dispatched. -/
  | dispatch
  /-- The dispatch goes on, any rebind it awaits succeeding or failing. -/
  | proceed (bound : Bool)
  /-- The dispatch is over, having rebound for its focus or not. -/
  | finish (bound : Bool)

namespace WorldSync

variable {Displays : Type}

/-- The engine's focus when its world is spawned. -/
def start [Inhabited Displays] (cfg : WorldCfg) : WorldSync Displays where
  world := .spawn cfg
  history := [none]

/-- Applies a world focus snapshot to the cache, and tells what rebind follows. -/
def applyWorldFocusSnapshot (focusCtx focus : Option FocusSnapshot) :
    Option FocusSnapshot × Option RebindStage :=
  if focusCtx ≠ focus then (focus, some .rereading) else (focusCtx, none)

/-- A step of the subscription task. -/
def stepFollow (state : WorldSync Displays) (bound : Bool) : WorldSync Displays :=
  match state.rebind with
  | some .rereading => { state with rebind := some (.rebinding state.focusCtx) }
  | some (.rebinding focus) =>
    { state with rendered := if bound then focus else state.rendered, rebind := none }
  | none =>
    match state.follow.step state.world with
    | (follow, none) => { state with follow }
    | (follow, some focus) =>
      let (focusCtx, rebind) := applyWorldFocusSnapshot state.focusCtx focus
      { state with follow, focusCtx, rebind }

/-- A step of the dispatch. -/
def stepDispatch (state : WorldSync Displays) (bound : Bool) : Option (WorldSync Displays) :=
  match state.dispatch with
  | .idle | .resolved _ _ _ => none
  | .refreshing caller =>
    match (state.world.callers[caller]?).map RefreshCaller.stage with
    | some (.returned _) | some (.closed _) => some { state with dispatch := .snapshotting }
    | _ => none
  | .snapshotting =>
    some { state with dispatch := .applying (state.history.length - 1) state.world.state.focus }
  | .applying asOf focus =>
    let (focusCtx, rebind) := applyWorldFocusSnapshot state.focusCtx focus
    some { state with
      focusCtx
      dispatch := match rebind with
        | some rebind => .changed asOf rebind
        | none => .reading asOf }
  | .changed asOf .rereading =>
    some { state with dispatch := .changed asOf (.rebinding state.focusCtx) }
  | .changed asOf (.rebinding focus) =>
    -- A rebind that fails ends the dispatch.
    some (if bound then { state with rendered := focus, dispatch := .reading asOf }
      else { state with dispatch := .idle })
  | .reading asOf => some { state with dispatch := .resolving asOf state.focusCtx }
  | .resolving asOf focus =>
    some { state with dispatch := .resolved asOf focus state.rendered }

/-- One step, taken by whoever is chosen, or none when they cannot move. -/
def step [BEq Displays] [Inhabited Displays] (state : WorldSync Displays) :
    SyncChoice Displays → Option (WorldSync Displays)
  | .world choice =>
    (state.world.move choice).map fun moved =>
      { state with
        world := { moved with now := state.world.now + 1 }
        history := state.history ++ [moved.state.focus] }
  | .follow bound => some (state.stepFollow bound)
  | .dispatch =>
    if state.dispatch = .idle then
      (state.world.move .refresh).map fun moved =>
        { state with
          world := { moved with now := state.world.now + 1 }
          history := state.history ++ [moved.state.focus]
          dispatch := .refreshing state.world.callers.length }
    else none
  | .proceed bound => state.stepDispatch bound
  | .finish bound =>
    match state.dispatch with
    | .resolved _ focus _ =>
      some { state with
        rendered := if bound then focus else state.rendered, dispatch := .idle }
    -- Without a configuration, or when a selector takes the key, there is nothing to resolve.
    | .reading _ | .resolving _ _ => some { state with dispatch := .idle }
    | _ => none

/-- The transition relation, whoever moves. -/
def Steps [BEq Displays] [Inhabited Displays] (state : WorldSync Displays)
    (choice : SyncChoice Displays) (next : WorldSync Displays) : Prop :=
  state.step choice = some next

end WorldSync

end Hotki

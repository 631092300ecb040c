import Hotki.Engine.Refresh

/-! The operations that put HUD updates on the UI channel, between their awaits. -/

namespace Hotki

variable {T : Externals}

/-- Where an operation that updates the HUD is. -/
inductive HudTask (T : Externals) where
  /-- A refresh for a focus awaits the configuration transaction. -/
  | rebinding (focus : Option FocusSnapshot)
  /-- It has read the displays, and awaits the locks of what it refreshes. -/
  | binding (focus : Option FocusSnapshot) (displays : T.Displays)
  /-- An install awaits the configuration transaction. -/
  | loading (path : String) (mode : ConfigInstall)
  | committing (prepared : Core.Prepared T)
  /-- A display refresh is about to read the displays of the world. -/
  | polling
  /-- It is about to compare them with the cache. -/
  | checking (snapshot : T.Displays)
  | capturing (snapshot : T.Displays)
  /-- It has captured the HUD, and awaits the cache. -/
  | publishing (hud : HudState T) (snapshot : T.Displays)
  /-- The operation returned, successfully or not. -/
  | returned (ok : Bool)

/-- Whether an operation may be started like this. -/
def HudTask.isFresh : HudTask T → Bool
  | .rebinding _ | .loading _ _ | .polling => true
  | _ => false

/-- The engine state with the operations in progress on its HUD. -/
structure HudMirror (T : Externals) where
  core : Core T
  tasks : List (HudTask T) := []
  /-- The HUD state of the runtime as the last successful refresh left it, which the code does not
  keep. -/
  left : Option (HudState T) := none

/-- Who moves. -/
inductive HudChoice (T : Externals) where
  | start (task : HudTask T)
  | resume (index : Nat)

/-- What a step of an operation leads to: its next stage, the state, and what a refresh left. -/
structure HudResumption (T : Externals) where
  task : HudTask T
  core : Core T
  refreshed : Option (HudState T) := none

namespace HudTask

variable (host : Host T)

/-- The end of an operation on the state, which left the runtime refreshed if it succeeded. -/
def returning {α : Type} (result : Except EngineError α × Core T) : HudResumption T :=
  match result with
  | (.ok _, core) => ⟨.returned true, core, some core.runtime.hudState⟩
  | (.error _, core) => ⟨.returned false, core, none⟩

/-- How far an operation gets up to its next await. -/
def resume [BEq T.Displays] (core : Core T) : HudTask T → Option (HudResumption T)
  | .rebinding focus => some ⟨.binding focus (host.displays core.readings), core.tally, none⟩
  | .binding focus displays =>
    some (returning (core.rebindAndRefresh { host with displays := fun _ => displays } focus))
  | .loading path mode =>
    match core.prepareConfig host path mode with
    | (.ok prepared, core) => some ⟨.committing prepared, core, none⟩
    | (.error _, core) => some ⟨.returned false, core, none⟩
  | .committing prepared => some (returning (core.commitConfig host prepared))
  | .polling => some ⟨.checking (host.displays core.readings), core.tally, none⟩
  | .checking snapshot =>
    if core.displaySnapshot == snapshot then some ⟨.returned true, core, none⟩
    else some ⟨.capturing snapshot, core, none⟩
  | .capturing snapshot => some ⟨.publishing core.runtime.hudState snapshot, core, none⟩
  | .publishing hud snapshot =>
    -- The cache is set before the message is known to have been sent.
    some (returning
      ({ core with displaySnapshot := snapshot }.trySendUi host (.hudUpdate hud snapshot)))
  | .returned _ => none

end HudTask

namespace HudMirror

/-- One step, taken by whoever is chosen, or none when they cannot move. -/
def step [BEq T.Displays] (host : Host T) (state : HudMirror T) :
    HudChoice T → Option (HudMirror T)
  | .start task =>
    if task.isFresh then some { state with tasks := state.tasks ++ [task] } else none
  | .resume index => do
    let task ← state.tasks[index]?
    let resumed ← task.resume host state.core
    some {
      core := resumed.core
      tasks := state.tasks.set index resumed.task
      left := resumed.refreshed.or state.left }

/-- The transition relation, whoever moves. -/
def Steps [BEq T.Displays] (host : Host T) (state : HudMirror T) (choice : HudChoice T)
    (next : HudMirror T) : Prop :=
  state.step host choice = some next

end HudMirror

end Hotki

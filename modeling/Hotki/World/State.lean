import Hotki.Base.Channel
import Hotki.Script.Types

/-! The world's state, what a poll changes in it, and the events that tell of the changes. -/

namespace Hotki

open Base

/-- Unique key for a window. -/
structure WindowKey where
  pid : Int32
  id : UInt32
  deriving DecidableEq

/-- Snapshot of a single window. -/
structure WorldWindow where
  app : String
  title : String
  pid : Int32
  id : UInt32
  displayId : Option UInt32
  /-- Whether this window is considered focused. -/
  focused : Bool
  deriving DecidableEq

/-- Status for a macOS privacy permission. -/
inductive PermissionState where
  | granted | denied | unknown
  deriving DecidableEq

/-- The permissions the process has. -/
structure Capabilities where
  accessibility : PermissionState := .unknown
  inputMonitoring : PermissionState := .unknown
  screenRecording : PermissionState := .unknown
  deriving DecidableEq

/-- Diagnostic snapshot of world internals. -/
structure WorldStatus where
  windowsCount : Nat := 0
  focused : Option WindowKey := none
  /-- How long the last poll took, in milliseconds. -/
  lastTickMs : Nat := 0
  currentPollMs : Nat := 0
  capabilities : Capabilities := {}
  deriving DecidableEq

/-- Complete focus transition carried by each focus event. -/
inductive FocusChange where
  | focused (focus : FocusSnapshot)
  | cleared
  deriving DecidableEq

/-- The focus after a transition. -/
def FocusChange.focus : FocusChange → Option FocusSnapshot
  | .focused focus => some focus
  | .cleared => none

/-- What subscribers are told. -/
inductive WorldEvent where
  | focusChanged (change : FocusChange)
  | displaysChanged
  deriving DecidableEq

/-- A window as the platform reports it. -/
structure PlatformWindow where
  app : String
  title : String
  pid : Int32
  id : UInt32
  displayId : Option UInt32
  deriving DecidableEq

/-- What a capture of the platform finds, over some description of the displays. -/
structure PlatformSnapshot (Displays : Type) where
  windows : List PlatformWindow := []
  focused : Option PlatformWindow := none
  displays : Displays
  capabilities : Capabilities := {}

/-- What a poll brings to the world's state. -/
structure WorldPollUpdate (Displays : Type) where
  snapshot : List WorldWindow
  focused : Option WindowKey
  focus : Option FocusSnapshot
  displays : Displays
  capabilities : Capabilities

/-- The state of the world as its readers see it. -/
structure WorldState (Displays : Type) where
  snapshot : List WorldWindow := []
  focused : Option WindowKey := none
  focus : Option FocusSnapshot := none
  displays : Displays
  capabilities : Capabilities := {}
  status : WorldStatus := {}

/-- What a poll changed. -/
structure WorldPollChanges where
  displaysChanged : Bool
  focusChanged : Option FocusChange

/-- The events a poll's changes are published by, in their order. -/
def WorldPollChanges.events (changes : WorldPollChanges) : List WorldEvent :=
  (if changes.displaysChanged then [.displaysChanged] else []) ++
    (changes.focusChanged.map WorldEvent.focusChanged).toList

section Poll

variable {Displays : Type}

/-- The update a capture of the platform amounts to. -/
def worldPollUpdate (platform : PlatformSnapshot Displays) : WorldPollUpdate Displays :=
  let focused := platform.focused.map fun window => (⟨window.pid, window.id⟩ : WindowKey)
  { snapshot := platform.windows.map fun window =>
      { app := window.app
        title := window.title
        pid := window.pid
        id := window.id
        displayId := window.displayId
        focused := focused.any fun key => key.pid == window.pid && key.id == window.id }
    focused
    focus := platform.focused.map fun window =>
      ⟨window.id, window.app, window.title, window.pid, window.displayId⟩
    displays := platform.displays
    capabilities := platform.capabilities }

/-- Brings a poll's findings into the state. -/
def WorldState.applyPollUpdate [BEq Displays] (data : WorldState Displays)
    (update : WorldPollUpdate Displays) (lastTickMs currentPollMs : Nat) :
    WorldPollChanges × WorldState Displays :=
  let displaysChanged := data.displays != update.displays
  let focusChanged :=
    if data.focused ≠ update.focused ∨ data.focus ≠ update.focus then
      some ((update.focus.map FocusChange.focused).getD .cleared)
    else none
  let snapshot := if data.snapshot ≠ update.snapshot then update.snapshot else data.snapshot
  (⟨displaysChanged, focusChanged⟩,
    { snapshot
      focused := update.focused
      focus := update.focus
      displays := if displaysChanged then update.displays else data.displays
      capabilities := update.capabilities
      status := ⟨snapshot.length, update.focused, lastTickMs, currentPollMs, update.capabilities⟩ })

end Poll

end Hotki

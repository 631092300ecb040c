import Hotki.Keycode.Chord

/-! The values a configuration script exchanges with the engine: modes, bindings and effects. -/

namespace Hotki

/-- The types whose values the engine only passes along. -/
structure Externals where
  /-- The retained script runtime. -/
  Vm : Type
  /-- A resolved style. -/
  Style : Type
  /-- A snapshot of the display geometry. -/
  Displays : Type
  /-- The fuzzy matcher of a selector. -/
  Matcher : Type
  /-- The state of the hotkey manager. -/
  Api : Type

/-- The focused window at some moment. -/
structure FocusSnapshot where
  id : UInt32
  app : String
  title : String
  pid : Int32
  displayId : Option UInt32
  deriving DecidableEq

/-- Notification kinds supported by the UI. -/
inductive NotifyKind where
  | info | warn | error | success | ignore
  deriving DecidableEq

/-- A switch turned on, off, or over. -/
inductive Toggle where
  | on | off | toggle
  deriving DecidableEq

/-- Source location attached to a binding for diagnostics. -/
structure SourcePos where
  path : Option String
  line : Option Nat
  col : Option Nat
  deriving DecidableEq

/-- Unique identifier for a mode closure. -/
abbrev ModeId := UInt64

/-- A retained script function, by its handle. -/
abbrev CallbackRef := Nat

/-- A mode renderer with its identity and default title. -/
structure ModeRef where
  id : ModeId
  func : CallbackRef
  defaultTitle : Option String
  deriving DecidableEq

/-- A handler closure. -/
structure HandlerRef where
  func : CallbackRef
  deriving DecidableEq

/-- The context passed into mode closures. -/
structure ModeCtx where
  /-- The window captured for this activation. -/
  window : Option FocusSnapshot
  hud : Bool
  /-- Current stack depth, zero at the root. -/
  depth : Nat
  deriving DecidableEq

/-- The configured target of a relayed gesture. -/
inductive RelayTarget where
  | focused
  | applicationName (name : String)
  deriving DecidableEq

/-- The chord and target of a relayed gesture, the chord still as text. -/
structure RelaySpec where
  chord : String
  target : RelayTarget
  deriving DecidableEq

/-- A process to execute directly. -/
structure ExecSpec where
  program : String
  args : Option (List String)
  cwd : Option String
  okNotify : NotifyKind
  errNotify : NotifyKind
  deriving DecidableEq

/-- A shell command and the notifications for its outcomes. -/
structure ShellSpec where
  command : String
  okNotify : NotifyKind := .ignore
  errNotify : NotifyKind := .warn
  deriving DecidableEq

/-- Primitive actions a handler can queue. -/
inductive Action where
  | shell (spec : ShellSpec)
  | exec (spec : ExecSpec)
  | relay (spec : RelaySpec)
  | reloadConfig
  | clearNotifications
  | showMainWindow (switch : Toggle)
  | openTarget (target : String)
  | setVolume (level : UInt8)
  | changeVolume (delta : Int8)
  | mute (switch : Toggle)
  deriving DecidableEq

/-- A navigation request emitted by handlers. -/
inductive NavRequest where
  | push (mode : ModeRef) (title : Option String)
  | pop
  | exit
  | showRoot
  | hideHud
  deriving DecidableEq

/-- Software repeat timings, in milliseconds. -/
structure ScriptRepeat where
  delayMs : Option UInt64
  intervalMs : Option UInt64
  deriving DecidableEq

/-- One selectable option, with the handle of its script data. -/
structure SelectorItem where
  label : String
  sublabel : Option String
  data : Option Nat
  deriving DecidableEq

/-- The items of a selector, listed or provided by a callback. -/
inductive SelectorItems where
  | listed (items : List SelectorItem)
  | provider (func : CallbackRef)
  deriving DecidableEq

/-- The configuration of an interactive selector. -/
structure SelectorConfig where
  title : String
  placeholder : String
  items : SelectorItems
  onSelect : HandlerRef
  onCancel : Option HandlerRef
  maxVisible : Nat
  deriving DecidableEq

/-- An effect emitted by a handler. -/
inductive Effect where
  | exec (action : Action)
  | notify (kind : NotifyKind) (title body : String)
  | nav (request : NavRequest)
  | select (config : SelectorConfig)
  | untilKeyUp (action : HandlerRef) (timing : Option ScriptRepeat)
  deriving DecidableEq

/-- Whether a handler may create a held-key repeat loop. -/
inductive ActionRepeatPermission where
  | heldKey | keyless | repeatedAction
  deriving DecidableEq

/-- The effects a handler queued and whether it asked to stay in its mode. -/
structure HandlerResult where
  effects : List Effect
  stay : Bool

/-- Binding-level flags. -/
structure BindingFlags where
  hidden : Bool := false
  /-- Inherited by child modes. -/
  isGlobal : Bool := false
  /-- Suppresses the exit after execution. -/
  stay : Bool := false
  deriving DecidableEq

/-- What a binding does when its chord is pressed. -/
inductive BindingKind where
  | handler (handler : HandlerRef)
  | mode (mode : ModeRef)
  deriving DecidableEq

/-- Whether a binding enters a mode. -/
def BindingKind.isMode : BindingKind → Bool
  | .mode _ => true
  | .handler _ => false

/-- A rendered binding. -/
structure Binding where
  chord : Chord
  desc : String
  kind : BindingKind
  /-- Mode identity of a binding that enters a mode. -/
  modeId : Option ModeId
  flags : BindingFlags
  modeCapture : Bool
  pos : Option SourcePos
  deriving DecidableEq

/-- A stack frame representing an active mode. -/
structure ModeFrame where
  title : String
  closure : ModeRef
  /-- Entry chord and mode identity when entered through a binding. -/
  enteredVia : Option (Chord × ModeId)
  /-- The bindings of the last render. -/
  rendered : List Binding
  capture : Bool
  deriving DecidableEq

/-- One visible row of the HUD. -/
structure HudRow where
  chord : Chord
  desc : String
  isMode : Bool
  stay : Bool
  deriving DecidableEq

/-- Render output for the current runtime state. -/
structure RenderedState (T : Externals) where
  /-- Flattened bindings in dispatch order. -/
  bindings : List (Chord × Binding)
  hudRows : List HudRow
  style : T.Style
  capture : Bool

end Hotki

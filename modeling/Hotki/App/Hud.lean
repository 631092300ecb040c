import Hotki.Base.HashMap
import Hotki.Config.Style
import Hotki.Keycode.Parse
import Hotki.Script.Types

/-! The HUD window: the applied snapshot, and key presses presented for a minimum duration. -/

namespace Hotki

open Base

namespace App

/-- A duration in nanoseconds, as `Duration::from_millis` makes it. -/
def fromMillis (milliseconds : UInt64) : Nat := milliseconds.toNat * 1000000

/-- One physical gesture retained through its minimum presentation duration. -/
structure HudPressGesture where
  /-- Initial key-down time for this gesture. -/
  downAt : Nat
  /-- Whether the matching key-up event is still to arrive. -/
  held : Bool
  deriving DecidableEq

/-- Whether a gesture is presented: while it is held, and until its minimum duration is over. -/
def HudPressGesture.isLive (gesture : HudPressGesture) (now minimum : Nat) : Bool :=
  gesture.held || decide (now < gesture.downAt + minimum)

/-- HUD-owned transient press state: active gestures by canonical chord specification. -/
structure HudPressState where
  gestures : HashMap String HudPressGesture := ∅
  deriving DecidableEq

namespace HudPressState

/-- Applies one ordered physical key-state event. -/
def apply (presses : HudPressState) (chord : Chord) (pressed : Bool) (now : Nat) : HudPressState :=
  let key := chord.display
  match pressed, presses.gestures.lookup key with
  | true, none => ⟨presses.gestures.insert key ⟨now, true⟩⟩
  | true, some gesture =>
    -- A repeated key-down of a held gesture keeps its first time.
    if !gesture.held then ⟨presses.gestures.insert key ⟨now, true⟩⟩ else presses
  | false, some gesture => ⟨presses.gestures.insert key { gesture with held := false }⟩
  | false, none => presses

/-- Removes entries that no longer have an eligible row in an applied snapshot. -/
def reconcile (presses : HudPressState) (rows : List HudRow) (visible : Bool) (mode : Config.Mode) :
    HudPressState :=
  if !visible || mode != .hud then {}
  else ⟨presses.gestures.retain fun key _ =>
    rows.any fun row => row.stay && row.chord.display == key⟩

/-- Removes released gestures whose minimum duration has elapsed. -/
def expire (presses : HudPressState) (now minimum : Nat) : HudPressState :=
  ⟨presses.gestures.retain fun _ gesture => gesture.isLive now minimum⟩

/-- Whether one row should render with its pressed palette. -/
def isActive (presses : HudPressState) (chord : Chord) (now minimum : Nat) : Bool :=
  (presses.gestures.lookup chord.display).any fun gesture => gesture.isLive now minimum

/-- The next released-gesture expiry after a time. -/
def nextDeadline (presses : HudPressState) (now minimum : Nat) : Option Nat :=
  let released := (presses.gestures.entries.map Sigma.snd).filter fun gesture => !gesture.held
  ((released.map fun gesture => gesture.downAt + minimum).filter (now < ·)).min?

end HudPressState

/-- Resolved colors for one HUD row render. -/
structure HudRowPalette where
  bg : Option Config.Rgb
  titleFg : Config.Rgb
  keyFg : Config.Rgb
  keyBg : Config.Rgb
  modFg : Config.Rgb
  modBg : Config.Rgb
  tagFg : Config.Rgb
  deriving DecidableEq

/-- Resolves ordinary or pressed colors from the current HUD style. -/
def HudRowPalette.resolve (style : Config.Hud) (pressed : Bool) : HudRowPalette :=
  if pressed then
    ⟨some style.pressed.bg, style.pressed.titleFg, style.pressed.keyFg, style.pressed.keyBg,
      style.pressed.modFg, style.pressed.modBg, style.pressed.tagFg⟩
  else ⟨none, style.titleFg, style.keyFg, style.keyBg, style.modFg, style.modBg, style.tagFg⟩

/-- HUD state: the configuration and snapshot applied last, and the transient presses. -/
structure Hud (Displays : Type) where
  visible : Bool
  cfg : Config.Hud
  rows : List HudRow
  breadcrumbs : List String
  presses : HudPressState
  /-- Display metrics used for positioning. -/
  display : Displays

/-- One row as a frame paints it. -/
structure PaintedRow where
  row : HudRow
  pressed : Bool
  palette : HudRowPalette
  deriving DecidableEq

/-- What a visible HUD paints in one frame. -/
structure HudFrame where
  rows : List PaintedRow
  /-- The title shown alone in mini mode. -/
  miniTitle : Option String
  /-- How long from now another frame is requested, if one is. -/
  repaintAfter : Option Nat
  deriving DecidableEq

namespace Hud

variable {Displays : Type}

/-- A new HUD from its configuration. -/
def new (cfg : Config.Hud) (display : Displays) : Hud Displays := ⟨false, cfg, [], [], {}, display⟩

/-- Updates the HUD style in place. -/
def setStyle (hud : Hud Displays) (cfg : Config.Hud) : Hud Displays :=
  if hud.cfg.partialEq cfg then hud
  else { hud with cfg, presses := if cfg.mode != .hud then {} else hud.presses }

/-- Applies one ordered physical key-state event at a caller-supplied instant. -/
def setKeyState (hud : Hud Displays) (chord : Chord) (pressed : Bool) (now : Nat) : Hud Displays :=
  { hud with presses := hud.presses.apply chord pressed now }

/-- Clears every transient HUD press. -/
def clearKeyState (hud : Hud Displays) : Hud Displays := { hud with presses := {} }

/-- Updates the current HUD state: rows, visibility, and breadcrumbs. -/
def setState (hud : Hud Displays) (rows : List HudRow) (visible : Bool)
    (breadcrumbs : List String) : Hud Displays :=
  let presses := hud.presses.reconcile rows visible hud.cfg.mode
  { hud with rows, breadcrumbs, visible, presses }

/-- Hides the HUD window immediately. -/
def hide (hud : Hud Displays) : Hud Displays :=
  { hud with visible := false, rows := [], breadcrumbs := [], presses := {} }

/-- Updates display metrics used for positioning. -/
def setDisplayMetrics (hud : Hud Displays) (display : Displays) : Hud Displays :=
  { hud with display }

/-- The minimum presentation of a press, in nanoseconds. -/
def minimum (hud : Hud Displays) : Nat := fromMillis hud.cfg.pressed.minDurationMs

/-- The rows of the full HUD at a time, each with its palette. -/
def paintedRows (hud : Hud Displays) (now : Nat) : List PaintedRow :=
  hud.rows.map fun row =>
    let pressed := hud.presses.isActive row.chord now hud.minimum
    ⟨row, pressed, .resolve hud.cfg pressed⟩

/-- The active breadcrumb, unless it is blank. -/
def miniTitle (hud : Hud Displays) : Option String :=
  hud.breadcrumbs.getLast?.filter fun title => !(trimmed title.toList).isEmpty

/-- The HUD without the presses that are over. -/
def expired (hud : Hud Displays) (now : Nat) : Hud Displays :=
  { hud with presses := hud.presses.expire now hud.minimum }

/-- What is painted, and when the HUD asks to be painted again. -/
def frame (hud : Hud Displays) (now : Nat) : HudFrame :=
  let repaintAfter := (hud.presses.nextDeadline now hud.minimum).map fun deadline => deadline - now
  if hud.cfg.mode == .mini then ⟨[], hud.miniTitle, repaintAfter⟩
  else ⟨hud.paintedRows now, none, repaintAfter⟩

/-- Renders one frame, unless the HUD is hidden. -/
def render (hud : Hud Displays) (now : Nat) : Hud Displays × Option HudFrame :=
  if !hud.visible then (hud, none) else (hud.expired now, some ((hud.expired now).frame now))

end Hud

/-- The operations on the HUD, in the order in which the UI thread makes them. -/
inductive HudEvent (Displays : Type) where
  | setStyle (cfg : Config.Hud)
  | setKeyState (chord : Chord) (pressed : Bool) (now : Nat)
  | clearKeyState
  | setState (rows : List HudRow) (visible : Bool) (breadcrumbs : List String)
  | hide
  | setDisplayMetrics (display : Displays)
  | render (now : Nat)

/-- The HUD after one operation. -/
def Hud.perform {Displays : Type} (hud : Hud Displays) : HudEvent Displays → Hud Displays
  | .setStyle cfg => hud.setStyle cfg
  | .setKeyState chord pressed now => hud.setKeyState chord pressed now
  | .clearKeyState => hud.clearKeyState
  | .setState rows visible breadcrumbs => hud.setState rows visible breadcrumbs
  | .hide => hud.hide
  | .setDisplayMetrics display => hud.setDisplayMetrics display
  | .render now => (hud.render now).1

/-- The HUD after operations in turn. -/
def Hud.after {Displays : Type} (hud : Hud Displays) (events : List (HudEvent Displays)) :
    Hud Displays := events.foldl Hud.perform hud

end App

end Hotki

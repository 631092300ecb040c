import Mathlib.Data.Nat.Notation

/-! The resolved style: HUD, notifications and selector. -/

namespace Hotki.Config

/-- A single-precision number, by its bits. -/
structure F32 where
  bits : UInt32
  deriving DecidableEq

/-- Whether a number is neither infinite nor a NaN, which have all exponent bits set. -/
def F32.isFinite (number : F32) : Bool := number.bits &&& 0x7f800000 != 0x7f800000

/-- Whether a number is a NaN. -/
def F32.isNaN (number : F32) : Bool := number.bits &&& 0x7fffffff > 0x7f800000

/-- Whether a number is a zero of either sign. -/
def F32.isZero (number : F32) : Bool := number.bits &&& 0x7fffffff == 0

/-- Equality of numbers: a NaN equals nothing, and the two zeros are equal. -/
def F32.partialEq (one other : F32) : Bool :=
  !one.isNaN && !other.isNaN && (one.bits == other.bits || one.isZero && other.isZero)

/-- A parsed color. -/
abbrev Rgb := UInt8 × UInt8 × UInt8

/-- Display mode of the HUD. -/
inductive Mode where
  | hud | hide | mini
  deriving DecidableEq

/-- Font weights used throughout the UI. -/
inductive FontWeight where
  | thin | extraLight | light | regular | medium | semiBold | bold | extraBold | black
  deriving DecidableEq

/-- Screen anchors of the HUD. -/
inductive Pos where
  | center | n | ne | e | se | s | sw | w | nw
  deriving DecidableEq

/-- Pixel offset relative to an anchor. -/
structure Offset where
  x : F32
  y : F32
  deriving DecidableEq

/-- Side of the screen used to stack notifications. -/
inductive NotifyPos where
  | left | right
  deriving DecidableEq

/-- Styling of the notifications of one kind. -/
structure NotifyWindowStyle where
  bg : Rgb
  titleFg : Rgb
  bodyFg : Rgb
  titleFontSize : F32
  titleFontWeight : FontWeight
  bodyFontSize : F32
  bodyFontWeight : FontWeight
  icon : Option String
  deriving DecidableEq

/-- Styling of all kinds of notifications. -/
structure NotifyTheme where
  info : NotifyWindowStyle
  warn : NotifyWindowStyle
  error : NotifyWindowStyle
  success : NotifyWindowStyle
  deriving DecidableEq

/-- Layout and styling of notifications. -/
structure Notify where
  width : F32
  pos : NotifyPos
  opacity : F32
  /-- Auto-dismiss timeout in seconds. -/
  timeout : F32
  /-- Most notifications kept on screen. -/
  buffer : Nat
  radius : F32
  theme : NotifyTheme
  deriving DecidableEq

/-- Styling of one HUD row while its stay binding is pressed. -/
structure HudPressedStyle where
  minDurationMs : UInt64
  bg : Rgb
  titleFg : Rgb
  keyFg : Rgb
  keyBg : Rgb
  modFg : Rgb
  modBg : Rgb
  tagFg : Rgb
  deriving DecidableEq

/-- Styling of the HUD. -/
structure Hud where
  mode : Mode
  pos : Pos
  offset : Offset
  /-- Base font size for descriptions and general text. -/
  fontSize : F32
  titleFontWeight : FontWeight
  keyFontSize : F32
  keyFontWeight : FontWeight
  tagFontSize : F32
  tagFontWeight : FontWeight
  titleFg : Rgb
  bg : Rgb
  keyFg : Rgb
  keyBg : Rgb
  modFg : Rgb
  modFontWeight : FontWeight
  modBg : Rgb
  tagFg : Rgb
  opacity : F32
  keyRadius : F32
  keyPadX : F32
  keyPadY : F32
  radius : F32
  /-- Text tag shown for sub-modes at the end of rows. -/
  tagSubmenu : String
  pressed : HudPressedStyle
  deriving DecidableEq

/-- The numbers of a HUD style. -/
def Hud.numbers (hud : Hud) : List F32 :=
  [hud.offset.x, hud.offset.y, hud.fontSize, hud.keyFontSize, hud.tagFontSize, hud.opacity,
    hud.keyRadius, hud.keyPadX, hud.keyPadY, hud.radius]

/-- Equality of HUD styles: their numbers are compared as numbers, and the rest as it is. -/
def Hud.partialEq (one other : Hud) : Bool :=
  (one.numbers.zip other.numbers).all (fun pair => pair.1.partialEq pair.2) &&
    decide ({ one with
      offset := other.offset, fontSize := other.fontSize, keyFontSize := other.keyFontSize
      tagFontSize := other.tagFontSize, opacity := other.opacity, keyRadius := other.keyRadius
      keyPadX := other.keyPadX, keyPadY := other.keyPadY, radius := other.radius } = other)

/-- Styling of the selector. -/
structure Selector where
  bg : Rgb
  inputBg : Rgb
  itemBg : Rgb
  itemSelectedBg : Rgb
  matchFg : Rgb
  border : Rgb
  shadow : Rgb
  deriving DecidableEq

/-- The style of the UI. -/
structure Style where
  hud : Hud
  notify : Notify
  selector : Selector
  deriving DecidableEq

/-- The style of one kind of notification by default, but for its colors and icon. -/
def NotifyWindowStyle.ofColors (bg titleFg bodyFg : Rgb) (icon : Option String) : NotifyWindowStyle where
  bg
  titleFg
  bodyFg
  titleFontSize := ⟨0x41600000⟩
  titleFontWeight := .bold
  bodyFontSize := ⟨0x41400000⟩
  bodyFontWeight := .regular
  icon

/-- The default notification styling. -/
def NotifyTheme.default : NotifyTheme where
  info := .ofColors (34, 34, 34) (255, 255, 255) (255, 255, 255) (some "ℹ")
  warn := .ofColors (68, 42, 0) (255, 193, 0) (255, 193, 0) (some "⚠")
  error := .ofColors (58, 0, 0) (255, 102, 102) (255, 102, 102) (some "\uea87")
  success := .ofColors (12, 45, 12) (139, 255, 139) (139, 255, 139) (some "\uf05d")

/-- The default notification section: a width of 420, a timeout of 4 seconds, and so on. -/
def Notify.default : Notify where
  width := ⟨0x43d20000⟩
  pos := .right
  opacity := ⟨0x3f733333⟩
  timeout := ⟨0x40800000⟩
  buffer := 200
  radius := ⟨0x41400000⟩
  theme := .default

/-- The default style of a pressed row. -/
def HudPressedStyle.default : HudPressedStyle where
  minDurationMs := 120
  bg := (32, 41, 95)
  titleFg := (255, 255, 255)
  keyFg := (255, 255, 255)
  keyBg := (70, 83, 164)
  modFg := (255, 255, 255)
  modBg := (90, 87, 104)
  tagFg := (143, 168, 255)

/-- The default HUD section: font sizes of 14 for text, 19 for keys and 20 for tags, and so on. -/
def Hud.default : Hud where
  mode := .hud
  pos := .center
  offset := ⟨⟨0⟩, ⟨0⟩⟩
  fontSize := ⟨0x41600000⟩
  titleFontWeight := .regular
  keyFontSize := ⟨0x41980000⟩
  keyFontWeight := .bold
  tagFontSize := ⟨0x41a00000⟩
  tagFontWeight := .regular
  titleFg := (208, 208, 208)
  bg := (16, 16, 16)
  keyFg := (208, 208, 208)
  keyBg := (44, 52, 113)
  modFg := (255, 255, 255)
  modFontWeight := .regular
  modBg := (67, 65, 77)
  tagFg := (55, 79, 138)
  opacity := ⟨0x3f800000⟩
  keyRadius := ⟨0x40800000⟩
  keyPadX := ⟨0x40c00000⟩
  keyPadY := ⟨0x40000000⟩
  radius := ⟨0x41000000⟩
  tagSubmenu := String.singleton (Char.ofNat 0xf035f)
  pressed := .default

/-- The default selector section. -/
def Selector.default : Selector where
  bg := (16, 16, 16)
  inputBg := (26, 26, 26)
  itemBg := (16, 16, 16)
  itemSelectedBg := (44, 52, 113)
  matchFg := (160, 196, 255)
  border := (48, 48, 48)
  shadow := (0, 0, 0)

/-- The default style, which the embedded default source is overlaid onto. -/
def Style.default : Style := ⟨.default, .default, .default⟩

end Hotki.Config

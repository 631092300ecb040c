import Hotki.Base.Overlay
import Hotki.Config.Style

/-! Style overlays as the user writes them, and the styles they make of a base. -/

namespace Hotki.Config

open Base

/-- Overrides of the style of one kind of notification. -/
structure RawNotifyStyle where
  bg : Option String := none
  titleFg : Option String := none
  bodyFg : Option String := none
  titleFontSize : Option F32 := none
  titleFontWeight : Option FontWeight := none
  bodyFontSize : Option F32 := none
  bodyFontWeight : Option FontWeight := none
  icon : Option String := none

/-- Overrides of the notification section. -/
structure RawNotify where
  width : Option F32 := none
  pos : Option NotifyPos := none
  opacity : Option F32 := none
  timeout : Option F32 := none
  buffer : Option Nat := none
  radius : Option F32 := none
  info : Option RawNotifyStyle := none
  warn : Option RawNotifyStyle := none
  error : Option RawNotifyStyle := none
  success : Option RawNotifyStyle := none

/-- Overrides of the style of a pressed row. -/
structure RawHudPressed where
  minDurationMs : Option UInt64 := none
  bg : Option String := none
  titleFg : Option String := none
  keyFg : Option String := none
  keyBg : Option String := none
  modFg : Option String := none
  modBg : Option String := none
  tagFg : Option String := none

/-- Overrides of the HUD section. -/
structure RawHud where
  mode : Option Mode := none
  pos : Option Pos := none
  offset : Option Offset := none
  fontSize : Option F32 := none
  titleFontWeight : Option FontWeight := none
  keyFontSize : Option F32 := none
  keyFontWeight : Option FontWeight := none
  tagFontSize : Option F32 := none
  tagFontWeight : Option FontWeight := none
  titleFg : Option String := none
  bg : Option String := none
  keyFg : Option String := none
  keyBg : Option String := none
  modFg : Option String := none
  modFontWeight : Option FontWeight := none
  modBg : Option String := none
  tagFg : Option String := none
  opacity : Option F32 := none
  keyRadius : Option F32 := none
  keyPadX : Option F32 := none
  keyPadY : Option F32 := none
  radius : Option F32 := none
  tagSubmenu : Option String := none
  pressed : Option RawHudPressed := none

/-- Overrides of the selector section. -/
structure RawSelector where
  bg : Option String := none
  inputBg : Option String := none
  itemBg : Option String := none
  itemSelectedBg : Option String := none
  matchFg : Option String := none
  border : Option String := none
  shadow : Option String := none

/-- A style overlay. -/
structure RawStyle where
  hud : Option RawHud := none
  notify : Option RawNotify := none
  selector : Option RawSelector := none

section Validate

/-- The accepted notification timeouts: from 0.1 to 3600 seconds, by their bits, which are ordered
as the numbers are where these are not negative. -/
def validateNotifyTimeout (timeout : F32) : Except String Unit :=
  if !timeout.isFinite then .error "notify.timeout must be finite"
  else if 0x3dcccccd ≤ timeout.bits ∧ timeout.bits ≤ 0x45610000 then .ok ()
  else .error "notify.timeout must be between 0.1 and 3600 seconds"

/-- Validates the notification settings. -/
def RawNotify.validate (notify : RawNotify) : Except String Unit :=
  match notify.timeout with
  | some timeout => validateNotifyTimeout timeout
  | none => .ok ()

/-- Validates the pressed-row duration. -/
def RawHudPressed.validate (pressed : RawHudPressed) : Except String Unit :=
  if pressed.minDurationMs.any fun duration => duration > 2000 then
    .error "hud.pressed.min_duration_ms must be between 0 and 2000"
  else .ok ()

/-- Validates the nested HUD values. -/
def RawHud.validate (hud : RawHud) : Except String Unit :=
  match hud.pressed with
  | some pressed => pressed.validate
  | none => .ok ()

/-- Validates the values that cannot be represented safely. -/
def RawStyle.validate (style : RawStyle) : Except String Unit := do
  if let some hud := style.hud then hud.validate
  if let some notify := style.notify then notify.validate

end Validate

section Overlay

variable (parseRgb : String → Option Rgb)

/-- A color if it is given and parses, and the default otherwise. -/
def colorOr (src : Option String) (default : Rgb) : Rgb :=
  match src with
  | some text =>
    match parseRgb text with
    | some rgb => rgb
    | none => default
  | none => default

/-- The style of one kind of notification over its defaults. -/
def RawNotifyStyle.intoNotifyStyle (raw : RawNotifyStyle) (defaults : NotifyWindowStyle) :
    NotifyWindowStyle where
  bg := colorOr parseRgb raw.bg defaults.bg
  titleFg := colorOr parseRgb raw.titleFg defaults.titleFg
  bodyFg := colorOr parseRgb raw.bodyFg defaults.bodyFg
  titleFontSize := raw.titleFontSize.getD defaults.titleFontSize
  titleFontWeight := raw.titleFontWeight.getD defaults.titleFontWeight
  bodyFontSize := raw.bodyFontSize.getD defaults.bodyFontSize
  bodyFontWeight := raw.bodyFontWeight.getD defaults.bodyFontWeight
  icon := raw.icon.or defaults.icon

/-- The style of one kind of notification, over its defaults if it has overrides. -/
def notifyStyleOver (raw : Option RawNotifyStyle) (defaults : NotifyWindowStyle) :
    NotifyWindowStyle :=
  raw.elim defaults fun style => style.intoNotifyStyle parseRgb defaults

/-- The notification section over a base. -/
def RawNotify.intoNotifyOver (raw : RawNotify) (base : Notify) : Notify where
  width := raw.width.getD base.width
  pos := raw.pos.getD base.pos
  opacity := raw.opacity.getD base.opacity
  timeout := raw.timeout.getD base.timeout
  buffer := raw.buffer.getD base.buffer
  radius := raw.radius.getD base.radius
  theme := {
    info := notifyStyleOver parseRgb raw.info base.theme.info
    warn := notifyStyleOver parseRgb raw.warn base.theme.warn
    error := notifyStyleOver parseRgb raw.error base.theme.error
    success := notifyStyleOver parseRgb raw.success base.theme.success }

/-- The style of a pressed row over a base. -/
def RawHudPressed.intoPressedOver (raw : RawHudPressed) (base : HudPressedStyle) :
    HudPressedStyle where
  minDurationMs := raw.minDurationMs.getD base.minDurationMs
  bg := colorOr parseRgb raw.bg base.bg
  titleFg := colorOr parseRgb raw.titleFg base.titleFg
  keyFg := colorOr parseRgb raw.keyFg base.keyFg
  keyBg := colorOr parseRgb raw.keyBg base.keyBg
  modFg := colorOr parseRgb raw.modFg base.modFg
  modBg := colorOr parseRgb raw.modBg base.modBg
  tagFg := colorOr parseRgb raw.tagFg base.tagFg

/-- The HUD section over a base. -/
def RawHud.intoHudOver (raw : RawHud) (base : Hud) : Hud :=
  let fontSize := raw.fontSize.getD base.fontSize
  { mode := raw.mode.getD base.mode
    pos := raw.pos.getD base.pos
    offset := raw.offset.getD base.offset
    fontSize
    titleFontWeight := raw.titleFontWeight.getD base.titleFontWeight
    -- The key and tag sizes default to the font size.
    keyFontSize := raw.keyFontSize.getD fontSize
    keyFontWeight := raw.keyFontWeight.getD base.keyFontWeight
    tagFontSize := raw.tagFontSize.getD fontSize
    tagFontWeight := raw.tagFontWeight.getD base.tagFontWeight
    titleFg := colorOr parseRgb raw.titleFg base.titleFg
    bg := colorOr parseRgb raw.bg base.bg
    keyFg := colorOr parseRgb raw.keyFg base.keyFg
    keyBg := colorOr parseRgb raw.keyBg base.keyBg
    modFg := colorOr parseRgb raw.modFg base.modFg
    modFontWeight := raw.modFontWeight.getD base.modFontWeight
    modBg := colorOr parseRgb raw.modBg base.modBg
    tagFg := colorOr parseRgb raw.tagFg base.tagFg
    opacity := raw.opacity.getD base.opacity
    keyRadius := raw.keyRadius.getD base.keyRadius
    keyPadX := raw.keyPadX.getD base.keyPadX
    keyPadY := raw.keyPadY.getD base.keyPadY
    radius := raw.radius.getD base.radius
    tagSubmenu := raw.tagSubmenu.getD base.tagSubmenu
    pressed := raw.pressed.elim base.pressed fun pressed =>
      pressed.intoPressedOver parseRgb base.pressed }

/-- The selector section over a base. -/
def RawSelector.intoSelectorOver (raw : RawSelector) (base : Selector) : Selector :=
  let parseColor (src : Option String) (fallback : Rgb) : Rgb := (src.bind parseRgb).getD fallback
  { bg := parseColor raw.bg base.bg
    inputBg := parseColor raw.inputBg base.inputBg
    itemBg := parseColor raw.itemBg base.itemBg
    itemSelectedBg := parseColor raw.itemSelectedBg base.itemSelectedBg
    matchFg := parseColor raw.matchFg base.matchFg
    border := parseColor raw.border base.border
    shadow := parseColor raw.shadow base.shadow }

/-- Overlays overrides onto a style, with its current values as defaults. -/
def overlayRaw (style : Style) (overrides : RawStyle) : Style where
  hud := overrides.hud.elim style.hud fun hud => hud.intoHudOver parseRgb style.hud
  notify := overrides.notify.elim style.notify fun notify =>
    notify.intoNotifyOver parseRgb style.notify
  selector := overrides.selector.elim style.selector fun selector =>
    selector.intoSelectorOver parseRgb style.selector

end Overlay

end Hotki.Config

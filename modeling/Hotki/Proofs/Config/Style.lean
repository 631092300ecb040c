import Hotki.Config.RawStyle

/-! What an overlay makes of each field of a style. -/

namespace Hotki.Config

open Base

section Fields

variable (parseRgb : String → Option Rgb) {Patch Record : Type}

/-- A field that an overlay gives as it is. -/
def plainField {Value : Type} (given : Patch → Option Value) (value : Record → Value) :
    Field Patch Record := ⟨Value, given, value⟩

/-- A field that an overlay gives by a text which parses as a color. -/
def colorField (src : Patch → Option String) (value : Record → Rgb) : Field Patch Record :=
  ⟨Rgb, fun patch => (src patch).bind parseRgb, value⟩

/-- The fields of the style of one kind of notification. -/
def notifyStyleFields : List (Field RawNotifyStyle NotifyWindowStyle) :=
  [colorField parseRgb (·.bg) (·.bg), colorField parseRgb (·.titleFg) (·.titleFg),
    colorField parseRgb (·.bodyFg) (·.bodyFg), plainField (·.titleFontSize) (·.titleFontSize),
    plainField (·.titleFontWeight) (·.titleFontWeight),
    plainField (·.bodyFontSize) (·.bodyFontSize),
    plainField (·.bodyFontWeight) (·.bodyFontWeight),
    plainField (fun raw => raw.icon.map some) (·.icon)]

/-- The fields of the notification section. -/
def notifyFields : List (Field RawNotify Notify) :=
  [plainField (·.width) (·.width), plainField (·.pos) (·.pos), plainField (·.opacity) (·.opacity),
    plainField (·.timeout) (·.timeout), plainField (·.buffer) (·.buffer),
    plainField (·.radius) (·.radius)] ++
  (notifyStyleFields parseRgb).map (Field.within (·.info) (·.theme.info)) ++
  (notifyStyleFields parseRgb).map (Field.within (·.warn) (·.theme.warn)) ++
  (notifyStyleFields parseRgb).map (Field.within (·.error) (·.theme.error)) ++
  (notifyStyleFields parseRgb).map (Field.within (·.success) (·.theme.success))

/-- The fields of the style of a pressed row. -/
def pressedFields : List (Field RawHudPressed HudPressedStyle) :=
  [plainField (·.minDurationMs) (·.minDurationMs), colorField parseRgb (·.bg) (·.bg),
    colorField parseRgb (·.titleFg) (·.titleFg), colorField parseRgb (·.keyFg) (·.keyFg),
    colorField parseRgb (·.keyBg) (·.keyBg), colorField parseRgb (·.modFg) (·.modFg),
    colorField parseRgb (·.modBg) (·.modBg), colorField parseRgb (·.tagFg) (·.tagFg)]

/-- The size of the keys. -/
def keySize : Field RawHud Hud := plainField (·.keyFontSize) (·.keyFontSize)

/-- The size of the tags. -/
def tagSize : Field RawHud Hud := plainField (·.tagFontSize) (·.tagFontSize)

/-- The fields of the HUD section but for the sizes of keys and tags. -/
def hudFields : List (Field RawHud Hud) :=
  [plainField (·.mode) (·.mode), plainField (·.pos) (·.pos), plainField (·.offset) (·.offset),
    plainField (·.fontSize) (·.fontSize), plainField (·.titleFontWeight) (·.titleFontWeight),
    plainField (·.keyFontWeight) (·.keyFontWeight),
    plainField (·.tagFontWeight) (·.tagFontWeight), colorField parseRgb (·.titleFg) (·.titleFg),
    colorField parseRgb (·.bg) (·.bg), colorField parseRgb (·.keyFg) (·.keyFg),
    colorField parseRgb (·.keyBg) (·.keyBg), colorField parseRgb (·.modFg) (·.modFg),
    plainField (·.modFontWeight) (·.modFontWeight), colorField parseRgb (·.modBg) (·.modBg),
    colorField parseRgb (·.tagFg) (·.tagFg), plainField (·.opacity) (·.opacity),
    plainField (·.keyRadius) (·.keyRadius), plainField (·.keyPadX) (·.keyPadX),
    plainField (·.keyPadY) (·.keyPadY), plainField (·.radius) (·.radius),
    plainField (·.tagSubmenu) (·.tagSubmenu)] ++
  (pressedFields parseRgb).map (Field.within (·.pressed) (·.pressed))

/-- The fields of the selector section. -/
def selectorFields : List (Field RawSelector Selector) :=
  [colorField parseRgb (·.bg) (·.bg), colorField parseRgb (·.inputBg) (·.inputBg),
    colorField parseRgb (·.itemBg) (·.itemBg),
    colorField parseRgb (·.itemSelectedBg) (·.itemSelectedBg),
    colorField parseRgb (·.matchFg) (·.matchFg), colorField parseRgb (·.border) (·.border),
    colorField parseRgb (·.shadow) (·.shadow)]

/-- A field of the HUD section, of the whole style. -/
def inHud (field : Field RawHud Hud) : Field RawStyle Style := field.within (·.hud) (·.hud)

/-- The fields of a style but for the sizes of keys and tags. -/
def inheritedFields : List (Field RawStyle Style) :=
  (hudFields parseRgb).map inHud ++
  (notifyFields parseRgb).map (Field.within (·.notify) (·.notify)) ++
  (selectorFields parseRgb).map (Field.within (·.selector) (·.selector))

/-- All fields of a style. -/
def styleFields : List (Field RawStyle Style) :=
  inHud keySize :: inHud tagSize :: inheritedFields parseRgb

end Fields

variable {parseRgb : String → Option Rgb}

/-- A color is taken if it parses, and is the default otherwise. -/
theorem colorOr_eq (src : Option String) (default : Rgb) :
    colorOr parseRgb src default = (src.bind parseRgb).getD default := by
  cases src with
  | none => rfl
  | some text => cases parsed : parseRgb text <;> simp [colorOr, parsed]

/-- Every field of the style of one kind of notification is inherited. -/
theorem intoNotifyStyle_inherits (raw : RawNotifyStyle) (base : NotifyWindowStyle) :
    ∀ field ∈ notifyStyleFields parseRgb,
      field.Inherits raw base (raw.intoNotifyStyle parseRgb base) := by
  simp only [notifyStyleFields, List.forall_mem_cons, Field.Inherits, plainField, colorField,
    RawNotifyStyle.intoNotifyStyle, colorOr_eq]
  cases raw.icon <;> simp

/-- Every field of the style of a pressed row is inherited. -/
theorem intoPressedOver_inherits (raw : RawHudPressed) (base : HudPressedStyle) :
    ∀ field ∈ pressedFields parseRgb,
      field.Inherits raw base (raw.intoPressedOver parseRgb base) := by
  simp [pressedFields, Field.Inherits, plainField, colorField, RawHudPressed.intoPressedOver,
    colorOr_eq]

/-- Every field of the selector section is inherited. -/
theorem intoSelectorOver_inherits (raw : RawSelector) (base : Selector) :
    ∀ field ∈ selectorFields parseRgb,
      field.Inherits raw base (raw.intoSelectorOver parseRgb base) := by
  simp [selectorFields, Field.Inherits, colorField, RawSelector.intoSelectorOver]

/-- Every field of the notification section is inherited. -/
theorem intoNotifyOver_inherits (raw : RawNotify) (base : Notify) :
    ∀ field ∈ notifyFields parseRgb,
      field.Inherits raw base (raw.intoNotifyOver parseRgb base) := by
  -- The plain fields fall back one by one, and each kind's style is a section of its own.
  simp only [notifyFields, List.forall_mem_append]
  refine ⟨⟨⟨⟨?_, ?_⟩, ?_⟩, ?_⟩, ?_⟩
  · simp [Field.Inherits, plainField, RawNotify.intoNotifyOver]
  all_goals
    exact Field.within_inherits_all rfl fun raw => intoNotifyStyle_inherits raw _

/-- Every field of the HUD section is inherited but for the sizes of keys and tags. -/
theorem intoHudOver_inherits (raw : RawHud) (base : Hud) :
    ∀ field ∈ hudFields parseRgb, field.Inherits raw base (raw.intoHudOver parseRgb base) := by
  simp only [hudFields, List.forall_mem_append]
  refine ⟨?_, ?_⟩
  · simp [Field.Inherits, plainField, colorField, RawHud.intoHudOver, colorOr_eq]
  · exact Field.within_inherits_all rfl fun raw => intoPressedOver_inherits raw _

/-- Every field of a style is inherited but for the sizes of keys and tags. -/
theorem overlayRaw_inherits (base : Style) (overlay : RawStyle) :
    ∀ field ∈ inheritedFields parseRgb,
      field.Inherits overlay base (overlayRaw parseRgb base overlay) := by
  -- One goal for each section, whose fields fall back to the base.
  simp only [inheritedFields, List.forall_mem_append]
  refine ⟨⟨?_, ?_⟩, ?_⟩
  · exact Field.within_inherits_all rfl fun raw => intoHudOver_inherits raw _
  · exact Field.within_inherits_all rfl fun raw => intoNotifyOver_inherits raw _
  · exact Field.within_inherits_all rfl fun raw => intoSelectorOver_inherits raw _

section Determine

/-- The fields of the style of one kind of notification determine it. -/
theorem notifyStyleFields_determine : Field.Determine (notifyStyleFields parseRgb) := by
  intro first second same
  cases first
  cases second
  simpa [notifyStyleFields, plainField, colorField] using same

/-- The fields of the style of a pressed row determine it. -/
theorem pressedFields_determine : Field.Determine (pressedFields parseRgb) := by
  intro first second same
  cases first
  cases second
  simpa [pressedFields, plainField, colorField] using same

/-- The fields of the selector section determine it. -/
theorem selectorFields_determine : Field.Determine (selectorFields parseRgb) := by
  intro first second same
  cases first
  cases second
  simpa [selectorFields, colorField] using same

/-- The fields of the notification section determine it. -/
theorem notifyFields_determine : Field.Determine (notifyFields parseRgb) := by
  -- Equal parts have equal fields, so only the section's own fields are left to compare.
  intro first second same
  simp only [notifyFields, List.forall_mem_append] at same
  obtain ⟨⟨⟨⟨own, info⟩, warn⟩, error⟩, success⟩ := same
  have info := Field.part_eq notifyStyleFields_determine info
  have warn := Field.part_eq notifyStyleFields_determine warn
  have error := Field.part_eq notifyStyleFields_determine error
  have success := Field.part_eq notifyStyleFields_determine success
  rcases first with ⟨_, _, _, _, _, _, _, _, _, _⟩
  rcases second with ⟨_, _, _, _, _, _, _, _, _, _⟩
  simp_all [plainField]

/-- The fields of the HUD section determine it together with the sizes of keys and tags. -/
theorem hudFields_determine :
    Field.Determine (keySize :: tagSize :: hudFields parseRgb) := by
  -- The pressed style is a part of its own; the rest is read off field by field.
  intro first second same
  simp only [hudFields, List.forall_mem_cons, List.forall_mem_append] at same
  obtain ⟨keys, tags, own, pressed⟩ := same
  have pressed := Field.part_eq pressedFields_determine pressed
  cases first
  cases second
  simp_all [plainField, colorField, keySize, tagSize]

/-- The listed fields are all there are to a style. -/
theorem styleFields_determine : Field.Determine (styleFields parseRgb) := by
  -- The two sizes are listed apart, so they are handed back to the HUD section first.
  intro first second same
  simp only [styleFields, inheritedFields, List.forall_mem_cons, List.forall_mem_append] at same
  obtain ⟨keys, tags, ⟨hud, notify⟩, selector⟩ := same
  have hud : first.hud = second.hud := hudFields_determine _ _ (List.forall_mem_cons.mpr ⟨keys,
    List.forall_mem_cons.mpr ⟨tags, fun field among => hud _ (List.mem_map_of_mem among)⟩⟩)
  have notify := Field.part_eq notifyFields_determine notify
  have selector := Field.part_eq selectorFields_determine selector
  cases first
  cases second
  simp_all

end Determine

section Sizes

/-- Whether a size that is given or else is the font size in effect is the one of a base. -/
def SizeKept (raw : RawHud) (base : Hud) (given : Option F32) (size : F32) : Prop :=
  given = none → raw.fontSize.getD base.fontSize = size

/-- Whether the HUD section of an overlay, if there is one, keeps the sizes of keys and tags it does
not give. -/
def SizesKept (base : Style) (overlay : RawStyle) : Prop :=
  ∀ raw ∈ overlay.hud, SizeKept raw base.hud raw.keyFontSize base.hud.keyFontSize ∧
    SizeKept raw base.hud raw.tagFontSize base.hud.tagFontSize

variable {given : RawHud → Option F32} {size : Hud → F32}
  (sized : ∀ raw base, size (raw.intoHudOver parseRgb base) =
    (given raw).getD (raw.fontSize.getD base.fontSize))

/-- A style without an HUD overlay keeps its HUD. -/
theorem overlayRaw_hud_none {base : Style} {overlay : RawStyle} (absent : overlay.hud = none) :
    (overlayRaw parseRgb base overlay).hud = base.hud := by
  simp [overlayRaw, absent]

/-- A style with an HUD overlay has it over its HUD. -/
theorem overlayRaw_hud_some {base : Style} {overlay : RawStyle} {raw : RawHud}
    (present : overlay.hud = some raw) :
    (overlayRaw parseRgb base overlay).hud = raw.intoHudOver parseRgb base.hud := by
  simp [overlayRaw, present]

include sized in
/-- A size that is given is taken. -/
theorem sized_takes (base : Style) (overlay : RawStyle) :
    (inHud (plainField given size)).Takes overlay (overlayRaw parseRgb base overlay) := by
  -- An overlay that gives the size has a HUD section, in which the size is what it gives.
  refine Field.within_takes rfl fun raw value gives => ?_
  have taken : given raw = some value := gives
  show size (raw.intoHudOver parseRgb base.hud) = value
  rw [sized, taken]
  rfl

include sized in
/-- A size is inherited just if it is kept. -/
theorem sized_inherits (base : Style) (overlay : RawStyle) :
    (inHud (plainField given size)).Inherits overlay base (overlayRaw parseRgb base overlay) ↔
      ∀ raw ∈ overlay.hud, SizeKept raw base.hud (given raw) (size base.hud) := by
  -- Without a HUD section the base's size stays; with one it falls back to the font size in effect.
  show size (overlayRaw parseRgb base overlay).hud =
    (overlay.hud.bind given).getD (size base.hud) ↔ _
  cases present : overlay.hud with
  | none => simp [overlayRaw_hud_none present]
  | some raw =>
    rw [overlayRaw_hud_some present, sized, Option.bind_some]
    cases gives : given raw <;> simp [SizeKept, gives]

end Sizes

section Merge

variable (parseRgb) in
/-- The color of the second text if it parses, and else that of the first. -/
def mergeColor (first second : Option String) : Option String :=
  if (second.bind parseRgb).isSome then second else first

variable (parseRgb) in
/-- Overrides of the style of one kind of notification, from the second where it gives them. -/
def RawNotifyStyle.merge (first second : RawNotifyStyle) : RawNotifyStyle where
  bg := mergeColor parseRgb first.bg second.bg
  titleFg := mergeColor parseRgb first.titleFg second.titleFg
  bodyFg := mergeColor parseRgb first.bodyFg second.bodyFg
  titleFontSize := second.titleFontSize.or first.titleFontSize
  titleFontWeight := second.titleFontWeight.or first.titleFontWeight
  bodyFontSize := second.bodyFontSize.or first.bodyFontSize
  bodyFontWeight := second.bodyFontWeight.or first.bodyFontWeight
  icon := second.icon.or first.icon

variable (parseRgb) in
/-- Overrides of the notification section, from the second where it gives them. -/
def RawNotify.merge (first second : RawNotify) : RawNotify where
  width := second.width.or first.width
  pos := second.pos.or first.pos
  opacity := second.opacity.or first.opacity
  timeout := second.timeout.or first.timeout
  buffer := second.buffer.or first.buffer
  radius := second.radius.or first.radius
  info := Field.mergePart (RawNotifyStyle.merge parseRgb) first.info second.info
  warn := Field.mergePart (RawNotifyStyle.merge parseRgb) first.warn second.warn
  error := Field.mergePart (RawNotifyStyle.merge parseRgb) first.error second.error
  success := Field.mergePart (RawNotifyStyle.merge parseRgb) first.success second.success

variable (parseRgb) in
/-- Overrides of the style of a pressed row, from the second where it gives them. -/
def RawHudPressed.merge (first second : RawHudPressed) : RawHudPressed where
  minDurationMs := second.minDurationMs.or first.minDurationMs
  bg := mergeColor parseRgb first.bg second.bg
  titleFg := mergeColor parseRgb first.titleFg second.titleFg
  keyFg := mergeColor parseRgb first.keyFg second.keyFg
  keyBg := mergeColor parseRgb first.keyBg second.keyBg
  modFg := mergeColor parseRgb first.modFg second.modFg
  modBg := mergeColor parseRgb first.modBg second.modBg
  tagFg := mergeColor parseRgb first.tagFg second.tagFg

variable (parseRgb) in
/-- Overrides of the HUD section, from the second where it gives them. -/
def RawHud.merge (first second : RawHud) : RawHud where
  mode := second.mode.or first.mode
  pos := second.pos.or first.pos
  offset := second.offset.or first.offset
  fontSize := second.fontSize.or first.fontSize
  titleFontWeight := second.titleFontWeight.or first.titleFontWeight
  keyFontSize := second.keyFontSize.or first.keyFontSize
  keyFontWeight := second.keyFontWeight.or first.keyFontWeight
  tagFontSize := second.tagFontSize.or first.tagFontSize
  tagFontWeight := second.tagFontWeight.or first.tagFontWeight
  titleFg := mergeColor parseRgb first.titleFg second.titleFg
  bg := mergeColor parseRgb first.bg second.bg
  keyFg := mergeColor parseRgb first.keyFg second.keyFg
  keyBg := mergeColor parseRgb first.keyBg second.keyBg
  modFg := mergeColor parseRgb first.modFg second.modFg
  modFontWeight := second.modFontWeight.or first.modFontWeight
  modBg := mergeColor parseRgb first.modBg second.modBg
  tagFg := mergeColor parseRgb first.tagFg second.tagFg
  opacity := second.opacity.or first.opacity
  keyRadius := second.keyRadius.or first.keyRadius
  keyPadX := second.keyPadX.or first.keyPadX
  keyPadY := second.keyPadY.or first.keyPadY
  radius := second.radius.or first.radius
  tagSubmenu := second.tagSubmenu.or first.tagSubmenu
  pressed := Field.mergePart (RawHudPressed.merge parseRgb) first.pressed second.pressed

variable (parseRgb) in
/-- Overrides of the selector section, from the second where it gives them. -/
def RawSelector.merge (first second : RawSelector) : RawSelector where
  bg := mergeColor parseRgb first.bg second.bg
  inputBg := mergeColor parseRgb first.inputBg second.inputBg
  itemBg := mergeColor parseRgb first.itemBg second.itemBg
  itemSelectedBg := mergeColor parseRgb first.itemSelectedBg second.itemSelectedBg
  matchFg := mergeColor parseRgb first.matchFg second.matchFg
  border := mergeColor parseRgb first.border second.border
  shadow := mergeColor parseRgb first.shadow second.shadow

variable (parseRgb) in
/-- One overlay that has each field from the second where it gives it, and else from the first. -/
def RawStyle.merge (first second : RawStyle) : RawStyle where
  hud := Field.mergePart (RawHud.merge parseRgb) first.hud second.hud
  notify := Field.mergePart (RawNotify.merge parseRgb) first.notify second.notify
  selector := Field.mergePart (RawSelector.merge parseRgb) first.selector second.selector

/-- A merged color is what either gives. -/
theorem mergeColor_bind (first second : Option String) :
    (mergeColor parseRgb first second).bind parseRgb =
      (second.bind parseRgb).or (first.bind parseRgb) := by
  unfold mergeColor
  cases parsed : second.bind parseRgb <;> simp [parsed]

/-- Merging merges every field of the style of one kind of notification. -/
theorem notifyStyle_merges :
    ∀ field ∈ notifyStyleFields parseRgb, Field.Merges (RawNotifyStyle.merge parseRgb) field := by
  simp only [notifyStyleFields, List.forall_mem_cons, Field.Merges, plainField, colorField,
    RawNotifyStyle.merge, mergeColor_bind]
  simp [Option.map_or]

/-- Merging merges every field of the style of a pressed row. -/
theorem pressed_merges :
    ∀ field ∈ pressedFields parseRgb, Field.Merges (RawHudPressed.merge parseRgb) field := by
  simp [pressedFields, Field.Merges, plainField, colorField, RawHudPressed.merge, mergeColor_bind]

/-- Merging merges every field of the selector section. -/
theorem selector_merges :
    ∀ field ∈ selectorFields parseRgb, Field.Merges (RawSelector.merge parseRgb) field := by
  simp [selectorFields, Field.Merges, colorField, RawSelector.merge, mergeColor_bind]

/-- Merging merges every field of the notification section. -/
theorem notify_merges :
    ∀ field ∈ notifyFields parseRgb, Field.Merges (RawNotify.merge parseRgb) field := by
  simp only [notifyFields, List.forall_mem_append]
  refine ⟨⟨⟨⟨?_, ?_⟩, ?_⟩, ?_⟩, ?_⟩
  · simp [Field.Merges, plainField, RawNotify.merge]
  all_goals
    exact Field.within_merges (fun _ _ => rfl) notifyStyle_merges

/-- Merging merges every field of the HUD section. -/
theorem hud_merges : ∀ field ∈ keySize :: tagSize :: hudFields parseRgb,
    Field.Merges (RawHud.merge parseRgb) field := by
  simp only [hudFields, List.forall_mem_cons, List.forall_mem_append]
  refine ⟨fun _ _ => rfl, fun _ _ => rfl, ?_, ?_⟩
  · simp [Field.Merges, plainField, colorField, RawHud.merge, mergeColor_bind]
  · exact Field.within_merges (fun _ _ => rfl) pressed_merges

/-- A merged overlay gives every field as the second gives it, and else as the first does. -/
theorem style_merges :
    ∀ field ∈ styleFields parseRgb, Field.Merges (RawStyle.merge parseRgb) field := by
  -- Merging acts section by section, and a section that only one overlay has is that overlay's.
  have hud : ∀ field ∈ (keySize :: tagSize :: hudFields parseRgb).map inHud,
      Field.Merges (RawStyle.merge parseRgb) field :=
    Field.within_merges (fun _ _ => rfl) hud_merges
  simp only [styleFields, inheritedFields, List.map_cons, List.forall_mem_cons,
    List.forall_mem_append] at hud ⊢
  refine ⟨hud.1, hud.2.1, ⟨hud.2.2, ?_⟩, ?_⟩
  · exact Field.within_merges (fun _ _ => rfl) notify_merges
  · exact Field.within_merges (fun _ _ => rfl) selector_merges

end Merge

section Compose

/-- Whether a size that only the first of two overlays gives is the font size in effect under
both. -/
def SizeComposes (base : Hud) (first second : RawHud) (given : RawHud → Option F32) : Prop :=
  given second = none → ∀ size ∈ given first,
    size = second.fontSize.getD (first.fontSize.getD base.fontSize)

/-- Whether two overlays with HUD sections give such sizes of keys and tags. -/
def SizesCompose (base : Style) (first second : RawStyle) : Prop :=
  ∀ raw ∈ first.hud, ∀ other ∈ second.hud,
    SizeComposes base.hud raw other RawHud.keyFontSize ∧
      SizeComposes base.hud raw other RawHud.tagFontSize

variable {given : RawHud → Option F32} {size : Hud → F32}
  (sized : ∀ raw base, size (raw.intoHudOver parseRgb base) =
    (given raw).getD (raw.fontSize.getD base.fontSize))
  (merges : ∀ first second : RawHud,
    given (first.merge parseRgb second) = (given second).or (given first))

include sized merges in
/-- A size under two overlays in turn is that under their merge just if it composes. -/
theorem sized_compose (base : Style) (first second : RawStyle) :
    size (overlayRaw parseRgb (overlayRaw parseRgb base first) second).hud =
        size (overlayRaw parseRgb base (first.merge parseRgb second)).hud ↔
      ∀ raw ∈ first.hud, ∀ other ∈ second.hud, SizeComposes base.hud raw other given := by
  -- The cases are which of the two overlays have a HUD section, and which of them gives the size.
  cases present : first.hud with
  | none =>
    have merged : (first.merge parseRgb second).hud = second.hud := by
      cases also : second.hud <;> simp [RawStyle.merge, Field.mergePart, present, also]
    cases also : second.hud with
    | none => simp [overlayRaw, merged, present, also]
    -- Only the first overlay's size can be lost, in falling back to the second's font size.
    | some other => simp [overlayRaw, merged, present, also]
  | some raw =>
    cases also : second.hud with
    | none => simp [overlayRaw, RawStyle.merge, Field.mergePart, present, also]
    | some other =>
      simp only [overlayRaw, RawStyle.merge, Field.mergePart, present, also, Option.elim, sized,
        merges]
      have font : (raw.merge parseRgb other).fontSize = other.fontSize.or raw.fontSize := rfl
      have inEffect : (raw.intoHudOver parseRgb base.hud).fontSize =
        raw.fontSize.getD base.hud.fontSize := rfl
      rw [font, inEffect]
      cases gives : given other with
      | some value => simp [SizeComposes, gives]
      | none =>
        cases had : given raw with
        | none => cases other.fontSize <;> simp [SizeComposes, had]
        | some value =>
          cases effect : other.fontSize <;>
          simp [SizeComposes, gives, had, effect] <;> exact eq_comm

end Compose

variable (parseRgb) in
/-- Every field is inherited just if the sizes are kept. -/
theorem overlayRaw_inherits_iff (base : Style) (overlay : RawStyle) :
    (∀ field ∈ styleFields parseRgb,
      field.Inherits overlay base (overlayRaw parseRgb base overlay)) ↔ SizesKept base overlay := by
  -- All other fields always inherit, so only the two sizes decide.
  have keys := sized_inherits (fun _ _ => rfl : ∀ raw base,
    (RawHud.intoHudOver parseRgb raw base).keyFontSize = _) base overlay
  have tags := sized_inherits (fun _ _ => rfl : ∀ raw base,
    (RawHud.intoHudOver parseRgb raw base).tagFontSize = _) base overlay
  simp only [styleFields, List.forall_mem_cons]
  constructor
  · intro ⟨key, tag, _⟩ raw present
    exact ⟨keys.mp key raw present, tags.mp tag raw present⟩
  · intro kept
    exact ⟨keys.mpr fun raw present => (kept raw present).1,
      tags.mpr fun raw present => (kept raw present).2, overlayRaw_inherits base overlay⟩

/-- Every field that is given is taken. -/
theorem overlayRaw_takes (base : Style) (overlay : RawStyle) :
    ∀ field ∈ styleFields parseRgb, field.Takes overlay (overlayRaw parseRgb base overlay) := by
  simp only [styleFields, List.forall_mem_cons]
  refine ⟨?_, ?_, fun field among => (overlayRaw_inherits base overlay field among).takes⟩
  · exact sized_takes (fun _ _ => rfl) base overlay
  · exact sized_takes (fun _ _ => rfl) base overlay

variable (parseRgb) in
/-- The sizes are kept by an overlay that was applied already. -/
theorem overlayRaw_keeps_sizes (base : Style) (overlay : RawStyle) :
    SizesKept (overlayRaw parseRgb base overlay) overlay := by
  intro raw present
  rw [overlayRaw_hud_some present]
  -- A size that is not given was set to the font size in effect, which stays in effect.
  have font : raw.fontSize.getD (raw.intoHudOver parseRgb base.hud).fontSize =
      raw.fontSize.getD base.hud.fontSize := by
    show raw.fontSize.getD (raw.fontSize.getD _) = _
    cases raw.fontSize <;> rfl
  refine ⟨fun omitted => font.trans ?_, fun omitted => font.trans ?_⟩
  · simp [RawHud.intoHudOver, omitted]
  · simp [RawHud.intoHudOver, omitted]

/--
What an overlay makes of a style, field by field.

Every field is taken from the overlay where it gives a valid value and kept from the base elsewhere,
but for the sizes of keys and tags: an HUD section that does not give them sets them to the font size
in effect. So an overlay that gives nothing is the identity, and overlaying two in turn is overlaying
one that takes each field from the second where it gives it, just if these sizes happen to be kept,
while overlaying twice is always overlaying once.
-/
theorem style_overlaid (parseRgb : String → Option Rgb) (base : Style) (overlay : RawStyle) :
    ((∀ field ∈ styleFields parseRgb,
        field.Takes overlay (overlayRaw parseRgb base overlay) ∧
          (field.given overlay = none →
            field.value (overlayRaw parseRgb base overlay) = field.value base)) ↔
      SizesKept base overlay) ∧
    overlayRaw parseRgb (overlayRaw parseRgb base overlay) overlay =
      overlayRaw parseRgb base overlay ∧
    ((∀ field ∈ styleFields parseRgb, field.given overlay = none) →
      (overlayRaw parseRgb base overlay = base ↔ SizesKept base overlay)) ∧
    ∀ second, overlayRaw parseRgb (overlayRaw parseRgb base overlay) second =
        overlayRaw parseRgb base (overlay.merge parseRgb second) ↔
      SizesCompose base overlay second := by
  have determine : Field.Determine (styleFields parseRgb) := styleFields_determine
  refine ⟨?_, ?_, ?_, ?_⟩
  · rw [← overlayRaw_inherits_iff parseRgb]
    exact forall₂_congr fun field _ => Field.inherits_iff.symm
  · refine determine _ _ fun field among => ?_
    have kept := overlayRaw_keeps_sizes parseRgb base overlay
    have again := (overlayRaw_inherits_iff parseRgb _ overlay).mpr kept
    exact Field.Inherits.again (overlayRaw_takes base overlay field among) (again field among)
  -- Where every listed field is left out, staying the same is inheriting every one of them.
  · intro omitted
    rw [← overlayRaw_inherits_iff parseRgb]
    constructor
    · intro same field among
      rw [Field.inherits_of_omitted (omitted field among), same]
    · intro inherits
      refine determine _ _ fun field among => ?_
      exact (Field.inherits_of_omitted (omitted field among)).mp (inherits field among)
  -- Two overlays in turn and their merge may differ in the two sizes only.
  · intro second
    have keys := sized_compose (fun _ _ => rfl : ∀ raw base,
      (RawHud.intoHudOver parseRgb raw base).keyFontSize = _) (fun _ _ => rfl) base overlay second
    have tags := sized_compose (fun _ _ => rfl : ∀ raw base,
      (RawHud.intoHudOver parseRgb raw base).tagFontSize = _) (fun _ _ => rfl) base overlay second
    constructor
    · intro same raw present other also
      have key := keys.mp (congrArg (fun style => style.hud.keyFontSize) same)
      have tag := tags.mp (congrArg (fun style => style.hud.tagFontSize) same)
      exact ⟨key raw present other also, tag raw present other also⟩
    · intro composes
      apply determine
      rw [styleFields, List.forall_mem_cons, List.forall_mem_cons]
      refine ⟨?_, ?_, fun field among => ?_⟩
      · exact keys.mpr fun raw present other also => (composes raw present other also).1
      · exact tags.mpr fun raw present other also => (composes raw present other also).2
      · have listed : field ∈ styleFields parseRgb :=
          List.mem_cons_of_mem _ (List.mem_cons_of_mem _ among)
        exact Field.Inherits.compose (overlayRaw_inherits base overlay field among)
          (overlayRaw_inherits _ second field among) (overlayRaw_inherits base _ field among)
          (style_merges field listed overlay second)

/-- An overlay with an empty HUD section. -/
private def emptyHud : RawStyle := { hud := some {} }

/-- An overlay that gives the size of the keys. -/
private def sizedKeys : RawStyle := { hud := some { keyFontSize := some ⟨0x41c00000⟩ } }

/-- An overlay that gives the radius of the HUD. -/
private def roundedHud : RawStyle := { hud := some { radius := some ⟨0x41400000⟩ } }

/-- Whether an overlay is accepted. -/
private def isValid (overlay : RawStyle) : Bool := overlay.validate.toBool

/-- A parser that knows no colors, as these overlays give none. -/
private def noColors (_ : String) : Option Rgb := none

/--
Overlays do not always inherit.

Over the default style, a valid overlay with an empty HUD section shrinks the keys. An overlay that
gives the size of the keys loses it to one that gives only the radius, though one overlay that gives
both would not.
-/
theorem style_overlaid_broken :
    (isValid emptyHud ∧ (∀ field ∈ styleFields noColors, field.given emptyHud = none) ∧
      overlayRaw noColors .default emptyHud ≠ .default) ∧
    isValid sizedKeys ∧ isValid roundedHud ∧
      overlayRaw noColors (overlayRaw noColors .default sizedKeys) roundedHud ≠
        overlayRaw noColors .default (sizedKeys.merge noColors roundedHud) := by
  -- What each overlay leaves out in its HUD section is what is lost.
  refine ⟨⟨by decide, ?_, fun same => ?_⟩, by decide, by decide, fun same => ?_⟩
  · simp [styleFields, inheritedFields, hudFields, notifyFields, selectorFields, pressedFields,
      notifyStyleFields, inHud, keySize, tagSize, Field.within, plainField, colorField, emptyHud]
  · have shrunk := congrArg (fun style => style.hud.keyFontSize) same
    revert shrunk
    decide +kernel
  · have lost := congrArg (fun style => style.hud.keyFontSize) same
    revert lost
    decide +kernel

end Hotki.Config

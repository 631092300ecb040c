import Hotki.Base.FirstOccurrence
import Hotki.Base.HashMap
import Hotki.Base.Text
import Hotki.Script.Types

/-! Rendering the mode stack: every frame is rendered, empty and orphaned frames are dropped. -/

namespace Hotki

open Base

/-- A loaded configuration: its root mode, its style, its runtime and its sources. -/
structure LoadedConfig (T : Externals) where
  root : ModeRef
  baseStyle : T.Style
  vm : T.Vm
  path : Option String
  /-- Cached source text for excerpts. -/
  sources : HashMap String String

/-- What the engine asks of the script runtime, which answers errors as printed diagnostics. -/
structure ScriptHost (T : Externals) where
  /-- Calls a renderer: the bindings it declares, and whether it asks for capture. -/
  callRenderer : T.Vm → CallbackRef → ModeCtx → Except String (List Binding × Bool) × T.Vm
  /-- Calls a handler under a repeat permission. -/
  callHandler : T.Vm → CallbackRef → ModeCtx → ActionRepeatPermission →
    Except String HandlerResult × T.Vm
  /-- Calls a selection handler with the chosen item and the query. -/
  callSelection : T.Vm → CallbackRef → ModeCtx → SelectorItem → String →
    Except String HandlerResult × T.Vm
  /-- Calls an item provider. -/
  callProvider : T.Vm → CallbackRef → ModeCtx → Except String (List SelectorItem) × T.Vm
  /-- Promotes new callbacks and releases dropped ones. -/
  synchronizeCallbacks : T.Vm → Except String Unit × T.Vm

namespace Script

/-- The lines of a text, without their terminators. -/
def lines (text : String) : List String :=
  (textLines text.toList).map String.ofList

/-- A number padded on the left to four columns. -/
def paddedLine (number : Nat) : String :=
  let digits := toString number
  String.ofList (List.replicate (4 - digits.length) ' ') ++ digits

/-- A small excerpt of a source with a caret at a position. -/
def excerptAt (source : String) (lineNo colNo : Nat) : String :=
  let all := lines source
  let first := max 1 (lineNo - 2)
  let last := min all.length (lineNo + 1)
  let shown := (List.range' first (last + 1 - first)).map fun number =>
    let content := all[number - 1]?.getD ""
    let text := s!" {paddedLine number} | {content}\n"
    if number = lineNo then
      let margin := s!" {paddedLine number} | ".length
      text ++ String.ofList (List.replicate (margin + (colNo - 1)) ' ') ++ "^\n"
    else text
  String.join shown

/-- The excerpt for a binding's position when its source is cached. -/
def excerptFor {T : Externals} (cfg : LoadedConfig T) (pos : SourcePos) : Option String := do
  let path ← pos.path
  let line ← pos.line
  let source ← cfg.sources.lookup path
  return excerptAt source line (pos.col.getD 1)

/-- A source position as warnings print it. -/
def locationString (pos : SourcePos) : String :=
  match pos.path, pos.line, pos.col with
  | some path, some line, some col => s!"{path}:{line}:{col}"
  | some path, some line, none => s!"{path}:{line}"
  | some path, none, _ => path
  | none, some line, some col => s!"line {line} col {col}"
  | none, some line, none => s!"line {line}"
  | none, none, _ => "unknown location"

/-- The warning about a binding whose chord an earlier one already has. -/
def duplicateWarning {T : Externals} (cfg : LoadedConfig T) (binding : Binding) : Effect :=
  let loc := (binding.pos.map locationString).getD "unknown location"
  let body := s!"Duplicate chord '{binding.chord.display}' ignored at {loc}."
  .notify .warn "Config" <|
    match binding.pos.bind (excerptFor cfg) with
    | some excerpt => body ++ "\n" ++ excerpt
    | none => body

/-- The printed chord a binding is deduplicated by. -/
def chordText (binding : Binding) : String := binding.chord.display

/-- Keeps the first binding for each chord and warns about the others. -/
def dedupModeBindings {T : Externals} (cfg : LoadedConfig T) (bindings : List Binding) :
    List Binding × List Effect :=
  (firsts chordText bindings, (repeats chordText bindings).map (duplicateWarning cfg))

/-- The rendered output of one mode before the stack is flattened. -/
structure ModeView where
  bindings : List Binding
  capture : Bool

variable {T : Externals} (host : ScriptHost T)

/-- Promotes and releases callbacks of a configuration. -/
def synchronizeCallbacks (cfg : LoadedConfig T) : Except String Unit × LoadedConfig T :=
  let (result, vm) := host.synchronizeCallbacks cfg.vm
  (result, { cfg with vm })

/-- Renders one mode frame and collects the warnings about duplicate chords. -/
def renderMode (cfg : LoadedConfig T) (frame : ModeFrame) (ctx : ModeCtx) :
    Except String (ModeView × List Effect) × LoadedConfig T :=
  match host.callRenderer cfg.vm frame.closure.func ctx with
  | (.error error, vm) => (.error error, { cfg with vm })
  | (.ok (emitted, called), vm) =>
    match synchronizeCallbacks host { cfg with vm } with
    | (.error error, cfg) => (.error error, cfg)
    | (.ok (), cfg) =>
      let (bindings, warnings) := dedupModeBindings cfg emitted
      -- The builder starts from the frame's own capture flag and can only turn it on.
      (.ok (⟨bindings, frame.capture || called⟩, warnings), cfg)

/-- A frame with the output of its render. -/
def withView (frame : ModeFrame) (view : ModeView) : ModeFrame :=
  { frame with rendered := view.bindings, capture := view.capture }

/-- Whether a frame's bindings hold a mode entry with a chord and mode identity. -/
def entryExists (parent : ModeFrame) (entered : Chord × ModeId) : Bool :=
  parent.rendered.any fun binding =>
    decide (binding.chord = entered.1) && binding.kind.isMode &&
      decide (binding.modeId = some entered.2)

/-- Whether the entry a frame was entered through is missing from its rendered parent. -/
def orphaned (parent child : ModeFrame) : Bool :=
  match child.enteredVia with
  | none => false
  | some entered => !entryExists parent entered

/-- Renders the remaining frames above those already rendered, until one of them is dropped. -/
def renderFrames (ctx : ModeCtx) (cfg : LoadedConfig T) (warnings : List Effect)
    (below : List ModeFrame) :
    List ModeFrame → Except String (List Effect) × List ModeFrame × LoadedConfig T
  | [] => (.ok warnings, below, cfg)
  | frame :: above =>
    match renderMode host cfg frame ctx with
    -- A failed render leaves the frames below updated and the rest as they were.
    | (.error error, cfg) => (.error error, below ++ frame :: above, cfg)
    | (.ok (view, local_), cfg) =>
      let warnings := warnings ++ local_
      let frame := withView frame view
      if frame.rendered.isEmpty && !below.isEmpty then (.ok warnings, below, cfg)
      else
        match above with
        | [] => (.ok warnings, below ++ [frame], cfg)
        | child :: rest =>
          if orphaned frame child then (.ok warnings, below ++ [frame], cfg)
          else renderFrames ctx cfg warnings (below ++ [frame]) (child :: rest)

/-- Flattens local and inherited bindings into dispatch order. -/
def flattenBindings (stack : List ModeFrame) : List (Chord × Binding) :=
  match stack.getLast? with
  | none => []
  | some top =>
    let inherited := stack.dropLast.reverse.flatMap fun frame =>
      frame.rendered.filter fun binding => binding.flags.isGlobal
    (firsts chordText (top.rendered ++ inherited)).map fun binding => (binding.chord, binding)

/-- The HUD row of a binding. -/
def hudRow (entry : Chord × Binding) : HudRow :=
  ⟨entry.1, entry.2.desc, entry.2.kind.isMode, entry.2.flags.stay⟩

/-- Builds the visible HUD rows from the flattened bindings. -/
def buildHudRows (bindings : List (Chord × Binding)) : List HudRow :=
  (bindings.filter fun entry => !entry.2.flags.hidden).map hudRow

/-- The rendered state of a stack of rendered frames. -/
def renderedState (style : T.Style) (stack : List ModeFrame) : RenderedState T where
  bindings := flattenBindings stack
  hudRows := buildHudRows (flattenBindings stack)
  style := style
  capture := (stack.getLast?.map ModeFrame.capture).getD false

/-- Renders the full stack, applying truncation and producing HUD rows. -/
def renderStackInner (cfg : LoadedConfig T) (stack : List ModeFrame) (ctx : ModeCtx) :
    Except String (RenderedState T × List Effect) × List ModeFrame × LoadedConfig T :=
  match renderFrames host ctx cfg [] [] stack with
  | (.error error, stack, cfg) => (.error error, stack, cfg)
  | (.ok warnings, stack, cfg) =>
    (.ok (renderedState cfg.baseStyle stack, warnings), stack, cfg)

/-- Renders the stack and then settles the runtime's callbacks. -/
def renderStack (cfg : LoadedConfig T) (stack : List ModeFrame) (ctx : ModeCtx) :
    Except String (RenderedState T × List Effect) × List ModeFrame × LoadedConfig T :=
  match renderStackInner host cfg stack ctx with
  | (result, stack, cfg) =>
    match synchronizeCallbacks host cfg with
    | (.error error, cfg) => (result.bind fun _ => .error error, stack, cfg)
    | (.ok (), cfg) => (result, stack, cfg)

/-- Resolves a chord against the flattened rendered bindings. -/
def resolveBinding (state : RenderedState T) (chord : Chord) : Option Binding :=
  (state.bindings.find? fun entry => decide (entry.1 = chord)).map Prod.snd

end Script

end Hotki

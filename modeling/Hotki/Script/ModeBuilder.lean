import Hotki.Keycode.Parse
import Hotki.Script.Types

/-! The menu builder: what a renderer declares, through views that inherit binding options. -/

namespace Hotki

namespace Script

/-- Common binding options, each of which may be left open. -/
structure BindingOptionsSpec where
  hidden : Option Bool := none
  isGlobal : Option Bool := none
  stay : Option Bool := none
  deriving DecidableEq

/-- Overlays explicit fields on inherited binding defaults. -/
def BindingOptionsSpec.mergedWith (options : BindingOptionsSpec)
    (explicit : Option BindingOptionsSpec) : BindingOptionsSpec where
  hidden := (explicit.bind BindingOptionsSpec.hidden).or options.hidden
  isGlobal := (explicit.bind BindingOptionsSpec.isGlobal).or options.isGlobal
  stay := (explicit.bind BindingOptionsSpec.stay).or options.stay

/-- Submenu-specific binding options. -/
structure SubmenuOptionsSpec where
  binding : BindingOptionsSpec := {}
  /-- Whether entering the submenu enables capture-all behavior. -/
  capture : Option Bool := none
  deriving DecidableEq

/-- Parses a hotkey chord. -/
def parseChord (spec : String) : Except String Chord :=
  match Chord.parse spec with
  | some chord => .ok chord
  | none => .error ("invalid chord string: " ++ spec)

/-- Applies parsed binding options to a binding. -/
def applyBindingOptions (binding : Binding) (options : Option BindingOptionsSpec) : Binding :=
  match options with
  | none => binding
  | some options =>
    { binding with
      flags := ⟨options.hidden.getD false, options.isGlobal.getD false, options.stay.getD false⟩ }

/-- The binding of a handler. -/
def bindingFromHandler (chord desc : String) (action : HandlerRef) (defaults : BindingOptionsSpec)
    (options : Option BindingOptionsSpec) (pos : Option SourcePos) : Except String Binding := do
  let chord ← parseChord chord
  let binding : Binding := ⟨chord, desc, .handler action, none, {}, false, pos⟩
  return applyBindingOptions binding (some (defaults.mergedWith options))

/-- The binding of a submenu. -/
def bindingFromMode (chord title : String) (id : ModeId) (render : CallbackRef)
    (defaults : BindingOptionsSpec) (options : Option SubmenuOptionsSpec)
    (pos : Option SourcePos) : Except String Binding := do
  let chord ← parseChord chord
  let mode : ModeRef := ⟨id, render, some title⟩
  let binding : Binding := ⟨chord, title, .mode mode, some id, {}, false, pos⟩
  let explicit := options.map SubmenuOptionsSpec.binding
  let binding := applyBindingOptions binding (some (defaults.mergedWith explicit))
  return { binding with modeCapture := (options.bind SubmenuOptionsSpec.capture).getD false }

/-- A call of a method of a menu, with its decoded arguments. -/
inductive MenuCall where
  | bind (chord desc : String) (action : HandlerRef) (options : Option BindingOptionsSpec)
  | submenu (chord title : String) (id : ModeId) (render : CallbackRef)
      (options : Option SubmenuOptionsSpec)
  /-- The method `with`, which answers a new view. -/
  | derive (defaults : BindingOptionsSpec)
  | capture
  /-- A call whose arguments are rejected. -/
  | malformed (error : String)
  deriving DecidableEq

/-- A call made on a view, from some place of the script. -/
structure MenuStep where
  view : Nat
  call : MenuCall
  pos : Option SourcePos := none
  deriving DecidableEq

/-- A menu builder with all its views, the first of which is the builder itself. -/
structure ModeBuilder where
  bindings : List Binding := []
  capture : Bool
  /-- Binding defaults of every view. -/
  views : List BindingOptionsSpec := [{}]

namespace ModeBuilder

/-- A mode builder seeded with inherited capture state. -/
def newForRender (capture : Bool) : ModeBuilder := { capture }

/-- Finishes the builder with its bindings and capture flag. -/
def finish (builder : ModeBuilder) : List Binding × Bool := (builder.bindings, builder.capture)

/-- Adds a binding, unless it could not be made. -/
def declare (builder : ModeBuilder) :
    Except String Binding → ModeBuilder × Except String (Option Nat)
  | .ok binding => ({ builder with bindings := builder.bindings ++ [binding] }, .ok none)
  | .error error => (builder, .error error)

/-- Makes a call on a view with some defaults; what is answered is an error or perhaps a view. -/
def perform (builder : ModeBuilder) (defaults : BindingOptionsSpec) (pos : Option SourcePos) :
    MenuCall → ModeBuilder × Except String (Option Nat)
  | .bind chord desc action options =>
    builder.declare (bindingFromHandler chord desc action defaults options pos)
  | .submenu chord title id render options =>
    builder.declare (bindingFromMode chord title id render defaults options pos)
  | .derive explicit =>
    ({ builder with views := builder.views ++ [defaults.mergedWith (some explicit)] },
      .ok (some builder.views.length))
  | .capture => ({ builder with capture := true }, .ok none)
  | .malformed error => (builder, .error error)

/-- Makes a call on one of the views there are. -/
def step (builder : ModeBuilder) (menu : MenuStep) :
    Option (ModeBuilder × Except String (Option Nat)) :=
  builder.views[menu.view]?.map fun defaults => builder.perform defaults menu.pos menu.call

/-- A call with its answer. -/
abbrev Label := MenuStep × Except String (Option Nat)

/-- A call takes one builder to the next. -/
def Steps (builder : ModeBuilder) (label : Label) (next : ModeBuilder) : Prop :=
  builder.step label.1 = some (next, label.2)

end ModeBuilder

end Script

end Hotki

import Hotki.Base.Run
import Hotki.Script.ModeBuilder

/-! Binding options of a menu are scoped: the nearest view that sets one decides. -/

namespace Hotki

open Base

namespace Script

/-- Options agree with a chain of settings, the nearest of which decides each field. -/
structure BindingOptionsSpec.Represents (options : BindingOptionsSpec)
    (chain : List BindingOptionsSpec) : Prop where
  hidden : options.hidden = chain.findSome? BindingOptionsSpec.hidden
  isGlobal : options.isGlobal = chain.findSome? BindingOptionsSpec.isGlobal
  stay : options.stay = chain.findSome? BindingOptionsSpec.stay

/-- The flags that a chain of settings leaves a binding; what nothing sets is off. -/
def flagsOf (chain : List BindingOptionsSpec) : BindingFlags where
  hidden := (chain.findSome? BindingOptionsSpec.hidden).getD false
  isGlobal := (chain.findSome? BindingOptionsSpec.isGlobal).getD false
  stay := (chain.findSome? BindingOptionsSpec.stay).getD false

/-- A setting in front of a chain is the nearest one. -/
theorem findSome?_explicit {Setting Value : Type} (explicit : Option Setting)
    (chain : List Setting) (field : Setting → Option Value) :
    (explicit.toList ++ chain).findSome? field =
      (explicit.bind field).or (chain.findSome? field) := by
  cases explicit with
  | none => rfl
  | some setting => cases found : field setting <;> simp [found]

/-- Merging puts the explicit settings in front. -/
theorem BindingOptionsSpec.Represents.mergedWith {options : BindingOptionsSpec}
    {chain : List BindingOptionsSpec} (represents : options.Represents chain)
    (explicit : Option BindingOptionsSpec) :
    (options.mergedWith explicit).Represents (explicit.toList ++ chain) where
  hidden := by rw [findSome?_explicit, ← represents.hidden]; rfl
  isGlobal := by rw [findSome?_explicit, ← represents.isGlobal]; rfl
  stay := by rw [findSome?_explicit, ← represents.stay]; rfl

/-- Options give a binding the flags of their chain. -/
theorem BindingOptionsSpec.Represents.flags {options : BindingOptionsSpec}
    {chain : List BindingOptionsSpec} (represents : options.Represents chain) (binding : Binding) :
    applyBindingOptions binding (some options) = { binding with flags := flagsOf chain } := by
  simp only [applyBindingOptions, flagsOf, represents.hidden, represents.isGlobal, represents.stay]

/-- The binding of a handler has the flags of its own options and those in scope. -/
theorem bindingFromHandler_eq {defaults : BindingOptionsSpec} {chain : List BindingOptionsSpec}
    (represents : defaults.Represents chain) (spec desc : String) (action : HandlerRef)
    (options : Option BindingOptionsSpec) (pos : Option SourcePos) :
    bindingFromHandler spec desc action defaults options pos = (parseChord spec).map fun chord =>
      ⟨chord, desc, .handler action, none, flagsOf (options.toList ++ chain), false, pos⟩ := by
  have flags := (represents.mergedWith options).flags
  cases parsed : parseChord spec <;>
    simp [bindingFromHandler, parsed, flags, bind, Except.bind, pure, Except.pure, Except.map]

/-- The binding of a submenu has the flags of its own options and those in scope. -/
theorem bindingFromMode_eq {defaults : BindingOptionsSpec} {chain : List BindingOptionsSpec}
    (represents : defaults.Represents chain) (spec title : String) (id : ModeId)
    (render : CallbackRef) (options : Option SubmenuOptionsSpec) (pos : Option SourcePos) :
    bindingFromMode spec title id render defaults options pos =
      (parseChord spec).map fun chord =>
        ⟨chord, title, .mode ⟨id, render, some title⟩, some id,
          flagsOf ((options.map SubmenuOptionsSpec.binding).toList ++ chain),
          (options.bind SubmenuOptionsSpec.capture).getD false, pos⟩ := by
  -- The spec is parsed first, and then the options are merged.
  have flags := (represents.mergedWith (options.map SubmenuOptionsSpec.binding)).flags
  cases parsed : parseChord spec <;>
    simp [bindingFromMode, parsed, flags, bind, Except.bind, pure, Except.pure, Except.map]

namespace ModeBuilder

/-- The views that calls derived, in order: each with the view it derives from and its defaults. -/
def derived (labels : List Label) : List (Nat × BindingOptionsSpec) :=
  labels.filterMap fun label =>
    match label.1.call with
    | .derive defaults => some (label.1.view, defaults)
    | _ => none

/-- The settings in scope of a view, the nearest first, down to the builder itself. -/
inductive InScope (views : List (Nat × BindingOptionsSpec)) : Nat → List BindingOptionsSpec → Prop
  | root : InScope views 0 []
  | derived {view parent : Nat} {defaults : BindingOptionsSpec} {chain : List BindingOptionsSpec} :
    views[view]? = some (parent, defaults) → InScope views parent chain →
    InScope views (view + 1) (defaults :: chain)

/-- A call declares a binding with the flags of its own options and the scope of its view. -/
inductive Declares (views : List (Nat × BindingOptionsSpec)) : MenuStep → Binding → Prop
  | bind {view : Nat} {spec desc : String} {action : HandlerRef}
    {options : Option BindingOptionsSpec} {pos : Option SourcePos} {chord : Chord}
    {chain : List BindingOptionsSpec} :
    Chord.parse spec = some chord → InScope views view chain →
    Declares views ⟨view, .bind spec desc action options, pos⟩
      ⟨chord, desc, .handler action, none, flagsOf (options.toList ++ chain), false, pos⟩
  | submenu {view : Nat} {spec title : String} {id : ModeId} {render : CallbackRef}
    {options : Option SubmenuOptionsSpec} {pos : Option SourcePos} {chord : Chord}
    {chain : List BindingOptionsSpec} :
    Chord.parse spec = some chord → InScope views view chain →
    Declares views ⟨view, .submenu spec title id render options, pos⟩
      ⟨chord, title, .mode ⟨id, render, some title⟩, some id,
        flagsOf ((options.map SubmenuOptionsSpec.binding).toList ++ chain),
        (options.bind SubmenuOptionsSpec.capture).getD false, pos⟩

/-- Whether a call declares a binding, which it does unless its chord is invalid. -/
def isDeclaration (menu : MenuStep) : Bool :=
  match menu.call with
  | .bind spec _ _ _ => (Chord.parse spec).isSome
  | .submenu spec _ _ _ _ => (Chord.parse spec).isSome
  | _ => false

/-- Whether a call asks for capture. -/
def isCapture (menu : MenuStep) : Bool := menu.call == .capture

/-- Later views leave the scope of an earlier one. -/
theorem InScope.append {views : List (Nat × BindingOptionsSpec)} {view : Nat}
    {chain : List BindingOptionsSpec} (scope : InScope views view chain)
    (more : List (Nat × BindingOptionsSpec)) : InScope (views ++ more) view chain := by
  induction scope with
  | root => exact .root
  | derived found _ ih =>
    apply InScope.derived _ ih
    rw [List.getElem?_append_left (List.getElem?_eq_some_iff.mp found).1]
    exact found

/-- Later views leave what a call declared. -/
theorem Declares.append {views : List (Nat × BindingOptionsSpec)} {menu : MenuStep}
    {binding : Binding} (declares : Declares views menu binding)
    (more : List (Nat × BindingOptionsSpec)) : Declares (views ++ more) menu binding := by
  cases declares with
  | bind parsed scope => exact .bind parsed (scope.append more)
  | submenu parsed scope => exact .submenu parsed (scope.append more)

/-- A builder holds what the calls on its views declared. -/
structure Scoped (inherited : Bool) (labels : List Label) (builder : ModeBuilder) : Prop where
  /-- One binding for each call that declares one, in the order of the calls. -/
  bindings : List.Forall₂ (Declares (derived labels))
    ((labels.map Prod.fst).filter isDeclaration) builder.bindings
  /-- Capture is inherited or was asked for, and is never taken back. -/
  capture : builder.capture = (inherited || (labels.map Prod.fst).any isCapture)
  count : builder.views.length = (derived labels).length + 1
  /-- The defaults of a view are the settings in its scope, whatever happened since. -/
  views : ∀ (view : Nat) (options : BindingOptionsSpec), builder.views[view]? = some options →
    ∃ chain, InScope (derived labels) view chain ∧ options.Represents chain

section Calls

variable {inherited : Bool} {labels : List Label} {builder : ModeBuilder} {label : Label}

/-- Only a call of `with` derives a view. -/
theorem derived_snoc (labels : List Label) (label : Label) :
    derived (labels ++ [label]) = derived labels ++ derived [label] := List.filterMap_append

/-- A call that neither declares nor derives leaves everything but the capture flag. -/
theorem Scoped.silent (held : Scoped inherited labels builder) (views : derived [label] = [])
    (undeclared : isDeclaration label.1 = false) : Scoped inherited (labels ++ [label])
      { builder with capture := builder.capture || isCapture label.1 } where
  -- The call leaves no label that is counted.
  bindings := by
    rw [derived_snoc, views, List.append_nil, List.map_append, List.filter_append]
    simpa [undeclared] using held.bindings
  capture := by
    simp [held.capture, Bool.or_assoc]
  count := by
    rw [derived_snoc, views, List.append_nil]
    exact held.count
  views := by
    rw [derived_snoc, views, List.append_nil]
    exact held.views

/-- A call that does not even ask for capture leaves the builder as it was. -/
theorem Scoped.ineffective (held : Scoped inherited labels builder) (views : derived [label] = [])
    (undeclared : isDeclaration label.1 = false) (other : isCapture label.1 = false) :
    Scoped inherited (labels ++ [label]) builder := by
  have silent := held.silent views undeclared
  rw [other, Bool.or_false] at silent
  exact silent

/-- A call that declares a binding adds it behind the others. -/
theorem Scoped.declared (held : Scoped inherited labels builder) (views : derived [label] = [])
    (declaration : isDeclaration label.1 = true) (other : isCapture label.1 = false)
    {binding : Binding} (declares : Declares (derived labels) label.1 binding) :
    Scoped inherited (labels ++ [label])
      { builder with bindings := builder.bindings ++ [binding] } where
  -- The label comes last, and so does its binding.
  bindings := by
    rw [derived_snoc, views, List.append_nil, List.map_append, List.filter_append]
    have last : (List.map Prod.fst [label]).filter isDeclaration = [label.1] := by
      simp [declaration]
    rw [last]
    exact List.rel_append held.bindings (.cons declares .nil)
  capture := by
    simp [held.capture, other]
  count := by
    rw [derived_snoc, views, List.append_nil]
    exact held.count
  views := by
    rw [derived_snoc, views, List.append_nil]
    exact held.views

/-- A call that makes a binding of its chord declares it, unless the chord is invalid. -/
theorem Scoped.declare (held : Scoped inherited labels builder) (views : derived [label] = [])
    (other : isCapture label.1 = false) {spec : String} {binding : Chord → Binding}
    (declaration : isDeclaration label.1 = (Chord.parse spec).isSome)
    (declares : ∀ chord, Chord.parse spec = some chord →
      Declares (derived labels) label.1 (binding chord)) :
    Scoped inherited (labels ++ [label]) (builder.declare ((parseChord spec).map binding)).1 := by
  -- A chord that does not parse makes the call fail and declares nothing.
  cases parsed : Chord.parse spec with
  | none =>
    have failed : parseChord spec = .error ("invalid chord string: " ++ spec) := by
      rw [parseChord, parsed]
    rw [failed]
    exact held.ineffective views (by rw [declaration, parsed]; rfl) other
  | some chord =>
    have read : parseChord spec = .ok chord := by
      rw [parseChord, parsed]
    rw [read]
    exact held.declared views (by rw [declaration, parsed]; rfl) other (declares chord parsed)

/-- A call of `with` adds a view whose scope is its defaults in front of the scope it came from. -/
theorem Scoped.derive (held : Scoped inherited labels builder) {view : Nat}
    {defaults explicit : BindingOptionsSpec} {pos : Option SourcePos}
    {answer : Except String (Option Nat)} (found : builder.views[view]? = some defaults) :
    Scoped inherited (labels ++ [(⟨view, .derive explicit, pos⟩, answer)])
      { builder with views := builder.views ++ [defaults.mergedWith (some explicit)] } where
  bindings := by
    rw [derived_snoc, List.map_append, List.filter_append]
    -- The call declares nothing, and what is declared already keeps its scope.
    have undeclared :
        (List.map Prod.fst [((⟨view, .derive explicit, pos⟩ : MenuStep), answer)]).filter
          isDeclaration = [] := rfl
    rw [undeclared, List.append_nil]
    exact held.bindings.imp fun menu binding declares => declares.append _
  capture := by
    have other : isCapture ⟨view, .derive explicit, pos⟩ = false :=
      beq_eq_false_iff_ne.mpr MenuCall.noConfusion
    simp [held.capture, other]
  count := by
    rw [derived_snoc, List.length_append, List.length_append, held.count]
    rfl
  views := by
    intro other options read
    rw [derived_snoc]
    rcases Nat.lt_or_ge other builder.views.length with earlier | last
    · rw [List.getElem?_append_left earlier] at read
      obtain ⟨chain, scope, represents⟩ := held.views other options read
      exact ⟨chain, scope.append _, represents⟩
    · -- The new view is numbered by the views there were.
      rw [List.getElem?_append_right last] at read
      obtain ⟨bound, same⟩ := List.getElem?_eq_some_iff.mp read
      have index : other = (derived labels).length + 1 := by
        have count := held.count
        simp only [List.length_singleton] at bound
        omega
      obtain ⟨chain, scope, represents⟩ := held.views view defaults found
      subst index
      refine ⟨explicit :: chain, .derived ?_ (scope.append _), ?_⟩
      · rw [List.getElem?_append_right (Nat.le_refl _), Nat.sub_self]
        rfl
      · have merged := represents.mergedWith (some explicit)
        rw [List.getElem_singleton] at same
        rw [← same]
        exact merged

/-- Every call keeps a builder scoped. -/
theorem Scoped.step (held : Scoped inherited labels builder) {next : ModeBuilder}
    (taken : Steps builder label next) : Scoped inherited (labels ++ [label]) next := by
  rcases label with ⟨⟨view, call, pos⟩, answer⟩
  obtain ⟨defaults, found, made⟩ := Option.map_eq_some_iff.mp taken
  obtain ⟨chain, scope, represents⟩ := held.views view defaults found
  have result : (builder.perform defaults pos call).1 = next := congrArg Prod.fst made
  rw [← result]
  -- A declaring call merges its options in front of the scope of the view it is made on.
  cases call with
  | derive explicit => exact held.derive found
  | capture =>
    have silent : Scoped inherited (labels ++ [(⟨view, .capture, pos⟩, answer)])
        { builder with capture := builder.capture || isCapture ⟨view, .capture, pos⟩ } :=
      held.silent rfl rfl
    have asked : (builder.capture || isCapture ⟨view, .capture, pos⟩) = true := by
      simp [isCapture]
    rw [asked] at silent
    exact silent
  | malformed error => exact held.ineffective rfl rfl rfl
  | bind spec desc action options =>
    rw [perform, bindingFromHandler_eq represents]
    exact held.declare rfl rfl rfl fun chord parsed => .bind parsed scope
  | submenu spec title id render options =>
    rw [perform, bindingFromMode_eq represents]
    exact held.declare rfl rfl rfl fun chord parsed => .submenu parsed scope

end Calls

/--
A renderer's menu holds what the calls on it declared, whichever views they were made on.

There is one binding for each call with a valid chord, in the order of the calls. Each of its
options is what the call itself sets, or else the nearest view in scope that sets it, or off;
a failed call changes nothing, and no call on one view changes the defaults of another.
-/
theorem menu_scoped {inherited : Bool} {labels : List Label} {builder : ModeBuilder}
    (run : Run Steps (newForRender inherited) labels builder) :
    Scoped inherited labels builder := by
  have start : Scoped inherited [] (newForRender inherited) := by
    refine ⟨.nil, by simp [newForRender], rfl, ?_⟩
    intro view options read
    -- The builder itself is the only view, and sets nothing.
    rcases view with _ | view
    · cases read
      exact ⟨[], .root, rfl, rfl, rfl⟩
    · cases read
  exact run.trace_invariant (Scoped inherited) (fun taken held => held.step taken) [] start

/-- Two views, one below the other, and a binding on each of the three. -/
def nestedMenu : List MenuStep :=
  [⟨0, .derive { stay := some true }, none⟩,
    ⟨1, .derive { hidden := some true, stay := some false }, none⟩,
    ⟨1, .bind "a" "stays" ⟨1⟩ none, none⟩, ⟨2, .bind "b" "hidden" ⟨2⟩ none, none⟩,
    ⟨2, .bind "nothing" "invalid" ⟨3⟩ none, none⟩,
    ⟨2, .submenu "c" "shown" 7 4 (some { binding := { hidden := some false } }), none⟩,
    ⟨0, .capture, none⟩]

/-- The nearest setting decides, and the call with the invalid chord declares nothing. -/
theorem menu_scoped_nested : ∃ labels builder, Scoped false labels builder ∧
    labels.map Prod.fst = nestedMenu ∧ builder.finish.2 = true ∧
    builder.finish.1.map Binding.flags =
      [{ stay := true }, { hidden := true }, { hidden := false, stay := false }] := by
  -- The builders are nested twice, and one call has an invalid chord.
  obtain ⟨builder, outputs, seen, run, lengths⟩ := Run.of_evaluate ModeBuilder.step
    (newForRender false) nestedMenu
    (fun result => (result.1.finish.2, result.1.finish.1.map Binding.flags))
    (true, [{ stay := true }, { hidden := true }, { hidden := false, stay := false }])
    (by decide +kernel)
  simp only [Prod.mk.injEq] at seen
  refine ⟨_, builder, menu_scoped run, ?_, seen⟩
  exact List.map_fst_zip (Nat.le_of_eq lengths.symm)

end ModeBuilder

end Script

end Hotki

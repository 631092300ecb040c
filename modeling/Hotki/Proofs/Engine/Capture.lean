import Hotki.Proofs.Engine.Session

/-! A frame's capture flag is what its entry declared and its renders ever asked for. -/

namespace Hotki

open Base Script

variable {T : Externals}

section Frames

variable {host : ScriptHost T} {holds : ModeFrame → Prop}

/-- Whether a property of frames outlasts their renders. -/
def LastsRenders (host : ScriptHost T) (holds : ModeFrame → Prop) : Prop :=
  ∀ {cfg next : LoadedConfig T} {ctx : ModeCtx} {frame : ModeFrame} {view : ModeView}
    {warnings : List Effect}, holds frame →
    renderMode host cfg frame ctx = (.ok (view, warnings), next) → holds (withView frame view)

/-- A pass over the frames, finished or not, leaves frames that have the property. -/
theorem renderFrames_lasts (lasts : LastsRenders host holds) (ctx : ModeCtx)
    (cfg : LoadedConfig T) (warnings : List Effect) {below stack : List ModeFrame}
    (done : ∀ frame ∈ below, holds frame) (todo : ∀ frame ∈ stack, holds frame) :
    ∀ frame ∈ (renderFrames host ctx cfg warnings below stack).2.1, holds frame := by
  -- The induction is on the frames still to render.
  induction stack generalizing cfg warnings below with
  | nil => exact done
  | cons frame above ih =>
    have first : holds frame := todo frame List.mem_cons_self
    have rest : ∀ other ∈ above, holds other := fun other member =>
      todo other (List.mem_cons_of_mem _ member)
    unfold renderFrames
    split
    · intro other member
      rcases List.mem_append.mp member with old | new
      · exact done other old
      · exact todo other new
    · rename_i view local_ next answered
      have grown : ∀ other ∈ below ++ [withView frame view], holds other := by
        intro other member
        rcases List.mem_append.mp member with old | new
        · exact done other old
        · rw [List.mem_singleton.mp new]
          exact lasts first answered
      dsimp only
      split
      · exact done
      · split
        · exact grown
        · split
          · exact grown
          · exact ih next _ grown rest

/-- A render attempt leaves frames that have the property. -/
theorem tryRender_lasts (lasts : LastsRenders host holds) (cfg : LoadedConfig T) (ctx : ModeCtx)
    {rt : RuntimeState T} (all : ∀ frame ∈ rt.stack, holds frame) :
    ∀ frame ∈ (tryRender host rt cfg ctx).2.1.stack, holds frame := by
  have passed := renderFrames_lasts lasts ctx cfg [] (List.forall_mem_nil _) all
  rw [← renderStack_stack] at passed
  unfold tryRender
  split <;> rename_i rendered <;> rw [rendered] at passed <;> exact passed

/-- Rendering with recovery leaves frames that have the property. -/
theorem renderStackWithRecovery_lasts (lasts : LastsRenders host holds) (cfg : LoadedConfig T)
    {rt : RuntimeState T} (all : ∀ frame ∈ rt.stack, holds frame) :
    ∀ frame ∈ (renderStackWithRecovery host rt cfg).2.1.stack, holds frame := by
  have first := tryRender_lasts lasts cfg (modeCtx rt.focus rt.hudVisible rt.depth) all
  unfold renderStackWithRecovery
  dsimp only
  split <;> rename_i attempted <;> rw [attempted] at first
  · exact first
  · -- The root is one of the frames the failed attempt left.
    rename_i error failed left
    have root : ∀ frame ∈ failed.resetToRoot.stack, holds frame := fun frame member =>
      first frame (List.mem_of_mem_take member)
    have second := tryRender_lasts lasts left
      { modeCtx rt.focus rt.hudVisible rt.depth with depth := 0 } root
    split <;> rename_i again <;> rw [again] at second <;> exact second

/-- A plan leaves frames that have the property, if a fresh root has it. -/
theorem buildRefreshPlan_lasts (lasts : LastsRenders host holds) (style : T.Style)
    (config : Option (LoadedConfig T)) (focus : Option FocusSnapshot)
    (root : ∀ cfg, config = some cfg → holds (rootFrame cfg.root)) {rt : RuntimeState T}
    (all : ∀ frame ∈ rt.stack, holds frame) :
    ∀ frame ∈ (buildRefreshPlan host style rt config focus).2.1.stack, holds frame := by
  -- The frames of a plan are those of the ensured stack, rendered.
  cases config with
  | none => simp [buildRefreshPlan, RuntimeState.clearConfigState]
  | some cfg =>
    have ensured : ∀ frame ∈ ensureStack cfg rt.stack, holds frame := by
      unfold ensureStack
      split
      · intro frame member
        rw [List.mem_singleton.mp member]
        exact root cfg rfl
      · exact all
    have rendered := @renderStackWithRecovery_lasts _ _ _ lasts cfg
      { rt with focus := rt.contextWindow focus, stack := ensureStack cfg rt.stack } ensured
    simp only [buildRefreshPlan, buildLoadedRefreshPlan]
    split
    · exact ensured
    · exact rendered

end Frames

/-- Whether an operation may put a frame on the stack, fresh from its entry. -/
inductive RuntimeOp.Enters : RuntimeOp T → ModeFrame → Prop
  | pushMode (title : String) (closure : ModeRef) (enteredVia : Option (Chord × ModeId))
      (capture : Bool) (window : Option FocusSnapshot) :
      Enters (.pushMode title closure enteredVia capture window)
        ⟨title, closure, enteredVia, [], capture⟩
  | navigate (mode : ModeRef) (title : Option String) (window : Option FocusSnapshot) :
      Enters (.navigate (.push mode title) window)
        ⟨(title.or mode.defaultTitle).getD "mode", mode, none, [], false⟩
  | render (cfg : LoadedConfig T) (focus : Option FocusSnapshot) :
      Enters (.render (some cfg) focus) (rootFrame cfg.root)
  | install (cfg : LoadedConfig T) (mode : ConfigInstall) (focus : Option FocusSnapshot) :
      Enters (.install cfg mode focus) (rootFrame cfg.root)

/-- A property that outlasts renders is kept by every operation, if the frames it enters have it. -/
theorem RuntimeState.apply_lasts {host : Host T} {holds : ModeFrame → Prop}
    (lasts : LastsRenders host.script holds) {op : RuntimeOp T}
    (entered : ∀ frame, op.Enters frame → holds frame) {rt : RuntimeState T}
    (all : ∀ frame ∈ rt.stack, holds frame) :
    ∀ frame ∈ (rt.apply host op).stack, holds frame := by
  -- One case for each operation: it renders, or adds or drops frames.
  cases op with
  | pushMode title closure enteredVia capture window =>
    intro frame member
    rcases List.mem_append.mp member with old | new
    · exact all frame old
    · rw [List.mem_singleton.mp new]
      exact entered _ (.pushMode ..)
  | navigate request window =>
    cases request with
    | push mode title =>
      intro frame member
      rcases List.mem_append.mp member with old | new
      · exact all frame old
      · rw [List.mem_singleton.mp new]
        exact entered _ (.navigate ..)
    -- Popping drops a frame and adds none.
    | pop =>
      have popped : ∀ frame ∈ rt.popMode.stack, holds frame := by
        unfold popMode
        split
        · exact all
        · exact fun frame member => all frame (List.mem_of_mem_dropLast member)
      simp only [apply, applyNavRequest]
      split <;> exact popped
    | exit => exact fun frame member => all frame (List.mem_of_mem_take member)
    | showRoot => exact fun frame member => all frame (List.mem_of_mem_take member)
    | hideHud => exact all
  | render config focus =>
    apply buildRefreshPlan_lasts lasts _ config focus _ all
    rintro cfg rfl
    exact entered _ (.render ..)
  | renderAndRestore config focus => exact all
  | openSelector config matcher window => exact all
  | closeSelector =>
    simp only [apply]
    split <;> exact all
  -- An installation starts again from the root frame of the new configuration.
  | install config mode focus =>
    have root : holds (rootFrame config.root) := entered _ (.install ..)
    apply buildRefreshPlan_lasts lasts
    · rintro cfg same
      cases same
      exact root
    · intro frame member
      have stack : ∀ hudVisible window,
          (Core.candidateRuntime host config hudVisible window).stack =
            [rootFrame config.root] := by
        intro hudVisible window
        unfold Core.candidateRuntime
        split <;> rfl
      rw [stack, List.mem_singleton] at member
      rw [member]
      exact root

/--
A frame after the renders it went through since it was entered, each with whether its renderer
asked for capture.
-/
inductive RenderedSince (host : ScriptHost T) (entered : ModeFrame) : List Bool → ModeFrame → Prop
  | entered : RenderedSince host entered [] entered
  | rendered {asked : List Bool} {frame : ModeFrame} {cfg next : LoadedConfig T} {ctx : ModeCtx}
      {view : ModeView} {warnings : List Effect} {emitted : List Binding} {asks : Bool}
      {vm : T.Vm} :
      RenderedSince host entered asked frame →
      host.callRenderer cfg.vm frame.closure.func ctx = (.ok (emitted, asks), vm) →
      renderMode host cfg frame ctx = (.ok (view, warnings), next) →
      RenderedSince host entered (asked ++ [asks]) (withView frame view)

/-- A render that succeeds is a call of the renderer that does, and capture only adds up. -/
theorem renderMode_capture {host : ScriptHost T} {cfg next : LoadedConfig T} {frame : ModeFrame}
    {ctx : ModeCtx} {view : ModeView} {warnings : List Effect}
    (rendered : renderMode host cfg frame ctx = (.ok (view, warnings), next)) :
    ∃ emitted asks vm, host.callRenderer cfg.vm frame.closure.func ctx = (.ok (emitted, asks), vm) ∧
      view.capture = (frame.capture || asks) := by
  -- The renderer is called once, and its answer is what the flag is taken from.
  unfold renderMode at rendered
  split at rendered
  · cases rendered
  · rename_i emitted asks vm called
    dsimp only at rendered
    split at rendered
    · cases rendered
    · cases rendered
      exact ⟨emitted, asks, vm, called, rfl⟩

/-- The flag is on once the entry declared it or any render asked for it. -/
theorem RenderedSince.capture {host : ScriptHost T} {entered frame : ModeFrame} {asked : List Bool}
    (since : RenderedSince host entered asked frame) :
    frame.capture = (entered.capture || asked.any id) := by
  -- The induction is on the renders; each one adds what it asks for and takes nothing away.
  induction since with
  | entered => simp
  | rendered _ called answered ih =>
    obtain ⟨_, _, _, again, capture⟩ := renderMode_capture answered
    rw [called] at again
    cases again
    show ModeView.capture _ = _
    rw [capture, ih, List.any_append, Bool.or_assoc]
    simp

/-- Every frame of a run was entered by one of its operations and rendered since. -/
theorem rendered_since (host : Host T) (ops : List (RuntimeOp T)) :
    ∀ frame ∈ (ops.foldl (RuntimeState.apply host) (.empty host.defaultStyle)).stack,
      ∃ op ∈ ops, ∃ entered asked, op.Enters entered ∧
        RenderedSince host.script entered asked frame := by
  induction ops using List.reverseRecOn with
  | nil => simp [RuntimeState.empty]
  | append_singleton ops op ih =>
    rw [List.foldl_concat]
    apply RuntimeState.apply_lasts
    · -- A render of a frame is one more since its entry.
      intro cfg next ctx frame view warnings reached answered
      obtain ⟨op, among, entered, asked, enters, since⟩ := reached
      obtain ⟨emitted, asks, vm, called, _⟩ := renderMode_capture answered
      exact ⟨op, among, entered, asked ++ [asks], enters, .rendered since called answered⟩
    · intro frame enters
      exact ⟨op, by simp, frame, [], enters, .entered⟩
    · intro frame member
      obtain ⟨op, among, rest⟩ := ih frame member
      exact ⟨op, by simp [among], rest⟩

/-- The runtime state after a run of operations. -/
def RuntimeState.afterAll (host : Host T) (ops : List (RuntimeOp T)) : RuntimeState T :=
  ops.foldl (RuntimeState.apply host) (.empty host.defaultStyle)

/--
In every run, every frame of the stack was entered by an operation and rendered since. After a
render its capture flag is what its entry declared, or what its renderer asked for in that render,
just if one of these holds or no earlier render asked for it. Two histories give the same flag just
if one of these holds or they agree on whether an earlier render asked for it.
-/
theorem capture_of_last_render (host : Host T) :
    (∀ ops, ∀ frame ∈ (RuntimeState.afterAll host ops).stack,
      ∃ op ∈ ops, ∃ entered asked, op.Enters entered ∧
        RenderedSince host.script entered asked frame) ∧
    (∀ entered frame asks earlier, RenderedSince host.script entered (earlier ++ [asks]) frame →
      (frame.capture = (entered.capture || asks) ↔
        entered.capture = true ∨ asks = true ∨ ∀ before ∈ earlier, before = false)) ∧
    ∀ entered left right asks leftEarlier rightEarlier,
      RenderedSince host.script entered (leftEarlier ++ [asks]) left →
      RenderedSince host.script entered (rightEarlier ++ [asks]) right →
      (left.capture = right.capture ↔
        entered.capture = true ∨ asks = true ∨ (true ∈ leftEarlier ↔ true ∈ rightEarlier)) := by
  -- The flag a frame was entered with stays set; otherwise only what was asked for counts.
  refine ⟨rendered_since host, fun entered frame asks earlier since => ?_,
    fun entered left right asks leftEarlier rightEarlier leftSince rightSince => ?_⟩
  · rw [since.capture, List.any_append]
    cases entered.capture with
    | true => simp
    | false => cases asks <;> simp
  · rw [leftSince.capture, rightSince.capture, List.any_append, List.any_append]
    cases entered.capture with
    | true => simp
    | false =>
      have asked : ∀ earlier : List Bool, earlier.any id = decide (true ∈ earlier) := by
        intro earlier
        induction earlier with
        | nil => rfl
        | cons first rest ih => cases first <;> simp [ih]
      cases asks with
      | true => simp
      | false => simp [asked]

/-- A menu below the root. -/
private def menuEntry : Binding := ⟨⟨∅, .a⟩, "menu", .mode ⟨1, 1, none⟩, some 1, {}, false, none⟩

/-- What that menu offers. -/
private def menuHandler : Binding := ⟨⟨∅, .b⟩, "act", .handler ⟨3⟩, none, {}, false, none⟩

/-- A host whose menu asks for capture while another mode is entered above it. -/
private def menuHost : Host Core.registryExternals where
  script := rendererHost fun func ctx =>
    if func = 0 then .ok ([menuEntry], false)
    else .ok ([menuHandler], decide (func = 1) && decide (ctx.depth = 2))
  matching := ⟨fun items => items.length, fun matcher _ => matcher, fun matcher => (false, matcher),
    id, fun _ _ => none, fun _ _ _ => []⟩
  hotkeys := registryApi fun _ => none
  defaultStyle := false
  load _ _ := .error "missing"
  uiAccepts _ := true
  displays _ := (0 : Nat)
  order _ := ⟨.stored _, .stored _, .stored _⟩

/-- Its configuration. -/
private def menuConfig : LoadedConfig Core.registryExternals := ⟨⟨0, 0, none⟩, false, (), none, ∅⟩

/-- The menu as it is entered, through an entry that does not declare capture. -/
private def menuFrame : ModeFrame := ⟨"menu", ⟨1, 1, none⟩, some (⟨∅, .a⟩, 1), [], false⟩

/-- The menu once it was rendered, with its capture flag. -/
private def renderedMenu (capture : Bool) : ModeFrame :=
  { menuFrame with rendered := [menuHandler], capture }

/-- The menu is entered and rendered, after another mode above it was left again or not. -/
private def menuOps (above : List (RuntimeOp Core.registryExternals)) :
    List (RuntimeOp Core.registryExternals) :=
  [.render (some menuConfig) none,
    .pushMode "menu" ⟨1, 1, none⟩ (some (⟨∅, .a⟩, 1)) false none] ++ above ++
    [.render (some menuConfig) none]

/-- A mode is entered above the menu, rendered and left. -/
private def detour : List (RuntimeOp Core.registryExternals) :=
  [.navigate (.push ⟨2, 2, none⟩ none) none, .render (some menuConfig) none, .navigate .pop none]

/-- With a mode above it the menu asked for capture, and in the render after that it did not. -/
private theorem renderedMenu_since :
    RenderedSince menuHost.script menuFrame ([true] ++ [false]) (renderedMenu true) := by
  have first : RenderedSince menuHost.script menuFrame ([] ++ [true]) (renderedMenu true) :=
    @RenderedSince.rendered _ _ _ [] menuFrame menuConfig menuConfig ⟨none, true, 2⟩
      ⟨[menuHandler], true⟩ [] [menuHandler] true () .entered rfl rfl
  exact @RenderedSince.rendered _ _ _ [true] (renderedMenu true) menuConfig menuConfig
    ⟨none, true, 1⟩ ⟨[menuHandler], true⟩ [] [menuHandler] false () first rfl rfl

/--
Capture depends on the renders before: the same menu, entered without declared capture and asking
for none in its last render, captures after a mode above it was entered and left, and does not
capture otherwise.
-/
theorem capture_of_last_render_stuck :
    ∃ left ∈ (RuntimeState.afterAll menuHost (menuOps detour)).stack,
      ∃ right ∈ (RuntimeState.afterAll menuHost (menuOps [])).stack,
        RenderedSince menuHost.script menuFrame ([true] ++ [false]) left ∧
        RenderedSince menuHost.script menuFrame ([] ++ [false]) right ∧
        menuFrame.capture = false ∧ left.capture = true ∧ right.capture = false := by
  refine ⟨renderedMenu true, by decide +kernel, renderedMenu false, by decide +kernel,
    renderedMenu_since, ?_, rfl, rfl, rfl⟩
  exact @RenderedSince.rendered _ _ _ [] menuFrame menuConfig menuConfig ⟨none, true, 1⟩
    ⟨[menuHandler], false⟩ [] [menuHandler] false () .entered rfl rfl

/-- The rule at that menu: its flag is not what its entry and its last render ask for. -/
theorem capture_of_last_render_menu :
    RenderedSince menuHost.script menuFrame ([true] ++ [false]) (renderedMenu true) ∧
      ¬ (renderedMenu true).capture = (menuFrame.capture || false) := by
  refine ⟨renderedMenu_since, fun same => ?_⟩
  have quiet := ((capture_of_last_render menuHost).2.1 menuFrame (renderedMenu true) false [true]
    renderedMenu_since).mp same
  simp [menuFrame] at quiet

end Hotki

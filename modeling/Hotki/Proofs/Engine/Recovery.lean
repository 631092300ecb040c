import Hotki.Proofs.Engine.Fixpoint

/-! What recovering from a failed render shows, and what is left in it of the failed attempt. -/

namespace Hotki

open Base Script

variable {T : Externals}

namespace Script

variable {host : ScriptHost T} {ctx : ModeCtx}

/-- A pass over the frames, finished or not, keeps those already rendered. -/
theorem renderFrames_extends (cfg : LoadedConfig T) (warnings : List Effect)
    (below stack : List ModeFrame) :
    ∃ added, (renderFrames host ctx cfg warnings below stack).2.1 = below ++ added := by
  -- The induction is on the frames still to render.
  induction stack generalizing cfg warnings below with
  | nil => exact ⟨[], (List.append_nil below).symm⟩
  | cons frame above ih =>
    unfold renderFrames
    split
    · exact ⟨frame :: above, rfl⟩
    · rename_i view local_ next _
      dsimp only
      split
      · exact ⟨[], (List.append_nil below).symm⟩
      · split
        · exact ⟨[withView frame view], rfl⟩
        · rename_i child rest _
          split
          · exact ⟨[withView frame view], rfl⟩
          · obtain ⟨added, grown⟩ := ih next (warnings ++ local_) (below ++ [withView frame view])
            exact ⟨withView frame view :: added, by rw [grown]; simp⟩

/-- A frame after an attempt to render it. -/
def attempted (host : ScriptHost T) (cfg : LoadedConfig T) (ctx : ModeCtx) (frame : ModeFrame) :
    ModeFrame :=
  match (renderMode host cfg frame ctx).1 with
  | .ok (view, _) => withView frame view
  | .error _ => frame

/-- The root of any attempt, failed or not, is the root after an attempt to render it. -/
theorem take_renderStack (cfg : LoadedConfig T) (root : ModeFrame) (above : List ModeFrame) :
    (renderStack host cfg (root :: above) ctx).2.1.take 1 = [attempted host cfg ctx root] := by
  -- The root is never dropped, and its render keeps what it was entered as.
  rw [renderStack_stack]
  unfold renderFrames attempted
  split
  · rename_i rendered
    rw [rendered]
    rfl
  · rename_i view warnings next rendered
    rw [rendered]
    simp only [List.isEmpty_nil, Bool.not_true, Bool.and_false, Bool.false_eq_true, if_false]
    split
    · rfl
    · split
      · rfl
      · rename_i child rest _
        obtain ⟨added, grown⟩ := @renderFrames_extends _ host ctx next ([] ++ warnings)
          ([] ++ [withView root view]) (child :: rest)
        rw [grown]
        rfl

/-- Any attempt on a frame alone leaves that frame after an attempt to render it. -/
theorem renderStack_single (cfg : LoadedConfig T) (frame : ModeFrame) :
    (renderStack host cfg [frame] ctx).2.1 = [attempted host cfg ctx frame] := by
  -- A pass over a single frame leaves no more than that one.
  have short := length_renderFrames_le host ctx cfg [] [] [frame]
  rw [← renderStack_stack, List.length_nil, Nat.zero_add, List.length_singleton] at short
  rw [← List.take_of_length_le short, take_renderStack]

/-- What a frame renders to does not depend on what it rendered to before, but for capture. -/
theorem renderMode_alike {cfg next : LoadedConfig T} {frame other : ModeFrame} {view : ModeView}
    {warnings : List Effect} (same : other.closure = frame.closure)
    (rendered : renderMode host cfg frame ctx = (.ok (view, warnings), next)) :
    ∃ emitted asks vm, host.callRenderer cfg.vm frame.closure.func ctx = (.ok (emitted, asks), vm) ∧
      view.capture = (frame.capture || asks) ∧
      renderMode host cfg other ctx =
        (.ok (⟨view.bindings, other.capture || asks⟩, warnings), next) := by
  -- The renderer is called on the closure, which both frames share.
  unfold renderMode at rendered ⊢
  rw [same]
  split at rendered
  · cases rendered
  · rename_i emitted asks vm called
    rw [called]
    dsimp only at rendered ⊢
    split at rendered
    · cases rendered
    · cases rendered
      exact ⟨emitted, asks, vm, rfl, rfl, rfl⟩

/-- A frame rendered alone renders to itself with its view. -/
theorem renderStack_alone {cfg last : LoadedConfig T} {frame : ModeFrame} {state : RenderedState T}
    {warnings : List Effect} {stack : List ModeFrame} :
    renderStack host cfg [frame] ctx = (.ok (state, warnings), stack, last) ↔
      ∃ view next, renderMode host cfg frame ctx = (.ok (view, warnings), next) ∧
        synchronizeCallbacks host next = (.ok (), last) ∧ stack = [withView frame view] ∧
        state = renderedState next.baseStyle stack := by
  -- A pass over one frame is the render of that frame.
  constructor
  · intro rendered
    obtain ⟨reached, pass, described, settled⟩ := renderStack_ok rendered
    unfold renderFrames at pass
    split at pass
    · cases pass
    · rename_i view local_ next answered
      simp only [List.isEmpty_nil, Bool.not_true, Bool.and_false, Bool.false_eq_true, if_false,
        List.nil_append] at pass
      cases pass
      exact ⟨view, reached, answered, settled, rfl, described⟩
  · rintro ⟨view, next, answered, settled, rfl, rfl⟩
    have pass : renderFrames host ctx cfg [] [] [frame] =
        (.ok warnings, [withView frame view], next) := by
      unfold renderFrames
      rw [answered]
      simp
    unfold renderStack renderStackInner
    simp only [pass, settled]

end Script

/-- The context in which the root is rendered alone. -/
def RuntimeState.rootCtx (rt : RuntimeState T) : ModeCtx := modeCtx rt.focus rt.hudVisible 0

section Attempts

variable {host : ScriptHost T} {rt failed after : RuntimeState T} {cfg left last : LoadedConfig T}
  {ctx : ModeCtx} {error again : String} {warnings : List Effect}

/-- An attempt leaves the stack its render leaves. -/
theorem tryRender_stack : (tryRender host rt cfg ctx).2.1.stack =
    (renderStack host cfg rt.stack ctx).2.1 := by
  unfold tryRender
  split <;> rename_i rendered <;> rw [rendered]

/-- An attempt on a root alone, in terms of the root's own render. -/
theorem tryRender_alone {root : ModeFrame} (alone : rt.stack = [root]) :
    tryRender host rt cfg ctx = (.ok warnings, after, last) ↔
      ∃ view next, renderMode host cfg root ctx = (.ok (view, warnings), next) ∧
        synchronizeCallbacks host next = (.ok (), last) ∧
        after = { rt with
          stack := [withView root view]
          rendered := renderedState next.baseStyle [withView root view] } := by
  -- The attempt succeeds or fails with the root's own renderer.
  unfold tryRender
  rw [alone]
  constructor
  · intro rendered
    split at rendered
    · rename_i state shown stack reached passed
      cases rendered
      obtain ⟨view, next, answered, settled, rfl, rfl⟩ := renderStack_alone.mp passed
      exact ⟨view, next, answered, settled, rfl⟩
    · cases rendered
  · rintro ⟨view, next, answered, settled, rfl⟩
    rw [renderStack_alone.mpr ⟨view, next, answered, settled, rfl, rfl⟩]

/-- After two attempts of which the second succeeds, what it shows stays. -/
theorem renderStackWithRecovery_second
    (first : tryRender host rt cfg rt.renderCtx = (.error error, failed, left))
    (second : tryRender host failed.resetToRoot left rt.rootCtx =
      (.ok warnings, after, last)) :
    (renderStackWithRecovery host rt cfg).2 = (after, last) := by
  unfold renderStackWithRecovery
  unfold RuntimeState.renderCtx RuntimeState.rootCtx at *
  dsimp only
  rw [first]
  simp only [modeCtx] at second ⊢
  rw [second]

/-- After two attempts that fail, nothing is shown. -/
theorem renderStackWithRecovery_neither
    (first : tryRender host rt cfg rt.renderCtx = (.error error, failed, left))
    (second : tryRender host failed.resetToRoot left rt.rootCtx =
      (.error again, after, last)) :
    (renderStackWithRecovery host rt cfg).2 =
      ({ after with rendered := emptyRendered last.baseStyle }, last) := by
  unfold renderStackWithRecovery
  unfold RuntimeState.renderCtx RuntimeState.rootCtx at *
  dsimp only
  rw [first]
  simp only [modeCtx] at second ⊢
  rw [second]

end Attempts

/-- The state a plan renders, with at least a root on its stack. -/
def RuntimeState.rooted (rt : RuntimeState T) (cfg : LoadedConfig T) : RuntimeState T :=
  { rt with stack := ensureStack cfg rt.stack }

section Plan

variable (host : ScriptHost T) (rt : RuntimeState T) (cfg : LoadedConfig T)

/-- The first attempt of a plan, of the whole stack. -/
def firstAttempt : Except String (List Effect) × RuntimeState T × LoadedConfig T :=
  tryRender host (rt.rooted cfg) cfg (rt.rooted cfg).renderCtx

/-- The second attempt of a plan, of the root the first one left. -/
def secondAttempt : Except String (List Effect) × RuntimeState T × LoadedConfig T :=
  tryRender host (firstAttempt host rt cfg).2.1.resetToRoot (firstAttempt host rt cfg).2.2
    (rt.rooted cfg).rootCtx

/-- What the second attempt would be on the root of before the plan. -/
def rootAlone : Except String (List Effect) × RuntimeState T × LoadedConfig T :=
  tryRender host (rt.rooted cfg).resetToRoot (firstAttempt host rt cfg).2.2
    (rt.rooted cfg).rootCtx

/-- Whether the root came to capture by the first attempt and asks for none in the second. -/
def CaptureLeft : Prop :=
  ∃ root above, (rt.rooted cfg).stack = root :: above ∧ root.capture = false ∧
    (attempted host cfg (rt.rooted cfg).renderCtx root).capture = true ∧
    ∃ emitted vm, host.callRenderer (firstAttempt host rt cfg).2.2.vm root.closure.func
      (rt.rooted cfg).rootCtx = (.ok (emitted, false), vm)

/-- Without a selector a plan renders with recovery. -/
theorem buildLoadedRefreshPlan_closed (closed : rt.selector = none) :
    (buildLoadedRefreshPlan host rt cfg).2 =
      (renderStackWithRecovery host (rt.rooted cfg) cfg).2 := by
  unfold buildLoadedRefreshPlan RuntimeState.rooted
  simp [closed]

/-- The first attempt leaves the root as an attempt to render it does, and the rest alone. -/
theorem firstAttempt_root {root : ModeFrame} {above : List ModeFrame}
    (stack : (rt.rooted cfg).stack = root :: above) :
    (firstAttempt host rt cfg).2.1.resetToRoot.stack =
      [attempted host cfg (rt.rooted cfg).renderCtx root] := by
  unfold firstAttempt RuntimeState.resetToRoot
  dsimp only
  rw [tryRender_stack, stack, take_renderStack]

end Plan

/-- An attempt to render a frame keeps what it was entered as, and capture once it is on. -/
theorem attempted_same (host : ScriptHost T) (cfg : LoadedConfig T) (ctx : ModeCtx)
    (frame : ModeFrame) :
    (∀ view, withView (attempted host cfg ctx frame) view = withView frame view) ∧
      (attempted host cfg ctx frame).closure = frame.closure ∧
      (frame.capture = true → (attempted host cfg ctx frame).capture = true) := by
  -- The frame is replaced by itself with another view.
  unfold attempted
  split
  · rename_i view warnings answered
    refine ⟨fun _ => rfl, rfl, fun captures => ?_⟩
    obtain ⟨_, asks, _, _, capture, _⟩ := renderMode_alike rfl (Prod.ext answered rfl)
    show view.capture = true
    rw [capture, captures, Bool.true_or]
  · exact ⟨fun _ => rfl, rfl, id⟩

/-- An attempt to render a frame leaves the frame with some view. -/
theorem attempted_view (host : ScriptHost T) (cfg : LoadedConfig T) (ctx : ModeCtx)
    (frame : ModeFrame) : ∃ view, attempted host cfg ctx frame = withView frame view := by
  unfold attempted
  split
  · exact ⟨_, rfl⟩
  · -- A frame that does not render keeps the view it has.
    exact ⟨⟨frame.rendered, frame.capture⟩, rfl⟩

section Recovering

variable {host : ScriptHost T} {rt : RuntimeState T} {cfg : LoadedConfig T} {error again : String}
  {warnings : List Effect}

/-- A failed first attempt changes nothing but the stack. -/
theorem firstAttempt_error (failed : (firstAttempt host rt cfg).1 = .error error) :
    (firstAttempt host rt cfg).2.1 =
      { rt.rooted cfg with stack := (firstAttempt host rt cfg).2.1.stack } :=
  tryRender_error_frame (Prod.ext failed rfl)

/--
When the root renders alone after a failed attempt, it shows what it would have shown without that
attempt, but for its capture flag.
-/
theorem secondAttempt_ok (failed : (firstAttempt host rt cfg).1 = .error error)
    (passed : (secondAttempt host rt cfg).1 = .ok warnings) :
    ∃ root above view asks emitted vm, (rt.rooted cfg).stack = root :: above ∧
      host.callRenderer (firstAttempt host rt cfg).2.2.vm root.closure.func
        (rt.rooted cfg).rootCtx = (.ok (emitted, asks), vm) ∧
      view.capture = ((attempted host cfg (rt.rooted cfg).renderCtx root).capture || asks) ∧
      (secondAttempt host rt cfg).2.1 = { rt.rooted cfg with
        stack := [withView root view]
        rendered := renderedState cfg.baseStyle [withView root view] } ∧
      (rootAlone host rt cfg).1 = .ok warnings ∧
      (rootAlone host rt cfg).2.1 = { rt.rooted cfg with
        stack := [withView root ⟨view.bindings, root.capture || asks⟩]
        rendered := renderedState cfg.baseStyle
          [withView root ⟨view.bindings, root.capture || asks⟩] } := by
  obtain ⟨root, above, stack⟩ : ∃ root above, (rt.rooted cfg).stack = root :: above :=
    List.exists_cons_of_ne_nil (ensureStack_ne_nil cfg rt.stack)
  have left := firstAttempt_root host rt cfg stack
  obtain ⟨same, closure, _⟩ := attempted_same host cfg (rt.rooted cfg).renderCtx root
  -- The second attempt renders the root the first one left.
  have second : tryRender host (firstAttempt host rt cfg).2.1.resetToRoot
      (firstAttempt host rt cfg).2.2 (rt.rooted cfg).rootCtx =
      (.ok warnings, (secondAttempt host rt cfg).2.1, (secondAttempt host rt cfg).2.2) :=
    Prod.ext passed rfl
  obtain ⟨view, next, answered, settled, shown⟩ := (tryRender_alone left).mp second
  obtain ⟨emitted, asks, vm, called, capture, alike⟩ := renderMode_alike closure.symm answered
  have style : next.baseStyle = cfg.baseStyle := by
    obtain ⟨_, kept⟩ := renderMode_config host (firstAttempt host rt cfg).2.2
      (attempted host cfg (rt.rooted cfg).renderCtx root)
      (rt.rooted cfg).rootCtx
    rw [answered] at kept
    exact (congrArg LoadedConfig.baseStyle kept).trans (tryRender_baseStyle host (rt.rooted cfg) cfg (rt.rooted cfg).renderCtx)
  -- The root of before renders alike.
  have alone : (rt.rooted cfg).resetToRoot.stack = [root] := by
    show (rt.rooted cfg).stack.take 1 = [root]
    rw [stack]
    rfl
  have reference : rootAlone host rt cfg = _ :=
    (tryRender_alone alone).mpr ⟨_, next, alike, settled, rfl⟩
  rw [closure] at called
  refine ⟨root, above, view, asks, emitted, vm, stack, called, capture, ?_, ?_, ?_⟩
  · rw [shown, firstAttempt_error failed, style, same]
    rfl
  · rw [reference]
  · rw [reference, style]
    rfl

/-- When the root does not render alone either, its frame is left and nothing is shown. -/
theorem neither_attempt (closed : rt.selector = none)
    (failed : (firstAttempt host rt cfg).1 = .error error)
    (failedAgain : (secondAttempt host rt cfg).1 = .error again) :
    (∃ root above view, (rt.rooted cfg).stack = root :: above ∧
      (buildLoadedRefreshPlan host rt cfg).2.1.stack = [withView root view]) ∧
      (buildLoadedRefreshPlan host rt cfg).2.1.rendered = emptyRendered cfg.baseStyle := by
  obtain ⟨root, above, stack⟩ : ∃ root above, (rt.rooted cfg).stack = root :: above :=
    List.exists_cons_of_ne_nil (ensureStack_ne_nil cfg rt.stack)
  have left := firstAttempt_root host rt cfg stack
  have style : (secondAttempt host rt cfg).2.2.baseStyle = cfg.baseStyle :=
    (tryRender_baseStyle host _ _ _).trans
      (tryRender_baseStyle host (rt.rooted cfg) cfg (rt.rooted cfg).renderCtx)
  have recovered : (renderStackWithRecovery host (rt.rooted cfg) cfg).2 =
      ({ (secondAttempt host rt cfg).2.1 with
        rendered := emptyRendered (secondAttempt host rt cfg).2.2.baseStyle },
        (secondAttempt host rt cfg).2.2) :=
    renderStackWithRecovery_neither (Prod.ext failed rfl) (Prod.ext failedAgain rfl)
  rw [buildLoadedRefreshPlan_closed host rt cfg closed, recovered]
  refine ⟨?_, congrArg emptyRendered style⟩
  have alone : (secondAttempt host rt cfg).2.1.stack =
      [attempted host (firstAttempt host rt cfg).2.2 (rt.rooted cfg).rootCtx
        (attempted host cfg (rt.rooted cfg).renderCtx root)] := by
    unfold secondAttempt
    rw [tryRender_stack, left]
    exact renderStack_single _ _
  -- Neither attempt touches anything of the root but its view.
  obtain ⟨first, rendered⟩ := attempted_view host cfg (rt.rooted cfg).renderCtx root
  obtain ⟨second, again⟩ := attempted_view host (firstAttempt host rt cfg).2.2
    (rt.rooted cfg).rootCtx (attempted host cfg (rt.rooted cfg).renderCtx root)
  refine ⟨root, above, second, stack, alone.trans ?_⟩
  rw [again, rendered]
  rfl

end Recovering

/--
Recovery leaves no trace of a failed attempt just if the root did not come to capture by it alone.

When the root renders alone after a failed attempt, the plan leaves the stack and the rendered
state that rendering the root of before would have given, just if that condition holds; bindings and
HUD rows agree in any case. When the root fails too, the root of before is left alone, whatever its
view is by then, and nothing is shown. The plan always binds exactly the chords of what is rendered.
-/
theorem recovery_leaves_capture (host : ScriptHost T) (rt : RuntimeState T) (cfg : LoadedConfig T)
    (closed : rt.selector = none) :
    (∀ error warnings, (firstAttempt host rt cfg).1 = .error error →
      (secondAttempt host rt cfg).1 = .ok warnings →
      (rootAlone host rt cfg).1 = .ok warnings ∧
      (buildLoadedRefreshPlan host rt cfg).2.1.rendered.bindings =
        (rootAlone host rt cfg).2.1.rendered.bindings ∧
      (buildLoadedRefreshPlan host rt cfg).2.1.rendered.hudRows =
        (rootAlone host rt cfg).2.1.rendered.hudRows ∧
      ((buildLoadedRefreshPlan host rt cfg).2.1.stack = (rootAlone host rt cfg).2.1.stack ∧
        (buildLoadedRefreshPlan host rt cfg).2.1.rendered =
          (rootAlone host rt cfg).2.1.rendered ↔ ¬ CaptureLeft host rt cfg)) ∧
    (∀ error again, (firstAttempt host rt cfg).1 = .error error →
      (secondAttempt host rt cfg).1 = .error again →
      (∃ root above view, (rt.rooted cfg).stack = root :: above ∧
        (buildLoadedRefreshPlan host rt cfg).2.1.stack = [withView root view]) ∧
        (buildLoadedRefreshPlan host rt cfg).2.1.rendered = emptyRendered cfg.baseStyle) ∧
    (buildLoadedRefreshPlan host rt cfg).1.keyPairs.Perm
      ((buildLoadedRefreshPlan host rt cfg).2.1.rendered.bindings.map
        fun entry => (entry.1.display, entry.1)) := by
  refine ⟨fun error warnings failed passed => ?_,
    fun error again failed failedAgain => neither_attempt closed failed failedAgain, ?_⟩
  · obtain ⟨root, above, view, asks, emitted, vm, stack, called, capture, shown, reference,
      alone⟩ := secondAttempt_ok failed passed
    -- The plan is what the second attempt left.
    have planned : (buildLoadedRefreshPlan host rt cfg).2.1 = (secondAttempt host rt cfg).2.1 := by
      rw [buildLoadedRefreshPlan_closed host rt cfg closed]
      exact congrArg Prod.fst
        (renderStackWithRecovery_second (Prod.ext failed rfl) (Prod.ext passed rfl))
    rw [planned, shown, alone]
    refine ⟨reference, rfl, rfl, ?_⟩
    obtain ⟨_, _, stays⟩ := attempted_same host cfg (rt.rooted cfg).renderCtx root
    -- The root was tried twice, and both renders may have asked for capture.
    constructor
    · -- The condition would make the two flags differ.
      rintro ⟨sameStack, _⟩ ⟨other, rest, otherStack, off, came, emittedAgain, vmAgain, calledAgain⟩
      obtain ⟨rfl, _⟩ := List.cons.inj (stack.symm.trans otherStack)
      have quiet : asks = false := by
        rw [called] at calledAgain
        cases calledAgain
        rfl
      have flags : view.capture = (root.capture || asks) :=
        congrArg ModeFrame.capture (List.cons.inj sameStack).1
      rw [capture, came, off, quiet] at flags
      cases flags
    · -- Without it the two flags agree, and so does everything made from them.
      intro clean
      have flags : view.capture = (root.capture || asks) := by
        rw [capture]
        cases off : root.capture with
        | true => rw [stays off]
        | false =>
          cases quiet : asks with
          | true => rw [Bool.or_true, Bool.or_true]
          | false =>
            cases came : (attempted host cfg (rt.rooted cfg).renderCtx root).capture with
            | false => rfl
            | true =>
              rw [quiet] at called
              exact absurd ⟨root, above, stack, off, came, emitted, vm, called⟩ clean
      rw [← flags]
      exact ⟨rfl, rfl⟩
  · rw [(buildLoadedRefreshPlan_keyPairs rt cfg closed).1]
    exact List.mergeSort_perm _ _

/-- A host whose root asks for capture while a mode is entered, and whose modes fail. -/
private def failingScript : ScriptHost plainExternals :=
  rendererHost fun func ctx =>
    if func = 0 then .ok ([], decide (ctx.depth = 1)) else .error "attempt to index nil"

/-- Its configuration. -/
private def failingConfig : LoadedConfig plainExternals := ⟨⟨0, 0, none⟩, false, (), none, ∅⟩

/-- The runtime state with such a mode entered. -/
private def failingState : RuntimeState plainExternals :=
  ⟨true, [rootFrame ⟨0, 0, none⟩, ⟨"mode", ⟨1, 1, none⟩, none, [], false⟩], none, some ⟨none⟩,
    emptyRendered false, none⟩

/-- The failed attempt leaves a trace: the root alone captures only because of it. -/
theorem recovery_leaves_capture_stuck :
    (firstAttempt failingScript failingState failingConfig).1 = .error "attempt to index nil" ∧
      (secondAttempt failingScript failingState failingConfig).1 = .ok [] ∧
      (buildLoadedRefreshPlan failingScript failingState failingConfig).2.1.rendered.capture =
        true ∧
      (rootAlone failingScript failingState failingConfig).2.1.rendered.capture = false :=
  ⟨rfl, rfl, rfl, rfl⟩

/-- The rule at that state: the root came to capture by the failed attempt alone. -/
theorem recovery_leaves_capture_failing :
    ¬ ((buildLoadedRefreshPlan failingScript failingState failingConfig).2.1.stack =
          (rootAlone failingScript failingState failingConfig).2.1.stack ∧
        (buildLoadedRefreshPlan failingScript failingState failingConfig).2.1.rendered =
          (rootAlone failingScript failingState failingConfig).2.1.rendered) := by
  have rule := (recovery_leaves_capture failingScript failingState failingConfig rfl).1 _ [] rfl rfl
  rw [rule.2.2.2, not_not]
  exact ⟨_, _, rfl, rfl, rfl, [], (), rfl⟩

end Hotki

import Hotki.Proofs.Engine.Refresh
import Hotki.Proofs.Script.Handles

/-! When a second refresh under the same focus changes nothing. -/

namespace Hotki

open Base Script

variable {T : Externals}

/-- Renderers that are functions of their context down to the handles they retain. -/
structure ExactRenderers (host : ScriptHost T)
    (render : CallbackRef → ModeCtx → Except String (List Binding × Bool)) : Prop where
  renders : ∀ vm func ctx, (host.callRenderer vm func ctx).1 = render func ctx
  settles : ∀ vm, (host.synchronizeCallbacks vm).1 = .ok ()

/-- A frame holds what its renderer gives in a context. -/
def Steady (render : CallbackRef → ModeCtx → Except String (List Binding × Bool)) (ctx : ModeCtx)
    (frame : ModeFrame) : Prop :=
  ∃ emitted called, render frame.closure.func ctx = .ok (emitted, called) ∧
    firsts chordText emitted = frame.rendered ∧ (called = true → frame.capture = true)

section Frames

variable {host : ScriptHost T} {ctx : ModeCtx}
  {render : CallbackRef → ModeCtx → Except String (List Binding × Bool)}

/-- What a pure renderer answers is what rendering its frame answers. -/
theorem ExactRenderers.renderMode_ok (pure : ExactRenderers host render) (cfg : LoadedConfig T)
    {frame : ModeFrame} {emitted : List Binding} {called : Bool}
    (answer : render frame.closure.func ctx = .ok (emitted, called)) :
    ∃ warnings next, renderMode host cfg frame ctx =
      (.ok (⟨firsts chordText emitted, frame.capture || called⟩, warnings), next) := by
  -- The renderer may change the VM, but its answer depends on the context alone.
  have rendered := pure.renders cfg.vm frame.closure.func ctx
  rw [answer] at rendered
  unfold renderMode synchronizeCallbacks
  generalize host.callRenderer cfg.vm frame.closure.func ctx = answered at rendered ⊢
  obtain ⟨outcome, vm⟩ := answered
  simp only at rendered
  subst rendered
  simp only [pure.settles vm]
  exact ⟨_, _, rfl⟩

/-- A pure renderer that fails makes rendering its frame fail. -/
theorem ExactRenderers.renderMode_error (pure : ExactRenderers host render) (cfg : LoadedConfig T)
    {frame : ModeFrame} {error : String} (answer : render frame.closure.func ctx = .error error) :
    ∃ next, renderMode host cfg frame ctx = (.error error, next) := by
  -- The failure comes from the renderer's answer, whatever the VM holds.
  have rendered := pure.renders cfg.vm frame.closure.func ctx
  rw [answer] at rendered
  unfold renderMode
  generalize host.callRenderer cfg.vm frame.closure.func ctx = answered at rendered ⊢
  obtain ⟨outcome, vm⟩ := answered
  simp only at rendered
  subst rendered
  exact ⟨_, rfl⟩

/-- A frame just rendered is steady in the context it was rendered in. -/
theorem ExactRenderers.steady_withView (pure : ExactRenderers host render)
    {cfg next : LoadedConfig T} {frame : ModeFrame} {view : ModeView} {warnings : List Effect}
    (rendered : renderMode host cfg frame ctx = (.ok (view, warnings), next)) :
    Steady render ctx (withView frame view) := by
  -- The answer was kept in the frame, and capture is only ever added to it.
  cases answer : render frame.closure.func ctx with
  | error error =>
    obtain ⟨_, failed⟩ := pure.renderMode_error cfg answer
    rw [rendered] at failed
    cases failed
  | ok answered =>
    obtain ⟨emitted, called⟩ := answered
    obtain ⟨_, _, again⟩ := pure.renderMode_ok cfg answer
    rw [rendered] at again
    cases again
    exact ⟨emitted, called, answer, rfl, fun held => by simp [withView, held]⟩

/-- Rendering a steady frame leaves it as it is. -/
theorem ExactRenderers.renderMode_steady (pure : ExactRenderers host render) (cfg : LoadedConfig T)
    {frame : ModeFrame} (steady : Steady render ctx frame) :
    ∃ view warnings next, renderMode host cfg frame ctx = (.ok (view, warnings), next) ∧
      withView frame view = frame := by
  -- Asking for capture once more adds nothing where it is set already.
  obtain ⟨emitted, called, answer, bindings, capture⟩ := steady
  obtain ⟨warnings, next, rendered⟩ := pure.renderMode_ok cfg answer
  refine ⟨_, warnings, next, rendered, ?_⟩
  have sticky : (frame.capture || called) = frame.capture := by
    cases called with
    | false => exact Bool.or_false _
    | true => rw [capture rfl, Bool.or_true]
  unfold withView
  rw [bindings, sticky]

/-- A stack as a render leaves it: bindings above the root, and no orphans. -/
structure Shaped (stack : List ModeFrame) : Prop where
  root : stack ≠ []
  bound : ∀ frame ∈ stack.tail, frame.rendered ≠ []
  linked : stack.IsChain fun parent child => orphaned parent child = false

/-- A single frame is shaped. -/
theorem Shaped.single (frame : ModeFrame) : Shaped [frame] :=
  ⟨nofun, by simp, List.isChain_singleton frame⟩

/-- A pass over steady frames keeps them all as they are. -/
theorem ExactRenderers.renderFrames_steady (pure : ExactRenderers host render)
    (cfg : LoadedConfig T) (warnings : List Effect) (below : List ModeFrame)
    {stack : List ModeFrame} (bound : ∀ frame ∈ (below ++ stack).tail, frame.rendered ≠ [])
    (linked : stack.IsChain fun parent child => orphaned parent child = false)
    (steady : ∀ frame ∈ stack, Steady render ctx frame) :
    ∃ all last, renderFrames host ctx cfg warnings below stack = (.ok all, below ++ stack, last) := by
  -- The induction is on the frames still to render; none of them is empty or orphaned.
  induction stack generalizing cfg warnings below with
  | nil => exact ⟨warnings, cfg, by rw [List.append_nil]; rfl⟩
  | cons frame above ih =>
    obtain ⟨view, local_, next, rendered, same⟩ :=
      pure.renderMode_steady cfg (steady frame List.mem_cons_self)
    have visible : (frame.rendered.isEmpty && !below.isEmpty) = false := by
      cases below with
      | nil => simp
      | cons root rest =>
        have nonempty := bound frame (by simp)
        simp [nonempty]
    unfold renderFrames
    simp only [rendered, same, visible, Bool.false_eq_true, if_false]
    cases above with
    | nil => exact ⟨_, _, rfl⟩
    | cons child rest =>
      have present : orphaned frame child = false := by
        have chain := linked
        rw [List.isChain_cons_cons] at chain
        exact chain.1
      have further := ih next (warnings ++ local_) (below ++ [frame]) (by simpa using bound)
        linked.tail fun other member => steady other (List.mem_cons_of_mem frame member)
      simp only [present, Bool.false_eq_true, if_false]
      simpa using further

/-- Frames rendered one after the other are steady. -/
theorem ExactRenderers.rendersTo_steady (pure : ExactRenderers host render)
    {cfg last : LoadedConfig T} {frames rendered : List ModeFrame}
    (renders : RendersTo host ctx cfg frames rendered last) :
    ∀ frame ∈ rendered, Steady render ctx frame := by
  -- Each frame keeps the answer it was given, so each is steady by itself.
  induction renders with
  | nil => exact fun _ member => absurd member List.not_mem_nil
  | cons answered _ ih =>
    intro frame member
    rcases List.mem_cons.mp member with rfl | above
    · exact pure.steady_withView answered
    · exact ih frame above

/-- A successful pass leaves a shaped stack of steady frames. -/
theorem ExactRenderers.renderFrames_ok (pure : ExactRenderers host render)
    {cfg last : LoadedConfig T} {warnings : List Effect} {stack result : List ModeFrame}
    (nonempty : stack ≠ [])
    (rendered : renderFrames host ctx cfg [] [] stack = (.ok warnings, result, last)) :
    Shaped result ∧ ∀ frame ∈ result, Steady render ctx frame := by
  -- What the pass keeps is rendered frame by frame, and the root is always among it.
  obtain ⟨kept, dropped, added, reached, parts, grown, renders, root, bound, linked, _⟩ :=
    renderFrames_keeps rendered (by simp) List.isChain_nil (by simp)
  rw [List.nil_append] at grown
  subst grown
  refine ⟨⟨fun empty => ?_, bound, linked⟩, pure.rendersTo_steady renders⟩
  have lengths := congrArg List.length renders.same_frames
  rw [empty] at lengths
  simp only [List.map_nil, List.length_nil, List.length_map] at lengths
  exact root rfl nonempty (List.length_eq_zero_iff.mp lengths.symm)

/-- A pass that fails leaves as many frames as it found. -/
theorem length_renderFrames_error {cfg last : LoadedConfig T} {warnings : List Effect}
    {below stack result : List ModeFrame} {error : String}
    (rendered : renderFrames host ctx cfg warnings below stack = (.error error, result, last)) :
    result.length = below.length + stack.length := by
  -- The induction is on the frames, and a failure leaves those not yet rendered in place.
  induction stack generalizing cfg warnings below with
  | nil => cases rendered
  | cons frame above ih =>
    unfold renderFrames at rendered
    split at rendered
    · cases rendered
      simp
    · simp only at rendered
      split at rendered
      · cases rendered
      · split at rendered
        · cases rendered
        · split at rendered
          · cases rendered
          · rw [ih rendered]
            simp only [List.length_append, List.length_cons, List.length_nil]
            omega

end Frames

section Recovery

variable {host : ScriptHost T} {ctx : ModeCtx}
  {render : CallbackRef → ModeCtx → Except String (List Binding × Bool)}

/-- Where callbacks always settle, a render succeeds when its pass over the frames does. -/
theorem renderStack_of_pass (settles : ∀ vm, (host.synchronizeCallbacks vm).1 = .ok ())
    {cfg reached : LoadedConfig T} {stack result : List ModeFrame} {warnings : List Effect}
    (pass : renderFrames host ctx cfg [] [] stack = (.ok warnings, result, reached)) :
    ∃ last, renderStack host cfg stack ctx =
      (.ok (renderedState cfg.baseStyle result, warnings), result, last) := by
  -- After the pass only the callbacks are settled, which does not fail here.
  have style := renderFrames_baseStyle host ctx cfg [] [] stack
  rw [pass] at style
  refine ⟨{ reached with vm := (host.synchronizeCallbacks reached.vm).2 }, ?_⟩
  unfold renderStack renderStackInner synchronizeCallbacks
  simp only [pass, settles]
  rw [← style]

/-- A failed render of a pure configuration is a failed pass over the frames. -/
theorem ExactRenderers.pass_of_error (pure : ExactRenderers host render)
    {cfg last : LoadedConfig T} {stack result : List ModeFrame} {error : String}
    (failed : renderStack host cfg stack ctx = (.error error, result, last)) :
    ∃ reached, renderFrames host ctx cfg [] [] stack = (.error error, result, reached) := by
  -- With callbacks that settle, nothing but the pass over the frames can fail.
  cases pass : renderFrames host ctx cfg [] [] stack with
  | mk outcome rest =>
    obtain ⟨frames, reached⟩ := rest
    cases outcome with
    | ok warnings =>
      obtain ⟨_, succeeded⟩ := renderStack_of_pass pure.settles pass
      rw [failed] at succeeded
      cases succeeded
    | error first =>
      unfold renderStack renderStackInner synchronizeCallbacks at failed
      simp only [pass, pure.settles] at failed
      cases failed
      exact ⟨reached, rfl⟩

/-- A root alone that fails its pass is left as it was, and its renderer fails. -/
theorem ExactRenderers.pass_error_root (pure : ExactRenderers host render)
    {cfg last : LoadedConfig T} {root : ModeFrame} {result : List ModeFrame} {error : String}
    (failed : renderFrames host ctx cfg [] [] [root] = (.error error, result, last)) :
    result = [root] ∧ render root.closure.func ctx = .error error := by
  -- The root is replaced only once its renderer has answered.
  cases answer : render root.closure.func ctx with
  | error reason =>
    obtain ⟨next, rendered⟩ := pure.renderMode_error cfg answer
    unfold renderFrames at failed
    rw [rendered] at failed
    cases failed
    exact ⟨rfl, rfl⟩
  | ok answered =>
    obtain ⟨_, _, rendered⟩ := pure.renderMode_ok cfg answer
    unfold renderFrames at failed
    simp only [rendered, List.isEmpty_nil, Bool.not_true, Bool.and_false, Bool.false_eq_true,
      if_false] at failed
    cases failed

/-- An attempt on a shaped stack of steady frames shows that stack. -/
theorem ExactRenderers.tryRender_steady (pure : ExactRenderers host render) (rt : RuntimeState T)
    (cfg : LoadedConfig T) (shaped : Shaped rt.stack)
    (steady : ∀ frame ∈ rt.stack, Steady render ctx frame) :
    ∃ warnings last, tryRender host rt cfg ctx =
      (.ok warnings, { rt with rendered := renderedState cfg.baseStyle rt.stack }, last) := by
  -- The pass over steady frames changes none of them.
  obtain ⟨all, reached, pass⟩ :=
    pure.renderFrames_steady cfg [] [] shaped.bound shaped.linked steady
  obtain ⟨last, rendered⟩ := renderStack_of_pass pure.settles pass
  unfold tryRender
  rw [rendered]
  exact ⟨all, last, rfl⟩

/-- A successful attempt leaves a shaped stack of steady frames, and shows it. -/
theorem ExactRenderers.tryRender_ok (pure : ExactRenderers host render) {rt next : RuntimeState T}
    {cfg last : LoadedConfig T} {warnings : List Effect} (nonempty : rt.stack ≠ [])
    (rendered : tryRender host rt cfg ctx = (.ok warnings, next, last)) :
    Shaped next.stack ∧ (∀ frame ∈ next.stack, Steady render ctx frame) ∧
      next.rendered = renderedState cfg.baseStyle next.stack := by
  -- A successful attempt is a successful pass followed by settling the callbacks.
  unfold tryRender at rendered
  split at rendered
  · rename_i state warned stack reached answered
    cases rendered
    obtain ⟨passed, pass, _⟩ := renderStack_ok answered
    obtain ⟨shaped, steady⟩ := pure.renderFrames_ok nonempty pass
    exact ⟨shaped, steady, (renderStack_truncates answered).2.2⟩
  · cases rendered

/-- A failed attempt leaves as many frames as before, and a root alone as it was. -/
theorem ExactRenderers.tryRender_error (pure : ExactRenderers host render)
    {rt next : RuntimeState T} {cfg last : LoadedConfig T} {error : String}
    (failed : tryRender host rt cfg ctx = (.error error, next, last)) :
    next.stack.length = rt.stack.length ∧
      ∀ root, rt.stack = [root] →
        next.stack = [root] ∧ ∃ error, render root.closure.func ctx = .error error := by
  -- A failed attempt is a failed pass, which keeps the frames it has not reached.
  unfold tryRender at failed
  split at failed
  · cases failed
  · rename_i stack reached answered
    cases failed
    obtain ⟨passed, pass⟩ := pure.pass_of_error answered
    refine ⟨?_, fun root alone => ?_⟩
    · rw [length_renderFrames_error pass]
      simp
    · rw [alone] at pass
      obtain ⟨same, answer⟩ := pure.pass_error_root pass
      exact ⟨same, error, answer⟩

/-- A runtime state as a render with recovery leaves it: it shows its stack, or nothing because its
root does not render. -/
structure Settled (render : CallbackRef → ModeCtx → Except String (List Binding × Bool))
    (style : T.Style) (rt : RuntimeState T) : Prop where
  shaped : Shaped rt.stack
  shown : rt.rendered = renderedState style rt.stack ∨ rt.rendered = emptyRendered style ∧
    rt.depth = 0 ∧ ∀ frame ∈ rt.stack, ∃ error, render frame.closure.func rt.renderCtx = .error error

/-- A list of at most one element that has one is that element alone. -/
theorem singleton_of_length_le {stack : List ModeFrame} (nonempty : stack ≠ [])
    (one : stack.length ≤ 1) : ∃ root, stack = [root] := by
  have positive := List.length_pos_iff.mpr nonempty
  exact List.length_eq_one_iff.mp (by omega)

/-- A root alone is what a reset to the root leaves. -/
theorem resetToRoot_of_single {rt : RuntimeState T} {root : ModeFrame} (alone : rt.stack = [root]) :
    rt.resetToRoot = rt := by
  have whole : rt.stack.take 1 = rt.stack := by
    rw [alone]
    rfl
  unfold RuntimeState.resetToRoot
  rw [whole]

/-- Resetting a stack to its root leaves one frame. -/
theorem take_one_of_ne_nil {stack : List ModeFrame} (nonempty : stack ≠ []) :
    ∃ root, stack.take 1 = [root] := by
  cases stack with
  | nil => exact absurd rfl nonempty
  | cons root rest => exact ⟨root, rfl⟩

/-- An attempt on a root alone that does not render changes nothing. -/
theorem ExactRenderers.tryRender_failing (pure : ExactRenderers host render) (rt : RuntimeState T)
    (cfg : LoadedConfig T) {root : ModeFrame} {error : String} (alone : rt.stack = [root])
    (answer : render root.closure.func ctx = .error error) :
    ∃ reached, tryRender host rt cfg ctx = (.error error, rt, reached) := by
  -- The root is the only frame, so its renderer's failure is the failure of the pass.
  obtain ⟨next, rendered⟩ := pure.renderMode_error cfg answer
  have pass : renderFrames host ctx cfg [] [] rt.stack = (.error error, rt.stack, next) := by
    rw [alone]
    unfold renderFrames
    rw [rendered]
    rfl
  refine ⟨{ next with vm := (host.synchronizeCallbacks next.vm).2 }, ?_⟩
  unfold tryRender renderStack renderStackInner synchronizeCallbacks
  simp only [pass, pure.settles]

/-- A failed attempt keeps everything but the stack. -/
theorem tryRender_error_frame {rt next : RuntimeState T} {cfg last : LoadedConfig T}
    {error : String} (failed : tryRender host rt cfg ctx = (.error error, next, last)) :
    next = { rt with stack := next.stack } := by
  unfold tryRender at failed
  split at failed <;> cases failed
  rfl

/-- What rendering with recovery makes of a runtime state, with the errors it reports. -/
inductive Recovered (render : CallbackRef → ModeCtx → Except String (List Binding × Bool))
    (style : T.Style) (rt after : RuntimeState T) : List String → Prop where
  /-- The stack was rendered in the context of before. -/
  | stack (shaped : Shaped after.stack)
      (steady : ∀ frame ∈ after.stack, Steady render rt.renderCtx frame)
      (shown : after.rendered = renderedState style after.stack) : Recovered render style rt after []
  /-- Only the root was rendered, at its own depth. -/
  | root (errors : List String) (failed : errors ≠ []) (shaped : Shaped after.stack)
      (bottom : after.depth = 0) (steady : ∀ frame ∈ after.stack, Steady render after.renderCtx frame)
      (shown : after.rendered = renderedState style after.stack) :
      Recovered render style rt after errors
  /-- The root does not render either, and nothing is shown. -/
  | nothing (errors : List String) (failed : errors ≠ []) (shaped : Shaped after.stack)
      (bottom : after.depth = 0)
      (failing : ∀ frame ∈ after.stack, ∃ error,
        render frame.closure.func after.renderCtx = .error error)
      (shown : after.rendered = emptyRendered style) : Recovered render style rt after errors

/-- Rendering with recovery ends in one of three ways, and keeps the style. -/
theorem ExactRenderers.recovered (pure : ExactRenderers host render) (rt : RuntimeState T)
    (cfg : LoadedConfig T) (nonempty : rt.stack ≠ []) :
    Recovered render cfg.baseStyle rt (renderStackWithRecovery host rt cfg).2.1
        (renderStackWithRecovery host rt cfg).1.2 ∧
      (renderStackWithRecovery host rt cfg).2.2.baseStyle = cfg.baseStyle := by
  have style := tryRender_baseStyle host rt cfg rt.renderCtx
  unfold renderStackWithRecovery
  simp only
  rw [show modeCtx rt.focus rt.hudVisible rt.depth = rt.renderCtx from rfl]
  cases attempted : tryRender host rt cfg rt.renderCtx with
  | mk outcome rest =>
    obtain ⟨next, after⟩ := rest
    rw [attempted] at style
    simp only at style
    cases outcome with
    | ok warnings =>
      obtain ⟨shaped, steady, shown⟩ := pure.tryRender_ok nonempty attempted
      -- The first attempt succeeds: the stack it leaves is steady.
      exact ⟨.stack shaped steady shown, style⟩
    | error first =>
      -- It fails, and the root alone is tried next, which is left in place.
      obtain ⟨lengths, _⟩ := pure.tryRender_error attempted
      have framed := tryRender_error_frame attempted
      have inhabited : next.stack ≠ [] := by
        intro empty
        rw [empty] at lengths
        exact nonempty (List.length_eq_zero_iff.mp lengths.symm)
      obtain ⟨root, alone⟩ := take_one_of_ne_nil inhabited
      have rooted : next.resetToRoot.stack = [root] := alone
      have again := tryRender_baseStyle host next.resetToRoot after
        { rt.renderCtx with depth := 0 }
      have short := length_tryRender_le host next.resetToRoot after { rt.renderCtx with depth := 0 }
      have reframed := @tryRender_frame _ host next.resetToRoot after
        { rt.renderCtx with depth := 0 }
      simp only
      cases retried : tryRender host next.resetToRoot after { rt.renderCtx with depth := 0 } with
      | mk outcome rest =>
        obtain ⟨last, reached⟩ := rest
        rw [retried] at again short reframed
        simp only [rooted, List.length_singleton] at again short reframed
        rw [style] at again
        have bottom : last.depth = 0 := by
          simp only [RuntimeState.depth]
          omega
        -- The second attempt was made in the context that is the root's own.
        have here : last.renderCtx = { rt.renderCtx with depth := 0 } := by
          unfold RuntimeState.renderCtx modeCtx
          rw [bottom, reframed, framed]
          rfl
        cases outcome with
        | ok warnings =>
          obtain ⟨shaped, steady, shown⟩ := pure.tryRender_ok (by rw [rooted]; nofun) retried
          rw [← here] at steady
          rw [style] at shown
          exact ⟨.root [first] nofun shaped bottom steady shown, again⟩
        | error second =>
          obtain ⟨_, lonely⟩ := pure.tryRender_error retried
          obtain ⟨kept, error, answer⟩ := lonely root rooted
          -- The root fails as well, and nothing is shown.
          refine ⟨.nothing [first, second] nofun (kept ▸ .single root) bottom ?_ ?_, again⟩
          · intro frame member
            rw [show frame = root by simpa [kept] using member]
            refine ⟨error, ?_⟩
            rw [← here] at answer
            exact answer
          · show emptyRendered reached.baseStyle = _
            rw [again]

/-- A runtime state whose next render under the same context gives what it shows: every frame is
steady at the depth it is at, or the root shows nothing and does not render. -/
def Resting (render : CallbackRef → ModeCtx → Except String (List Binding × Bool))
    (rt : RuntimeState T) : Prop :=
  (∀ frame ∈ rt.stack, Steady render rt.renderCtx frame) ∨
    rt.depth = 0 ∧ (∀ frame ∈ rt.stack, ∃ error, render frame.closure.func rt.renderCtx =
      .error error) ∧ rt.rendered.bindings = [] ∧ rt.rendered.capture = false

/-- What rendering with recovery leaves is settled. -/
theorem Recovered.settled {style : T.Style} {rt after : RuntimeState T} {errors : List String}
    (recovered : Recovered render style rt after errors) : Settled render style after := by
  cases recovered with
  | stack shaped _ shown => exact ⟨shaped, .inl shown⟩
  | root _ _ shaped _ _ shown => exact ⟨shaped, .inl shown⟩
  | nothing _ _ shaped bottom failing shown => exact ⟨shaped, .inr ⟨shown, bottom, failing⟩⟩

/-- A render that drops no frame, or that had to recover, leaves a state at rest. -/
theorem Recovered.resting {style : T.Style} {rt after : RuntimeState T} {errors : List String}
    (recovered : Recovered render style rt after errors)
    (whole : after.renderCtx = rt.renderCtx ∨ errors ≠ []) : Resting render after := by
  -- The three ways a render ends: the whole stack, the root alone, or nothing shown.
  cases recovered with
  | stack _ steady _ =>
    rcases whole with same | failed
    · rw [← same] at steady
      exact .inl steady
    · exact absurd rfl failed
  | root _ _ _ _ steady _ => exact .inl steady
  | nothing _ _ _ bottom failing shown =>
    exact .inr ⟨bottom, failing, by rw [shown]; rfl, by rw [shown]; rfl⟩

/-- A render that leaves the context, the stack and what is shown as they were found a state at
rest. -/
theorem Recovered.rested {style : T.Style} {rt after : RuntimeState T} {errors : List String}
    (recovered : Recovered render style rt after errors) (ctx : after.renderCtx = rt.renderCtx)
    (stack : after.stack = rt.stack) (shown : after.rendered = rt.rendered) :
    Resting render rt := by
  -- The depth is that of the stack, which did not change, so the context did not either.
  have resting := recovered.resting (.inl ctx)
  have depth : after.depth = rt.depth := by
    unfold RuntimeState.depth
    rw [stack]
  unfold Resting at resting ⊢
  rwa [ctx, stack, shown, depth] at resting

/-- A settled state without bindings and without capture shows nothing. -/
theorem Settled.hollow {style : T.Style} {rt : RuntimeState T}
    (settled : Settled render style rt) (unbound : rt.rendered.bindings = [])
    (open_ : rt.rendered.capture = false) : rt.rendered = emptyRendered style := by
  -- A state that shows its stack shows no bindings, or it already shows nothing.
  rcases settled.shown with shown | ⟨shown, _⟩
  · rw [shown] at unbound open_ ⊢
    simp only [renderedState] at unbound open_ ⊢
    rw [unbound, open_]
    rfl
  · exact shown

/-- Rendering a settled state that rests changes nothing. -/
theorem ExactRenderers.recovery_same (pure : ExactRenderers host render) {rt : RuntimeState T}
    {cfg : LoadedConfig T} (settled : Settled render cfg.baseStyle rt)
    (resting : Resting render rt) : (renderStackWithRecovery host rt cfg).2.1 = rt := by
  rcases resting with steady | ⟨bottom, failing, unbound, open_⟩
  · -- A steady stack renders to itself, and it is what the state shows.
    obtain ⟨warnings, last, rendered⟩ := pure.tryRender_steady rt cfg settled.shaped steady
    have shown : rt.rendered = renderedState cfg.baseStyle rt.stack := by
      rcases settled.shown with shown | ⟨_, _, failing⟩
      · exact shown
      · obtain ⟨root, member⟩ := List.exists_mem_of_ne_nil _ settled.shaped.root
        obtain ⟨error, refused⟩ := failing root member
        obtain ⟨_, _, answer, _⟩ := steady root member
        rw [answer] at refused
        cases refused
    unfold renderStackWithRecovery
    simp only
    rw [show modeCtx rt.focus rt.hudVisible rt.depth = rt.renderCtx from rfl, rendered, ← shown]
  · -- The root fails alone, and fails again when it is tried as the root.
    have one : rt.stack.length ≤ 1 := by
      simp only [RuntimeState.depth] at bottom
      omega
    obtain ⟨root, alone⟩ := singleton_of_length_le settled.shaped.root one
    obtain ⟨error, answer⟩ := failing root (by rw [alone]; exact List.mem_singleton.mpr rfl)
    -- Both attempts are made in the same context, as the root is at depth zero already.
    have here : rt.renderCtx = { rt.renderCtx with depth := 0 } := by
      unfold RuntimeState.renderCtx modeCtx
      rw [bottom]
    obtain ⟨reached, first⟩ := pure.tryRender_failing rt cfg alone answer
    obtain ⟨last, second⟩ := pure.tryRender_failing rt reached alone answer
    have style := tryRender_baseStyle host rt cfg rt.renderCtx
    have style' := tryRender_baseStyle host rt reached rt.renderCtx
    rw [first] at style
    rw [second] at style'
    simp only at style style'
    unfold renderStackWithRecovery
    simp only
    rw [show modeCtx rt.focus rt.hudVisible rt.depth = rt.renderCtx from rfl, first]
    simp only
    rw [resetToRoot_of_single alone, ← here, second]
    simp only [style', style]
    rw [← settled.hollow unbound open_]

/-- A frame's bindings and the rendered bindings without handles, and everything else. -/
def RuntimeState.bare (rt : RuntimeState T) : RuntimeState T :=
  { rt with stack := rt.stack.map ModeFrame.bare, rendered := rt.rendered.bare }

/-- Dropping handles leaves the context a state is rendered in. -/
theorem RuntimeState.renderCtx_bare (rt : RuntimeState T) : rt.bare.renderCtx = rt.renderCtx := by
  unfold RuntimeState.renderCtx RuntimeState.depth RuntimeState.bare
  rw [List.length_map]

/-- The functions of pure renderers are exactly the renderers of their own host. -/
theorem exact_rendererHost (render : CallbackRef → ModeCtx → Except String (List Binding × Bool)) :
    ExactRenderers (rendererHost render : ScriptHost T) render :=
  ⟨fun _ _ _ => rfl, fun _ => rfl⟩

/-- An attempt makes of a bare state what it makes of the state, without handles. -/
theorem tryRender_bare (pure : PureRenderers host render) (rt : RuntimeState T)
    (cfg other : LoadedConfig T) (style : other.baseStyle = cfg.baseStyle) :
    ((tryRender (rendererHost render) rt.bare other ctx).1.map fun _ => ()) =
        ((tryRender host rt cfg ctx).1.map fun _ => ()) ∧
      (tryRender (rendererHost render) rt.bare other ctx).2.1 =
        (tryRender host rt cfg ctx).2.1.bare := by
  -- Both attempts meet the same answers, so they succeed or fail together.
  obtain ⟨outcome, stack⟩ := @renderStack_bare _ host ctx render pure cfg other style rt.stack
  unfold tryRender
  show _ = _ ∧ _
  cases passed : renderStack host cfg rt.stack ctx with
  | mk result rest =>
    obtain ⟨frames, last⟩ := rest
    cases bare : renderStack (rendererHost render) other (rt.stack.map ModeFrame.bare) ctx with
    | mk result' rest' =>
      obtain ⟨frames', last'⟩ := rest'
      rw [passed, bare] at outcome stack
      simp only at outcome stack
      rw [show rt.bare.stack = rt.stack.map ModeFrame.bare from rfl, bare]
      cases result with
      | error error =>
        cases result' with
        | error error' =>
          cases outcome
          exact ⟨rfl, by rw [stack]; rfl⟩
        | ok rendered => cases outcome
      | ok rendered =>
        cases result' with
        | error error' => cases outcome
        | ok rendered' =>
          have state : rendered'.1 = rendered.1.bare := Except.ok.inj outcome
          refine ⟨rfl, ?_⟩
          simp only [state, stack]
          rfl

/-- Recovery makes of a bare state what it makes of the state, with the same errors. -/
theorem renderStackWithRecovery_bare (pure : PureRenderers host render) (rt : RuntimeState T)
    (cfg other : LoadedConfig T) (style : other.baseStyle = cfg.baseStyle) :
    (renderStackWithRecovery (rendererHost render) rt.bare other).1.2 =
        (renderStackWithRecovery host rt cfg).1.2 ∧
      (renderStackWithRecovery (rendererHost render) rt.bare other).2.1 =
        (renderStackWithRecovery host rt cfg).2.1.bare := by
  -- The handles do not decide whether an attempt succeeds, nor what it leaves but for them.
  obtain ⟨outcome, left⟩ := @tryRender_bare _ host rt.renderCtx render pure rt cfg other style
  have kept := tryRender_baseStyle host rt cfg rt.renderCtx
  have kept' := tryRender_baseStyle (rendererHost render) rt.bare other rt.renderCtx
  have here := rt.renderCtx_bare
  unfold RuntimeState.renderCtx at here outcome left kept kept'
  unfold renderStackWithRecovery
  simp only [here]
  cases first : tryRender host rt cfg (modeCtx rt.focus rt.hudVisible rt.depth) with
  | mk result rest =>
    obtain ⟨next, after⟩ := rest
    cases bare : tryRender (rendererHost render) rt.bare other
        (modeCtx rt.focus rt.hudVisible rt.depth) with
    | mk result' rest' =>
      obtain ⟨next', after'⟩ := rest'
      rw [first, bare] at outcome left
      rw [first] at kept
      rw [bare] at kept'
      simp only at outcome left kept kept'
      cases result with
      | ok warnings =>
        cases result' with
        | ok warnings' => exact ⟨rfl, left⟩
        | error error => cases outcome
      | error error =>
        cases result' with
        | ok warnings' => cases outcome
        | error error' =>
          have same : error' = error := Except.error.inj outcome
          subst same
          -- The root alone is tried next, on both sides.
          have rooted : next'.resetToRoot = next.resetToRoot.bare := by
            rw [left]
            unfold RuntimeState.resetToRoot RuntimeState.bare
            rw [List.map_take]
          have styles : after'.baseStyle = after.baseStyle := by rw [kept', kept, style]
          obtain ⟨again, reached⟩ := @tryRender_bare _ host
            { modeCtx rt.focus rt.hudVisible rt.depth with depth := 0 } render pure
            next.resetToRoot after after' styles
          simp only [rooted]
          cases second : tryRender host next.resetToRoot after
              { modeCtx rt.focus rt.hudVisible rt.depth with depth := 0 } with
          | mk result rest =>
            obtain ⟨last, final⟩ := rest
            cases bare' : tryRender (rendererHost render) next.resetToRoot.bare after'
                { modeCtx rt.focus rt.hudVisible rt.depth with depth := 0 } with
            | mk result' rest' =>
              obtain ⟨last', final'⟩ := rest'
              have base := tryRender_baseStyle host next.resetToRoot after
                { modeCtx rt.focus rt.hudVisible rt.depth with depth := 0 }
              have base' := tryRender_baseStyle (rendererHost render) next.resetToRoot.bare after'
                { modeCtx rt.focus rt.hudVisible rt.depth with depth := 0 }
              rw [second, bare'] at again reached
              rw [second] at base
              rw [bare'] at base'
              simp only at again reached base base'
              cases result with
              | ok warnings =>
                cases result' with
                | ok warnings' => exact ⟨rfl, reached⟩
                | error error => cases again
              | error error =>
                cases result' with
                | ok warnings' => cases again
                | error error' =>
                  have same : error' = error := Except.error.inj again
                  subst same
                  refine ⟨rfl, ?_⟩
                  simp only [reached, base', styles, base]
                  rfl

end Recovery

/-- The pairs a runtime state should have registered. -/
def RuntimeState.keyPairs (rt : RuntimeState T) : List (String × Chord) :=
  if rt.selector.isSome then selectorKeyPairs else bindingKeyPairs rt.rendered.bindings

/-- Whether a runtime state should capture every key. -/
def RuntimeState.capturesAll (rt : RuntimeState T) : Bool :=
  rt.selector.isSome || rt.hudVisible && rt.rendered.capture

/-- The pairs to register are those of chords, whatever the handles. -/
theorem RuntimeState.keyPairs_bare (rt : RuntimeState T) : rt.bare.keyPairs = rt.keyPairs := by
  unfold RuntimeState.keyPairs RuntimeState.bare RenderedState.bare bindingKeyPairs
  simp only [List.map_map]
  rfl

/-- The HUD shows no handles. -/
theorem RuntimeState.hudState_bare (rt : RuntimeState T) : rt.bare.hudState = rt.hudState := by
  unfold RuntimeState.hudState RuntimeState.depth RuntimeState.breadcrumbs RuntimeState.bare
  simp only [List.length_map, RenderedState.bare, ← List.map_drop, List.map_map]
  rfl

/-- A plan binds, captures and shows what the state it leaves should. -/
theorem buildRefreshPlan_binds (host : ScriptHost T) (style : T.Style) (rt : RuntimeState T)
    (config : Option (LoadedConfig T)) (focus : Option FocusSnapshot) :
    let after := (buildRefreshPlan host style rt config focus).2.1
    (buildRefreshPlan host style rt config focus).1.keyPairs = after.keyPairs ∧
      (buildRefreshPlan host style rt config focus).1.captureAll = after.capturesAll := by
  -- The cases are whether a config is loaded and whether a selector is open.
  cases config with
  | none =>
    simp [buildRefreshPlan, RuntimeState.clearConfigState, RuntimeState.keyPairs,
      RuntimeState.capturesAll, emptyRendered, bindingKeyPairs]
  | some cfg =>
    intro after
    have framed := @renderStackWithRecovery_frame _ host
      { rt with focus := rt.contextWindow focus, stack := ensureStack cfg rt.stack } cfg
    cases chosen : rt.selector with
    | some selector =>
      simp [after, buildRefreshPlan, buildLoadedRefreshPlan, RuntimeState.keyPairs,
        RuntimeState.capturesAll, chosen]
    | none =>
      simp only [after, buildRefreshPlan, buildLoadedRefreshPlan, RuntimeState.keyPairs,
        RuntimeState.capturesAll, chosen, Option.isSome_none, Bool.false_eq_true, if_false]
      have closed : (renderStackWithRecovery host { rt with
          focus := rt.contextWindow focus, stack := ensureStack cfg rt.stack } cfg).2.1.selector =
            none := by
        rw [framed]
        exact chosen
      simp only [chosen] at closed
      simp [closed]

namespace Core

variable {host : Host T} {render : CallbackRef → ModeCtx → Except String (List Binding × Bool)}

/-- What a refresh leaves alone when it changes nothing of what is rendered, bound or shown, but for
the handles of the functions that bindings retain. -/
structure Unchanged (before after : Core T) : Prop where
  stack : after.runtime.stack.map ModeFrame.bare = before.runtime.stack.map ModeFrame.bare
  rendered : after.runtime.rendered.bare = before.runtime.rendered.bare
  manager : after.manager = before.manager
  hud : after.runtime.hudState = before.runtime.hudState

/-- The registered chords and the capture flag are those the runtime state asks for. -/
structure Synced (host : Host T) (core : Core T) : Prop where
  chords : ∀ ident, core.manager.chordForIdent ident =
    (HashMap.collect core.runtime.keyPairs).lookup ident
  capture : core.manager.setCaptureAll host.hotkeys core.runtime.capturesAll = core.manager

/-- Asking for the same capture state twice is asking once. -/
theorem setCaptureAll_again (hotkeys : HotkeyApi T.Api EngineError)
    (manager : KeyBindingManager T.Api) (active : Bool) :
    (manager.setCaptureAll hotkeys active).setCaptureAll hotkeys active =
      manager.setCaptureAll hotkeys active := by
  cases active <;> cases guard : manager.captureGuard <;>
    simp [KeyBindingManager.setCaptureAll, guard]

/-- A refresh whose update succeeds leaves its plan in place, behind the updated bindings. -/
theorem rebindAndRefresh_updated {core : Core T} {focus : Option FocusSnapshot} {changed : Bool}
    {manager : KeyBindingManager T.Api} (ready : core.tally.uiReady host = true)
    (updated : core.manager.updateBindings host.hotkeys (host.order core.tally.tally.readings)
      (core.firstPlan host focus).1.keyPairs = (.ok changed, manager)) :
    ∃ mid, core.rebindAndRefresh host focus = (.ok changed, mid) ∧
      mid.runtime = (core.firstPlan host focus).2.1 ∧
      mid.config = (core.firstPlan host focus).2.2 ∧
      mid.manager = manager.setCaptureAll host.hotkeys (core.firstPlan host focus).1.captureAll := by
  -- The diagnostics touch only the UI channel.
  obtain ⟨more, readings, framed⟩ := @deliverRefreshDiagnostics_frame _ host
    (({ core.tally.tally.tally with
        manager := manager.setCaptureAll host.hotkeys (core.firstPlan host focus).1.captureAll
        runtime := (core.firstPlan host focus).2.1
        config := (core.firstPlan host focus).2.2
        displaySnapshot := host.displays core.readings } : Core T).post
      (.hudUpdate (core.firstPlan host focus).1.hud (host.displays core.readings)))
    (core.firstPlan host focus).1.errors (core.firstPlan host focus).1.warnings
  refine ⟨_, ?_, congrArg Core.runtime framed, congrArg Core.config framed,
    congrArg Core.manager framed⟩
  have answered : core.tally.tally.manager.updateBindings host.hotkeys
      (host.order core.tally.tally.readings) (buildRefreshPlan host.script host.defaultStyle
        core.tally.runtime core.tally.config focus).1.keyPairs = (.ok changed, manager) := updated
  unfold rebindAndRefresh
  simp only [ready, if_true, answered]
  rfl

/-- A successful refresh leaves its plan in place, with its chords registered. -/
theorem rebindAndRefresh_ok {core mid : Core T} {focus : Option FocusSnapshot} {changed : Bool}
    (refreshed : core.rebindAndRefresh host focus = (.ok changed, mid)) :
    mid.runtime = (core.firstPlan host focus).2.1 ∧ mid.config = (core.firstPlan host focus).2.2 ∧
      mid.Synced host := by
  -- The refresh got past the UI and past the registrations, so its plan stands.
  have planned := buildRefreshPlan_binds host.script host.defaultStyle core.runtime core.config focus
  cases ready : core.tally.uiReady host with
  | false =>
    rw [rebindAndRefresh_unready ready] at refreshed
    cases refreshed
  | true =>
    cases updated : core.manager.updateBindings host.hotkeys (host.order core.tally.tally.readings)
        (core.firstPlan host focus).1.keyPairs with
    | mk outcome manager =>
      cases outcome with
      | error error =>
        have answered : core.tally.tally.manager.updateBindings host.hotkeys
            (host.order core.tally.tally.readings) (buildRefreshPlan host.script host.defaultStyle
              core.tally.runtime core.tally.config focus).1.keyPairs = (.error error, manager) :=
          updated
        unfold rebindAndRefresh at refreshed
        simp only [ready, if_true, answered] at refreshed
        cases refreshed
      | ok bound =>
        obtain ⟨next, result, runtime, config, kept⟩ := rebindAndRefresh_updated ready updated
        rw [refreshed] at result
        cases result
        have captures : (core.firstPlan host focus).1.captureAll = mid.runtime.capturesAll := by
          rw [runtime]
          exact planned.2
        have pairs : (core.firstPlan host focus).1.keyPairs = mid.runtime.keyPairs := by
          rw [runtime]
          exact planned.1
        refine ⟨runtime, config, ⟨fun ident => ?_, ?_⟩⟩
        · rw [kept, KeyBindingManager.chordForIdent_setCaptureAll, ← pairs]
          exact KeyBindingManager.updateBindings_ok updated ident
        · rw [kept, captures]
          exact setCaptureAll_again host.hotkeys manager _

/-- A refresh whose plan shows what a synced state shows already changes nothing. -/
theorem Synced.unchanged {core : Core T} {focus : Option FocusSnapshot} (synced : core.Synced host)
    (stack : (core.firstPlan host focus).2.1.stack.map ModeFrame.bare =
      core.runtime.stack.map ModeFrame.bare)
    (rendered : (core.firstPlan host focus).2.1.rendered.bare = core.runtime.rendered.bare)
    (hud : (core.firstPlan host focus).2.1.hudVisible = core.runtime.hudVisible)
    (selector : (core.firstPlan host focus).2.1.selector = core.runtime.selector) :
    Unchanged core (core.rebindAndRefresh host focus).2 := by
  -- The second plan asks for what is registered, captured and shown already.
  have planned := buildRefreshPlan_binds host.script host.defaultStyle core.runtime core.config focus
  have pairs : (core.firstPlan host focus).1.keyPairs = core.runtime.keyPairs := by
    refine planned.1.trans ?_
    show (core.firstPlan host focus).2.1.keyPairs = _
    rw [← RuntimeState.keyPairs_bare, ← core.runtime.keyPairs_bare]
    unfold RuntimeState.keyPairs RuntimeState.bare
    simp only [selector, rendered]
  have captures : (core.firstPlan host focus).1.captureAll = core.runtime.capturesAll := by
    refine planned.2.trans ?_
    show (core.firstPlan host focus).2.1.capturesAll = _
    have bare : (core.firstPlan host focus).2.1.rendered.bare.capture =
        core.runtime.rendered.bare.capture := by rw [rendered]
    have capture : (core.firstPlan host focus).2.1.rendered.capture =
      core.runtime.rendered.capture := bare
    unfold RuntimeState.capturesAll
    rw [selector, capture, hud]
  have shown : (core.firstPlan host focus).2.1.hudState = core.runtime.hudState := by
    rw [← RuntimeState.hudState_bare, ← core.runtime.hudState_bare]
    unfold RuntimeState.hudState RuntimeState.depth RuntimeState.breadcrumbs RuntimeState.bare
    simp only [stack, rendered, hud]
  -- Without a UI nothing is sent, and with one the three comparisons find no difference.
  cases ready : core.tally.uiReady host with
  | false =>
    rw [rebindAndRefresh_unready ready]
    exact ⟨rfl, rfl, rfl, rfl⟩
  | true =>
    have matched : core.manager.updateBindings host.hotkeys (host.order core.tally.tally.readings)
        (core.firstPlan host focus).1.keyPairs = (.ok false, core.manager) :=
      KeyBindingManager.updateBindings_of_match fun ident => by rw [pairs]; exact synced.chords ident
    obtain ⟨next, answered, runtime, _, kept⟩ := rebindAndRefresh_updated ready matched
    rw [answered]
    rw [captures, synced.capture] at kept
    exact ⟨by rw [runtime]; exact stack, by rw [runtime]; exact rendered, kept,
      by rw [runtime]; exact shown⟩

/-- The runtime state a refresh renders: the root is in place, the window is the context's. -/
def rendering (core : Core T) (cfg : LoadedConfig T) (focus : Option FocusSnapshot) :
    RuntimeState T :=
  { core.runtime with
    focus := core.runtime.contextWindow focus, stack := ensureStack cfg core.runtime.stack }

/-- Without a selector, a plan is a render with recovery. -/
theorem firstPlan_closed {core : Core T} {cfg : LoadedConfig T} {focus : Option FocusSnapshot}
    (loaded : core.config = some cfg) (closed : core.runtime.selector = none) :
    (core.firstPlan host focus).2.1 =
        (renderStackWithRecovery host.script (core.rendering cfg focus) cfg).2.1 ∧
      (core.firstPlan host focus).2.2 =
        some (renderStackWithRecovery host.script (core.rendering cfg focus) cfg).2.2 := by
  -- A closed selector leaves the plan to the stack alone.
  unfold firstPlan buildRefreshPlan
  rw [loaded]
  simp only [buildLoadedRefreshPlan, closed, Option.isSome_none, Bool.false_eq_true, if_false]
  unfold rendering
  rw [← closed]
  exact ⟨rfl, rfl⟩

/-- Under a selector, a plan leaves everything in place. -/
theorem firstPlan_open {core : Core T} {cfg : LoadedConfig T} {focus : Option FocusSnapshot}
    (loaded : core.config = some cfg) (open_ : core.runtime.selector ≠ none) :
    (core.firstPlan host focus).2.1 = core.rendering cfg focus ∧
      (core.firstPlan host focus).2.2 = some cfg := by
  unfold firstPlan buildRefreshPlan
  rw [loaded]
  simp only [buildLoadedRefreshPlan, Option.isSome_iff_ne_none.mpr open_, if_true]
  exact ⟨rfl, trivial⟩

/-- A successful refresh without a selector leaves what rendering with recovery does, to be rendered
as it is. -/
theorem rendering_settled (pure : PureRenderers host.script render) {core mid : Core T}
    {cfg : LoadedConfig T} {focus : Option FocusSnapshot} {changed : Bool}
    (loaded : core.config = some cfg) (closed : core.runtime.selector = none)
    (refreshed : core.rebindAndRefresh host focus = (.ok changed, mid)) :
    ∃ next, mid.config = some next ∧ mid.runtime.selector = none ∧
      next.baseStyle = cfg.baseStyle ∧ mid.rendering next focus = mid.runtime ∧
      mid.runtime = (renderStackWithRecovery host.script (core.rendering cfg focus) cfg).2.1 ∧
      Recovered render cfg.baseStyle (core.rendering cfg focus).bare mid.runtime.bare
        (renderStackWithRecovery host.script (core.rendering cfg focus) cfg).1.2 := by
  -- The bare renders take the place of the real ones, whose handles are all that differs.
  obtain ⟨runtime, config, _⟩ := rebindAndRefresh_ok refreshed
  obtain ⟨plan, after⟩ := @firstPlan_closed _ host core cfg focus loaded closed
  rw [plan] at runtime
  rw [after] at config
  have rooted := ensureStack_ne_nil cfg core.runtime.stack
  obtain ⟨errors, bare⟩ := renderStackWithRecovery_bare pure (core.rendering cfg focus) cfg cfg rfl
  obtain ⟨recovered, _⟩ := (exact_rendererHost render).recovered (core.rendering cfg focus).bare cfg
    (by simpa [RuntimeState.bare, rendering] using rooted)
  rw [errors, bare, ← runtime] at recovered
  have framed := @renderStackWithRecovery_frame _ host.script (core.rendering cfg focus) cfg
  rw [← runtime] at framed
  have focused : mid.runtime.contextWindow focus = mid.runtime.focus := by
    rw [framed]
    rfl
  have inhabited : mid.runtime.stack ≠ [] := by
    intro empty
    apply recovered.settled.shaped.root
    show mid.runtime.stack.map ModeFrame.bare = []
    rw [empty]
    rfl
  refine ⟨_, config, by rw [framed]; exact closed, ?_, ?_, runtime, recovered⟩
  · exact renderStackWithRecovery_baseStyle host.script (core.rendering cfg focus) cfg
  · unfold rendering
    rw [focused, ensureStack_of_ne_nil _ inhabited]

/-- The renderer of a frame gives the same in two contexts, but for the handles it retains. -/
def Agrees (render : CallbackRef → ModeCtx → Except String (List Binding × Bool))
    (before after : ModeCtx) (frame : ModeFrame) : Prop :=
  ∃ emitted asks again asksAgain, render frame.closure.func before = .ok (emitted, asks) ∧
    render frame.closure.func after = .ok (again, asksAgain) ∧
    firsts chordText again = firsts chordText emitted ∧
    -- A frame that captures goes on capturing.
    (asksAgain = true → frame.capture = true ∨ asks = true)

/-- A root that gives nothing in a context, and does not render at all at its own depth. -/
def Hollow (render : CallbackRef → ModeCtx → Except String (List Binding × Bool)) (ctx : ModeCtx)
    (root : ModeFrame) : Prop :=
  root.capture = false ∧ render root.closure.func ctx = .ok ([], false) ∧
    ∃ error, render root.closure.func { ctx with depth := 0 } = .error error

/--
Whether a stack can lose frames to a render without a trace: whatever lower part of it the renderers
keep while they drop a frame above, they give at the depth that is left what they give at the depth
of the whole stack, or only a root is left that shows nothing in either case.
-/
def Steadfast (host : ScriptHost T)
    (render : CallbackRef → ModeCtx → Except String (List Binding × Bool)) (rt : RuntimeState T)
    (cfg : LoadedConfig T) : Prop :=
  ∀ shown kept dropped reached,
    KeepsPrefix host rt.renderCtx cfg rt.stack shown kept dropped reached → dropped ≠ [] →
    (∀ frame ∈ kept,
      Agrees render rt.renderCtx { rt.renderCtx with depth := kept.length - 1 } frame) ∨
    ∃ root, kept = [root] ∧ Hollow render rt.renderCtx root

/-- What a frame renders to, without handles, is what its renderer answers. -/
theorem renderMode_answer (pure : PureRenderers host.script render) {cfg next : LoadedConfig T}
    {frame : ModeFrame} {view : ModeView} {warnings : List Effect} {ctx : ModeCtx}
    (rendered : renderMode host.script cfg frame ctx = (.ok (view, warnings), next)) :
    ∃ emitted asks, render frame.closure.func ctx = .ok (emitted, asks) ∧
      view.bare = ⟨firsts chordText emitted, frame.capture || asks⟩ := by
  -- The bare render answers what the renderer answers, and the frame's view is that without
  -- handles.
  obtain ⟨_, _, bare⟩ := renderMode_bare pure rendered cfg
  cases answer : render frame.closure.func ctx with
  | error error =>
    obtain ⟨_, failed⟩ := (exact_rendererHost render).renderMode_error cfg
      (show render frame.bare.closure.func ctx = _ from answer)
    rw [bare] at failed
    cases failed
  | ok answered =>
    obtain ⟨emitted, asks⟩ := answered
    obtain ⟨_, _, again⟩ := (exact_rendererHost render).renderMode_ok cfg
      (show render frame.bare.closure.func ctx = _ from answer)
    rw [bare] at again
    exact ⟨emitted, asks, rfl, (Prod.mk.inj (Except.ok.inj (Prod.mk.inj again).1)).1⟩

/-- A frame just rendered is steady in another context just if its renderer agrees there. -/
theorem steady_withView (pure : PureRenderers host.script render) {cfg next : LoadedConfig T}
    {frame : ModeFrame} {view : ModeView} {warnings : List Effect} {ctx : ModeCtx}
    (rendered : renderMode host.script cfg frame ctx = (.ok (view, warnings), next))
    (other : ModeCtx) :
    Steady render other (withView frame view).bare ↔ Agrees render ctx other frame := by
  -- Steadiness compares the view the frame was given with what the renderer answers there.
  obtain ⟨emitted, asks, answer, same⟩ := renderMode_answer pure rendered
  have bindings : (withView frame view).bare.rendered = firsts chordText emitted :=
    congrArg ModeView.bindings same
  have capture : (withView frame view).bare.capture = (frame.capture || asks) :=
    congrArg ModeView.capture same
  unfold Steady Agrees
  rw [bindings, capture]
  constructor
  · rintro ⟨emitted', asks', answer', same', captures⟩
    exact ⟨emitted, asks, emitted', asks', answer, answer', same', by simpa using captures⟩
  · rintro ⟨emitted', asks', again, asksAgain, answer', answerAgain, same', captures⟩
    cases answer.symm.trans answer'
    exact ⟨again, asksAgain, answerAgain, same', by simpa using captures⟩

/-- Frames just rendered are steady in another context just if their renderers agree there. -/
theorem steady_rendersTo (pure : PureRenderers host.script render) {cfg last : LoadedConfig T}
    {kept shown : List ModeFrame} {ctx : ModeCtx}
    (renders : RendersTo host.script ctx cfg kept shown last) (other : ModeCtx) :
    (∀ frame ∈ shown.map ModeFrame.bare, Steady render other frame) ↔
      ∀ frame ∈ kept, Agrees render ctx other frame := by
  -- The induction is on the rendered frames, each compared in the other context.
  induction renders with
  | nil => simp
  | cons answered _ ih =>
    simp only [List.map_cons, List.forall_mem_cons]
    rw [ih, steady_withView pure answered]

/-- A frame rendered alone is that frame with its view. -/
theorem rendersTo_single {script : ScriptHost T} {cfg last : LoadedConfig T} {root : ModeFrame}
    {shown : List ModeFrame} {ctx : ModeCtx}
    (renders : RendersTo script ctx cfg [root] shown last) :
    ∃ view warnings, renderMode script cfg root ctx = (.ok (view, warnings), last) ∧
      shown = [withView root view] := by
  -- One frame, one render, and then the end.
  cases renders with
  | cons answered rest =>
    cases rest
    exact ⟨_, _, answered, rfl⟩

/-- A successful first attempt keeps a prefix of the stack and shows it. -/
theorem rendering_kept {rt next : RuntimeState T} {cfg last : LoadedConfig T}
    {warnings : List Effect}
    (attempted : tryRender host.script rt cfg rt.renderCtx = (.ok warnings, next, last)) :
    (∃ kept dropped reached,
      KeepsPrefix host.script rt.renderCtx cfg rt.stack next.stack kept dropped reached) ∧
      next = { rt with
        stack := next.stack, rendered := renderedState cfg.baseStyle next.stack } := by
  -- The first attempt succeeded, so the frames it shows are those it kept.
  unfold tryRender at attempted
  split at attempted
  · rename_i answered
    cases attempted
    obtain ⟨keeps, _, shown⟩ := renderStack_truncates answered
    exact ⟨keeps, by rw [← shown]⟩
  · cases attempted

/-- The context a state is rendered in after its stack lost frames. -/
theorem renderCtx_shrunk {rt : RuntimeState T} {stack : List ModeFrame}
    (rendered : RenderedState T) :
    ({ rt with stack, rendered } : RuntimeState T).renderCtx =
      { rt.renderCtx with depth := stack.length - 1 } := rfl

/-- A steadfast stack is at rest once it is rendered. -/
theorem Steadfast.resting (pure : PureRenderers host.script render) {rt : RuntimeState T}
    {cfg : LoadedConfig T} (steadfast : Steadfast host.script render rt cfg)
    (recovered : Recovered render cfg.baseStyle rt.bare
      (renderStackWithRecovery host.script rt cfg).2.1.bare
      (renderStackWithRecovery host.script rt cfg).1.2) :
    Resting render (renderStackWithRecovery host.script rt cfg).2.1.bare := by
  -- A first attempt that fails ends in recovery, which leaves a state at rest.
  cases attempted : tryRender host.script rt cfg rt.renderCtx with
  | mk outcome rest =>
    obtain ⟨next, last⟩ := rest
    cases outcome with
    | error error => exact recovered.resting (.inr (renderStackWithRecovery_errors attempted))
    | ok warnings =>
      rw [renderStackWithRecovery_first attempted] at recovered ⊢
      obtain ⟨⟨kept, dropped, reached, keeps⟩, shown⟩ := rendering_kept attempted
      have lengths := congrArg List.length keeps.renders.same_frames
      simp only [List.length_map] at lengths
      -- The context the stack will be rendered in next has the depth that is left now.
      have ctx : next.bare.renderCtx = { rt.renderCtx with depth := kept.length - 1 } := by
        rw [RuntimeState.renderCtx_bare, shown, renderCtx_shrunk, lengths]
      by_cases whole : dropped = []
      · -- Nothing was dropped, so the stack is rendered in the context it will be rendered in.
        refine recovered.resting (.inl ?_)
        rw [ctx, RuntimeState.renderCtx_bare]
        have same : kept = rt.stack := by rw [keeps.split, whole, List.append_nil]
        rw [same]
        rfl
      · rcases steadfast _ _ _ _ keeps whole with agree | ⟨root, alone, off, silent, error, fails⟩
        · refine .inl ?_
          rw [ctx]
          exact (steady_rendersTo pure keeps.renders _).mpr agree
        · -- Only the root is left, which shows nothing and will not render.
          have renders := keeps.renders
          rw [alone] at renders
          obtain ⟨view, _, answered, single⟩ := rendersTo_single renders
          obtain ⟨emitted, asks, answer, same⟩ := renderMode_answer pure answered
          cases silent.symm.trans answer
          have hollow : view.bindings = [] := by
            have bindings := congrArg ModeView.bindings same
            simpa [ModeView.bare, firsts, firstsFrom] using bindings
          have quiet : view.capture = false := by
            have capture := congrArg ModeView.capture same
            simpa [ModeView.bare, off] using capture
          rw [alone] at ctx
          -- At the bottom, failing in its own context, without rows and without capture.
          refine .inr ⟨?_, ?_, ?_, ?_⟩
          · show next.bare.stack.length - 1 = 0
            simp [RuntimeState.bare, single]
          · intro frame member
            have own : frame = (withView root view).bare := by
              simpa [RuntimeState.bare, single] using member
            rw [own, ctx]
            exact ⟨error, fails⟩
          · rw [shown, single]
            simp [RuntimeState.bare, RenderedState.bare, renderedState, flattenBindings, withView,
              hollow, firsts, firstsFrom]
          · rw [shown, single]
            simp [RuntimeState.bare, RenderedState.bare, renderedState, withView, quiet]

/-- A stack that is at rest once it is rendered is steadfast. -/
theorem Steadfast.of_resting (pure : PureRenderers host.script render) {rt : RuntimeState T}
    {cfg : LoadedConfig T} (rooted : rt.stack ≠ [])
    (resting : Resting render (renderStackWithRecovery host.script rt cfg).2.1.bare) :
    Steadfast host.script render rt cfg := by
  -- The state at rest is read back as what the renderers answer at the depth that is left.
  intro shown kept dropped reached keeps _
  obtain ⟨warnings, pass⟩ := keeps.pass rooted
  obtain ⟨final, rendered⟩ := renderStack_of_pass pure.settles pass
  have attempted : tryRender host.script rt cfg rt.renderCtx = (.ok warnings,
      { rt with stack := shown, rendered := renderedState cfg.baseStyle shown }, final) := by
    unfold tryRender
    rw [rendered]
  rw [renderStackWithRecovery_first attempted] at resting
  have lengths := congrArg List.length keeps.renders.same_frames
  simp only [List.length_map] at lengths
  have ctx : RuntimeState.renderCtx (RuntimeState.bare { rt with
      stack := shown, rendered := renderedState cfg.baseStyle shown }) =
        { rt.renderCtx with depth := kept.length - 1 } := by
    rw [RuntimeState.renderCtx_bare, renderCtx_shrunk, lengths]
  rcases resting with steady | ⟨bottom, failing, unbound, open_⟩
  -- A steady stack answers at the depth left what it answered when rendered.
  · rw [ctx] at steady
    exact .inl ((steady_rendersTo pure keeps.renders _).mp steady)
  · -- The root alone is left, and it is hollow.
    have nonempty := keeps.root rooted
    obtain ⟨root, alone⟩ := singleton_of_length_le nonempty (by
      have zero : shown.length - 1 = 0 := by
        simpa [RuntimeState.depth, RuntimeState.bare] using bottom
      omega)
    refine .inr ⟨root, alone, ?_⟩
    have renders := keeps.renders
    rw [alone] at renders
    obtain ⟨view, _, answered, single⟩ := rendersTo_single renders
    subst single
    obtain ⟨emitted, asks, answer, same⟩ := renderMode_answer pure answered
    -- Nothing is shown, so the view of the root is empty and does not capture.
    have hollow : firsts chordText emitted = [] := by
      have bindings := congrArg ModeView.bindings same
      have empty : view.bindings = [] := by
        simpa [RuntimeState.bare, RenderedState.bare, renderedState, flattenBindings, withView,
          firsts_eq_nil] using unbound
      simpa [ModeView.bare, empty] using bindings.symm
    have quiet : (root.capture || asks) = false := by
      have capture := congrArg ModeView.capture same
      have off : view.capture = false := by
        simpa [RuntimeState.bare, RenderedState.bare, renderedState, withView] using open_
      simpa [ModeView.bare, off] using capture.symm
    rw [Bool.or_eq_false_iff] at quiet
    rw [firsts_eq_nil] at hollow
    obtain ⟨error, fails⟩ := failing (withView root view).bare (by simp [RuntimeState.bare])
    rw [ctx, alone] at fails
    refine ⟨quiet.1, ?_, error, fails⟩
    rw [answer, hollow, quiet.2]

/--
A second refresh with the same focus changes nothing of what is rendered, bound or shown exactly
when no configuration was loaded, a selector was open, or the stack was steadfast before the first
one, which every stack is of which the renderers keep all frames, or of which one fails.
-/
theorem rebindAndRefresh_fixpoint (pure : PureRenderers host.script render) {core mid : Core T}
    {focus : Option FocusSnapshot} {changed : Bool}
    (first : core.rebindAndRefresh host focus = (.ok changed, mid)) :
    ((∀ cfg, core.config = some cfg → core.runtime.selector = none →
        Steadfast host.script render (core.rendering cfg focus) cfg) →
      Unchanged mid (mid.rebindAndRefresh host focus).2) ∧
    ∀ again last, mid.rebindAndRefresh host focus = (.ok again, last) → Unchanged mid last →
      ∀ cfg, core.config = some cfg → core.runtime.selector = none →
        Steadfast host.script render (core.rendering cfg focus) cfg := by
  obtain ⟨runtime, config, synced⟩ := rebindAndRefresh_ok first
  cases loaded : core.config with
  | none =>
    -- Nothing is rendered without a configuration, and the state is cleared again.
    have unloaded : mid.config = none := by
      rw [config]
      unfold firstPlan
      rw [loaded]
      rfl
    have cleared : mid.runtime = { core.runtime with
        focus := core.runtime.contextWindow focus }.clearConfigState host.defaultStyle := by
      rw [runtime]
      unfold firstPlan
      rw [loaded]
      rfl
    have again : (mid.firstPlan host focus).2.1 = { mid.runtime with
        focus := mid.runtime.contextWindow focus }.clearConfigState host.defaultStyle := by
      unfold firstPlan
      rw [unloaded]
      rfl
    refine ⟨fun _ => synced.unchanged ?_ ?_ ?_ ?_, fun _ _ _ _ _ absent => by cases absent⟩ <;>
      rw [again, cleared] <;> rfl
  | some cfg =>
    by_cases closed : core.runtime.selector = none
    · obtain ⟨next, loaded', closed', style, still, left, recovered⟩ :=
        rendering_settled pure loaded closed first
      obtain ⟨plan, _⟩ := @firstPlan_closed _ host mid next focus loaded' closed'
      rw [still] at plan
      have settled : Settled render next.baseStyle mid.runtime.bare := by
        rw [style]
        exact recovered.settled
      obtain ⟨_, bare⟩ := renderStackWithRecovery_bare pure mid.runtime next next rfl
      rw [← plan] at bare
      have framed := @renderStackWithRecovery_frame _ host.script mid.runtime next
      rw [← plan] at framed
      rw [left] at recovered
      constructor
      · intro steadfast
        have resting := (steadfast cfg rfl closed).resting pure recovered
        rw [← left] at resting
        rw [(exact_rendererHost render).recovery_same settled resting] at bare
        refine synced.unchanged ?_ ?_ (by rw [framed]) (by rw [framed])
        · exact (congrArg RuntimeState.stack bare).symm
        · exact (congrArg RuntimeState.rendered bare).symm
      · intro again last second unchanged cfg' same _
        cases same
        refine Steadfast.of_resting pure (ensureStack_ne_nil cfg core.runtime.stack) ?_
        rw [← left]
        obtain ⟨runtime', _, _⟩ := rebindAndRefresh_ok second
        rw [← runtime'] at bare framed
        obtain ⟨recovered', _⟩ := (exact_rendererHost render).recovered mid.runtime.bare next
          settled.shaped.root
        rw [bare] at recovered'
        refine recovered'.rested ?_ unchanged.stack unchanged.rendered
        -- The stack is as long as before, so the context is the same.
        have lengths := congrArg List.length unchanged.stack
        simp only [List.length_map] at lengths
        rw [RuntimeState.renderCtx_bare, RuntimeState.renderCtx_bare]
        unfold RuntimeState.renderCtx RuntimeState.depth
        rw [lengths, framed]
    · -- A selector keeps its capture keys, and nothing is rendered behind it.
      obtain ⟨plan, after⟩ := @firstPlan_open _ host core cfg focus loaded closed
      rw [plan] at runtime
      rw [after] at config
      have open_ : mid.runtime.selector ≠ none := by
        rw [runtime]
        exact closed
      obtain ⟨again, _⟩ := @firstPlan_open _ host mid cfg focus config open_
      have rooted : mid.runtime.stack ≠ [] := by
        rw [runtime]
        exact ensureStack_ne_nil cfg core.runtime.stack
      refine ⟨fun _ => synced.unchanged ?_ ?_ ?_ ?_, fun _ _ _ _ _ _ shut => absurd shut closed⟩ <;>
        rw [again]
      · exact congrArg (List.map ModeFrame.bare) (ensureStack_of_ne_nil cfg rooted)
      · rfl
      · rfl
      · rfl

/-- Externals over the hotkey registry, with a script runtime that counts its handles. -/
private def countingExternals : Externals := ⟨Nat, Bool, Nat, Nat, RegistryApi⟩

/-- A root that offers `a` while no mode is entered and `b` below one, and an empty child. -/
private def depthRender (func : CallbackRef) (ctx : ModeCtx) :
    Except String (List Binding × Bool) :=
  let key : Key := if ctx.depth = 0 then .a else .b
  if func = 0 then .ok ([⟨⟨∅, key⟩, "act", .handler ⟨0⟩, none, {}, false, none⟩], false)
  else .ok ([], false)

/-- An answer whose handlers are retained under a fresh handle. -/
private def retained (handle : CallbackRef) (answer : List Binding × Bool) : List Binding × Bool :=
  (answer.1.map fun binding => { binding with kind := .handler ⟨handle⟩ }, answer.2)

/-- A host for such renderers, which refuses nothing. -/
private def depthHost : Host countingExternals where
  script :=
    { callRenderer := fun (vm : Nat) func ctx => ((depthRender func ctx).map (retained vm), vm + 1)
      callHandler := fun vm _ _ _ => (.ok ⟨[], false⟩, vm)
      callSelection := fun vm _ _ _ _ => (.ok ⟨[], false⟩, vm)
      callProvider := fun vm _ _ => (.ok [], vm)
      synchronizeCallbacks := fun vm => (.ok (), vm) }
  matching := ⟨fun items => items.length, fun matcher _ => matcher, fun matcher => (false, matcher),
    id, fun _ _ => none, fun _ _ _ => []⟩
  hotkeys := registryApi fun _ => none
  defaultStyle := false
  load _ _ := .error "missing"
  uiAccepts _ := true
  displays _ := (0 : Nat)
  order _ := ⟨.stored _, .stored _, .stored _⟩

/-- The state after the first refresh of a configuration. -/
private def shownRoot : Core countingExternals :=
  (rebindAndRefresh depthHost { Core.initial depthHost ({} : RegistryApi) (0 : Nat) with
    config := some ⟨⟨0, 0, none⟩, false, (0 : Nat), none, ∅⟩ } none).2

/-- Its renderers are functions of their context but for the handles. -/
private theorem depthHost_pure : PureRenderers depthHost.script depthRender := by
  refine ⟨fun vm func ctx => ?_, fun _ => rfl⟩
  show ((depthRender func ctx).map (retained vm)).map bareAnswer = depthRender func ctx
  unfold depthRender
  dsimp only
  split <;> rfl

/-- The same for the root alone: it loses no frame, and the second refresh changes nothing but the
handle of its handler. -/
theorem rebindAndRefresh_fixpoint_root :
    Unchanged (shownRoot.rebindAndRefresh depthHost none).2
        ((shownRoot.rebindAndRefresh depthHost none).2.rebindAndRefresh depthHost none).2 ∧
      (shownRoot.rebindAndRefresh depthHost none).2.runtime.stack ≠
        ((shownRoot.rebindAndRefresh depthHost none).2.rebindAndRefresh depthHost
          none).2.runtime.stack := by
  have single : shownRoot.runtime.stack.length = 1 := by decide +kernel
  have rooted : shownRoot.runtime.stack ≠ [] :=
    List.ne_nil_of_length_pos (by rw [single]; exact Nat.one_pos)
  have rendered : ∀ cfg, (shownRoot.rendering cfg none).stack = shownRoot.runtime.stack :=
    fun cfg => ensureStack_of_ne_nil cfg rooted
  refine ⟨(@rebindAndRefresh_fixpoint _ depthHost depthRender depthHost_pure shownRoot
    (shownRoot.rebindAndRefresh depthHost none).2 none false
    (Prod.ext (by decide +kernel) rfl)).1 fun cfg _ _ shown kept dropped _ keeps lost => ?_,
    by decide +kernel⟩
  -- The only frame there is, the root, is kept.
  have lengths := congrArg List.length keeps.split
  rw [rendered, single, List.length_append] at lengths
  have root := List.length_pos_iff.mpr (keeps.root (by rw [rendered]; exact rooted))
  have more := List.length_pos_iff.mpr lost
  omega

/-- The same after an empty child was pushed and dropped: the root was rendered below it, and the
second refresh registers another key. -/
theorem rebindAndRefresh_fixpoint_dropped :
    ∃ core mid last : Core countingExternals, ∃ changed again,
      PureRenderers depthHost.script depthRender ∧
      core.runtime = (shownRoot.runtime.applyNavRequest none (.push ⟨1, 1, none⟩ none)).2 ∧
      core.rebindAndRefresh depthHost none = (.ok changed, mid) ∧
      mid.rebindAndRefresh depthHost none = (.ok again, last) ∧
      mid.manager.chordForIdent "a" = none ∧
      last.manager.chordForIdent "a" = some ⟨∅, .a⟩ ∧ ¬ Unchanged mid last := by
  -- The child's frame is dropped, and the root binds another key where it is alone.
  let core := { shownRoot with
    runtime := (shownRoot.runtime.applyNavRequest none (.push ⟨1, 1, none⟩ none)).2 }
  let mid := (core.rebindAndRefresh depthHost none).2
  let last := (mid.rebindAndRefresh depthHost none).2
  have before : mid.manager.chordForIdent "a" = none := by decide +kernel
  have after : last.manager.chordForIdent "a" = some ⟨∅, .a⟩ := by decide +kernel
  refine ⟨core, mid, last, true, true, depthHost_pure, rfl, Prod.ext (by decide +kernel) rfl,
    Prod.ext (by decide +kernel) rfl, before, after, fun unchanged => ?_⟩
  rw [unchanged.manager, before] at after
  cases after

end Core

end Hotki

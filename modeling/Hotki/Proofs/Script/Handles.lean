import Hotki.Proofs.Script.Render

/-! Rendering does not look at the handles of the functions that the bindings retain. -/

namespace Hotki

open Base Script

/-- What a binding does, without the handles of its functions. -/
def BindingKind.bare : BindingKind → BindingKind
  | .handler _ => .handler ⟨0⟩
  | .mode entered => .mode { entered with func := 0 }

/-- A binding without the handles of its functions, of which every render retains fresh ones. -/
def Binding.bare (binding : Binding) : Binding := { binding with kind := binding.kind.bare }

/-- A frame whose rendered bindings are without handles; its own closure stays. -/
def ModeFrame.bare (frame : ModeFrame) : ModeFrame :=
  { frame with rendered := frame.rendered.map Binding.bare }

/-- A chord with its binding without handles. -/
def bareEntry (entry : Chord × Binding) : Chord × Binding := (entry.1, entry.2.bare)

/-- What a renderer answers, without handles. -/
def bareAnswer (answer : List Binding × Bool) : List Binding × Bool :=
  (answer.1.map Binding.bare, answer.2)

namespace Script

/-- A view without handles. -/
def ModeView.bare (view : ModeView) : ModeView :=
  { view with bindings := view.bindings.map Binding.bare }

end Script

/-- Rendered output without handles. -/
def RenderedState.bare {T : Externals} (state : RenderedState T) : RenderedState T :=
  { state with bindings := state.bindings.map bareEntry }

@[simp] theorem Binding.bare_chord (binding : Binding) : binding.bare.chord = binding.chord := rfl

@[simp] theorem Binding.bare_flags (binding : Binding) : binding.bare.flags = binding.flags := rfl

@[simp] theorem Binding.bare_isMode (binding : Binding) :
    binding.bare.kind.isMode = binding.kind.isMode := by
  unfold Binding.bare BindingKind.bare
  cases binding.kind <;> rfl

/-- Dropping handles twice is dropping them once. -/
@[simp] theorem Binding.bare_bare (binding : Binding) : binding.bare.bare = binding.bare := by
  unfold Binding.bare BindingKind.bare
  cases binding.kind <;> rfl

/-- Dropping the handles of an answer twice is dropping them once. -/
@[simp] theorem bareAnswer_bareAnswer (answer : List Binding × Bool) :
    bareAnswer (bareAnswer answer) = bareAnswer answer := by
  simp [bareAnswer]

/-- Renderers that are functions of their context, but for the handles they retain, in a runtime
whose callbacks always settle. -/
structure PureRenderers {T : Externals} (host : ScriptHost T)
    (render : CallbackRef → ModeCtx → Except String (List Binding × Bool)) : Prop where
  renders : ∀ vm func ctx, (host.callRenderer vm func ctx).1.map bareAnswer = render func ctx
  settles : ∀ vm, (host.synchronizeCallbacks vm).1 = .ok ()

namespace Script

variable {T : Externals} {host : ScriptHost T} {ctx : ModeCtx}
  {render : CallbackRef → ModeCtx → Except String (List Binding × Bool)}

/-- Whether a frame is an orphan does not depend on handles. -/
theorem orphaned_bare (parent child : ModeFrame) :
    orphaned parent.bare child.bare = orphaned parent child := by
  unfold orphaned
  have kept : child.bare.enteredVia = child.enteredVia := rfl
  rw [kept]
  cases child.enteredVia with
  | none => rfl
  | some entered =>
    -- The entry is found by its chord and its identity, not by the function of its mode.
    simp only [entryExists, ModeFrame.bare, List.any_map, Function.comp_def, Binding.bare_isMode]
    rfl

/-- Flattening does not look at handles. -/
theorem flattenBindings_bare (stack : List ModeFrame) :
    flattenBindings (stack.map ModeFrame.bare) = (flattenBindings stack).map bareEntry := by
  -- Taking handles out of each frame is taking them out of the list.
  unfold flattenBindings
  rw [List.getLast?_map]
  cases stack.getLast? with
  | none => rfl
  | some top =>
    have inherited : (stack.map ModeFrame.bare).dropLast.reverse.flatMap
        (fun frame => frame.rendered.filter fun binding => binding.flags.isGlobal) =
      (stack.dropLast.reverse.flatMap fun frame =>
        frame.rendered.filter fun binding => binding.flags.isGlobal).map Binding.bare := by
      rw [← List.map_dropLast, ← List.map_reverse, List.flatMap_map, List.map_flatMap]
      congr 1
      funext frame
      simp only [ModeFrame.bare, List.filter_map]
      rfl
    simp only [Option.map_some, inherited]
    rw [show top.bare.rendered = top.rendered.map Binding.bare from rfl, ← List.map_append,
      firsts_map Binding.bare (fun _ => rfl), List.map_map, List.map_map]
    rfl

/-- The rows of the HUD do not show handles. -/
theorem buildHudRows_bare (bindings : List (Chord × Binding)) :
    buildHudRows (bindings.map bareEntry) = buildHudRows bindings := by
  unfold buildHudRows
  rw [List.filter_map, List.map_map]
  congr 1
  funext entry
  simp [hudRow, bareEntry]
  rfl

/-- The rendered state of a stack does not depend on handles but for its bindings' own. -/
theorem renderedState_bare (style : T.Style) (stack : List ModeFrame) :
    (renderedState style (stack.map ModeFrame.bare) : RenderedState T) =
      (renderedState style stack).bare := by
  unfold renderedState RenderedState.bare
  rw [flattenBindings_bare, buildHudRows_bare, List.getLast?_map, Option.map_map]
  rfl

/-- What a frame renders to, without handles, is what the bare frame renders to by the function. -/
theorem renderMode_bare (pure : PureRenderers host render) {cfg next : LoadedConfig T}
    {frame : ModeFrame} {view : ModeView} {warnings : List Effect}
    (rendered : renderMode host cfg frame ctx = (.ok (view, warnings), next))
    (other : LoadedConfig T) :
    ∃ warnings last, renderMode (rendererHost render) other frame.bare ctx =
      (.ok (view.bare, warnings), last) := by
  -- Both renders ask the same renderer, which answers from the context.
  have answer := pure.renders cfg.vm frame.closure.func ctx
  unfold renderMode at rendered
  split at rendered
  · cases rendered
  · rename_i emitted asks vm called
    rw [called] at answer
    split at rendered
    · cases rendered
    · cases rendered
      refine ⟨(repeats chordText (emitted.map Binding.bare)).map (duplicateWarning other), other,
        ?_⟩
      unfold renderMode
      simp only [rendererHost, synchronizeCallbacks, dedupModeBindings]
      rw [show frame.bare.closure.func = frame.closure.func from rfl, ← answer]
      simp only [Except.map, bareAnswer, ModeView.bare]
      rw [firsts_map Binding.bare fun _ => rfl]
      rfl

/-- A frame fails to render with an error just if the bare frame does by the function. -/
theorem renderMode_bare_error (pure : PureRenderers host render) {cfg next : LoadedConfig T}
    {frame : ModeFrame} {error : String}
    (failed : renderMode host cfg frame ctx = (.error error, next)) (other : LoadedConfig T) :
    ∃ last, renderMode (rendererHost render) other frame.bare ctx = (.error error, last) := by
  -- The renderer's answer decides, and it is the same for both frames.
  have answer := pure.renders cfg.vm frame.closure.func ctx
  unfold renderMode at failed
  split at failed
  · rename_i called
    cases failed
    rw [called] at answer
    refine ⟨other, ?_⟩
    unfold renderMode
    simp only [rendererHost]
    rw [show frame.bare.closure.func = frame.closure.func from rfl, ← answer]
    rfl
  · rename_i emitted asks vm called
    split at failed
    · -- The callbacks always settle.
      rename_i settled
      have fine := pure.settles vm
      simp only [synchronizeCallbacks] at settled
      rw [Prod.mk.injEq] at settled
      rw [fine] at settled
      cases settled.1
    · cases failed

/-- A pass over frames makes of bare frames what it makes of the frames, without handles. -/
theorem renderFrames_bare (pure : PureRenderers host render) (cfg other : LoadedConfig T)
    (warnings others : List Effect) (below stack : List ModeFrame) :
    ((renderFrames (rendererHost render) ctx other others (below.map ModeFrame.bare)
        (stack.map ModeFrame.bare)).1.map fun _ => ()) =
        ((renderFrames host ctx cfg warnings below stack).1.map fun _ => ()) ∧
      (renderFrames (rendererHost render) ctx other others (below.map ModeFrame.bare)
        (stack.map ModeFrame.bare)).2.1 =
        (renderFrames host ctx cfg warnings below stack).2.1.map ModeFrame.bare := by
  -- The induction is on the frames, whose renders agree one by one.
  induction stack generalizing cfg other warnings others below with
  | nil => exact ⟨rfl, rfl⟩
  | cons frame above ih =>
    cases answered : renderMode host cfg frame ctx with
    | mk outcome next =>
      cases outcome with
      | error error =>
        obtain ⟨last, failed⟩ := renderMode_bare_error pure answered other
        rw [List.map_cons]
        unfold renderFrames
        simp only [answered, failed]
        exact ⟨trivial, by simp⟩
      | ok rendered =>
        obtain ⟨view, local_⟩ := rendered
        obtain ⟨local', last, bare⟩ := renderMode_bare pure answered other
        have same : withView frame.bare view.bare = (withView frame view).bare := rfl
        have empty : (withView frame view).bare.rendered.isEmpty =
            (withView frame view).rendered.isEmpty := by
          simp [ModeFrame.bare]
        rw [List.map_cons]
        unfold renderFrames
        simp only [answered, bare, same, empty, List.isEmpty_map]
        split
        · exact ⟨rfl, rfl⟩
        · cases above with
          | nil => exact ⟨rfl, by simp⟩
          | cons child rest =>
            simp only [List.map_cons, orphaned_bare]
            split
            · exact ⟨rfl, by simp⟩
            · have further := ih next last (warnings ++ local_) (others ++ local')
                (below ++ [withView frame view])
              simpa using further

/-- A render makes of bare frames what it makes of the frames, without handles. -/
theorem renderStack_bare (pure : PureRenderers host render) (cfg other : LoadedConfig T)
    (style : other.baseStyle = cfg.baseStyle) (stack : List ModeFrame) :
    (renderStack (rendererHost render) other (stack.map ModeFrame.bare) ctx).1.map Prod.fst =
        (renderStack host cfg stack ctx).1.map (fun rendered => rendered.1.bare) ∧
      (renderStack (rendererHost render) other (stack.map ModeFrame.bare) ctx).2.1 =
        (renderStack host cfg stack ctx).2.1.map ModeFrame.bare := by
  -- The passes agree, and settling callbacks concerns handles only.
  obtain ⟨outcome, frames⟩ := @renderFrames_bare _ host ctx render pure cfg other [] [] [] stack
  refine ⟨?_, by rw [renderStack_stack, renderStack_stack]; exact frames⟩
  have left :=
    renderFrames_baseStyle (rendererHost render) ctx other [] [] (stack.map ModeFrame.bare)
  have right := renderFrames_baseStyle host ctx cfg [] [] stack
  simp only [List.map_nil] at outcome frames
  unfold renderStack renderStackInner synchronizeCallbacks
  cases passed : renderFrames host ctx cfg [] [] stack with
  | mk result rest =>
    obtain ⟨reached, last⟩ := rest
    cases bare : renderFrames (rendererHost render) ctx other [] [] (stack.map ModeFrame.bare) with
    | mk result' rest' =>
      obtain ⟨reached', last'⟩ := rest'
      rw [passed, bare] at outcome frames
      rw [bare] at left
      rw [passed] at right
      simp only at outcome frames left right
      cases result with
      | error error =>
        cases result' with
        | error error' =>
          cases outcome
          simp [pure.settles, rendererHost, Except.map]
        | ok all => cases outcome
      | ok warnings =>
        cases result' with
        | error error' => cases outcome
        | ok all =>
          have described : (renderedState last'.baseStyle reached' : RenderedState T) =
              (renderedState last.baseStyle reached).bare := by
            rw [frames, left, right, style, renderedState_bare]
          simp [pure.settles, rendererHost, Except.map, described]

/-- The chords that frames offer do not depend on handles. -/
theorem offers_bare {stack : List ModeFrame} {chord : Chord} :
    Offers (stack.map ModeFrame.bare) chord ↔ Offers stack chord := by
  rw [← mem_flattenBindings, flattenBindings_bare, ← mem_flattenBindings, List.map_map]
  exact Iff.rfl

/-- Pure renderers give the same frames whichever runtime asks them, but for the handles. -/
theorem Yields.elsewhere (pure : PureRenderers host render) {cfg : LoadedConfig T}
    {stack shown : List ModeFrame} (nonempty : stack ≠ [])
    (given : Yields host ctx cfg stack shown) (other : LoadedConfig T) :
    ∃ shown', Yields host ctx other stack shown' ∧
      shown'.map ModeFrame.bare = shown.map ModeFrame.bare := by
  -- Both passes are that of the bare frames by the function.
  obtain ⟨kept, dropped, reached, keeps, _⟩ := given
  obtain ⟨_, here⟩ := keeps.pass nonempty
  obtain ⟨succeeds, frames⟩ := @renderFrames_bare _ host ctx render pure cfg cfg [] [] [] stack
  obtain ⟨succeeds', frames'⟩ := @renderFrames_bare _ host ctx render pure other cfg [] [] [] stack
  rw [succeeds', here] at succeeds
  rw [frames', here] at frames
  cases there : renderFrames host ctx other [] [] stack with
  | mk outcome rest =>
    obtain ⟨shown', last⟩ := rest
    rw [there] at succeeds frames
    cases outcome with
    | error error => cases succeeds
    | ok warnings =>
      obtain ⟨kept', dropped', reached', keeps'⟩ := renderFrames_keepsPrefix there
      exact ⟨shown', ⟨kept', dropped', reached', keeps', pure.settles _⟩, frames⟩

end Script

end Hotki

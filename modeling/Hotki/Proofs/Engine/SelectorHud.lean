import Hotki.Proofs.Engine.SelectorMirror

/-! The HUD around selectors: hidden while one is open, and shown again when it closes. -/

namespace Hotki

open Base Script

variable {T : Externals}

namespace SelectorState

variable {matching : MatcherHost T} (selector : SelectorState T)

/-- Confirming a match keeps what the selector returns to. -/
theorem selectCurrent_prevHudVisible :
    (selector.selectCurrent matching).2.prevHudVisible = selector.prevHudVisible := by
  unfold selectCurrent
  dsimp only
  split
  · rfl
  · split <;> rfl

/-- A key keeps what the selector returns to. -/
theorem handleKeyDown_prevHudVisible (chord : Chord) :
    (selector.handleKeyDown matching chord).2.prevHudVisible = selector.prevHudVisible := by
  unfold handleKeyDown
  split
  case h_3 =>
    split
    · rfl
    · exact selector.selectCurrent_prevHudVisible
  all_goals first | rfl | (split <;> rfl)

/-- A snapshot keeps what the selector returns to. -/
theorem snapshot_prevHudVisible :
    (selector.snapshot matching).2.prevHudVisible = selector.prevHudVisible := by
  unfold snapshot
  dsimp only
  split <;> rfl

end SelectorState

namespace Core

/-- What is seen of the HUD: whether it is visible, and what an open selector will return it to. -/
def hudView (core : Core T) : Bool × Option Bool :=
  (core.runtime.hudVisible, core.runtime.selector.map SelectorState.prevHudVisible)

/-- What leaves the HUD and what it returns to alone, and a loaded configuration loaded. -/
structure KeepsHud (before after : Core T) : Prop where
  view : after.hudView = before.hudView
  config : before.config.isSome = true → after.config.isSome = true

/-- Two changes that keep the HUD keep it together. -/
theorem KeepsHud.trans {first second third : Core T} (left : KeepsHud first second)
    (right : KeepsHud second third) : KeepsHud first third :=
  ⟨right.view.trans left.view, fun loaded => right.config (left.config loaded)⟩

section Host

variable {host : Host T}

/-- Sending to the UI keeps the HUD, whether or not the message is taken. -/
theorem trySendUi_keepsHud (core : Core T) (message : MsgToUI T) :
    KeepsHud core (core.trySendUi host message).2 := by
  unfold trySendUi
  split
  · exact ⟨rfl, id⟩
  · exact ⟨rfl, id⟩

/-- Diagnostics keep the HUD. -/
theorem deliverRefreshDiagnostics_keepsHud (core : Core T) (errors : List String)
    (warnings : List Effect) :
    KeepsHud core (core.deliverRefreshDiagnostics host errors warnings) := by
  obtain ⟨more, readings, framed⟩ := @deliverRefreshDiagnostics_frame _ host core errors warnings
  rw [framed]
  exact ⟨rfl, id⟩

/-- A plan under a configuration keeps the HUD, and leaves a configuration. -/
theorem buildRefreshPlan_hudView (rt : RuntimeState T) {cfg : Option (LoadedConfig T)}
    (loaded : cfg.isSome = true) (focus : Option FocusSnapshot) :
    (buildRefreshPlan host.script host.defaultStyle rt cfg focus).2.1.hudVisible = rt.hudVisible ∧
      (buildRefreshPlan host.script host.defaultStyle rt cfg focus).2.1.selector = rt.selector ∧
      (buildRefreshPlan host.script host.defaultStyle rt cfg focus).2.2.isSome = true := by
  cases cfg with
  | none => cases loaded
  | some cfg =>
    obtain ⟨last, config, framed⟩ := buildRefreshPlan_some host.defaultStyle rt cfg focus
    rw [framed, config]
    exact ⟨rfl, rfl, rfl⟩

/-- A rollback returns to the HUD of before. -/
theorem rollback_hudVisible (saved failed : RuntimeState T) (config : Option (LoadedConfig T)) :
    (rollback host saved failed config).1.hudVisible = saved.hudVisible := by
  unfold rollback
  dsimp only
  split
  · rename_i cfg _
    split
    · have loaded : (some cfg).isSome = true := rfl
      exact (buildRefreshPlan_hudView (failed.restore saved.checkpoint) loaded saved.focus).1
    · rfl
  · rfl

/-- A refresh under a configuration keeps the HUD, whether it succeeds or fails. -/
theorem rebindAndRefresh_keepsHud {core : Core T} (loaded : core.config.isSome = true)
    (focus : Option FocusSnapshot) : KeepsHud core (core.rebindAndRefresh host focus).2 := by
  -- The plan, and its rollback if there is one, keep what the HUD returns to.
  obtain ⟨shown, selector, config⟩ := @buildRefreshPlan_hudView _ host core.runtime
    core.config loaded focus
  unfold rebindAndRefresh
  dsimp only
  split
  · split
    · obtain ⟨kept, last⟩ := @rollback_selector _ host core.runtime
        (buildRefreshPlan host.script host.defaultStyle core.runtime core.config focus).2.1
        (buildRefreshPlan host.script host.defaultStyle core.runtime core.config focus).2.2
      refine ⟨Prod.ext ?_ ?_, fun _ => last.trans config⟩
      · exact rollback_hudVisible _ _ _
      · exact congrArg (Option.map _) (kept.trans selector)
    · refine .trans ?_ (deliverRefreshDiagnostics_keepsHud _ _ _)
      exact ⟨Prod.ext shown (congrArg (Option.map _) selector), fun _ => config⟩
  · exact ⟨rfl, id⟩

end Host

variable {host : Surroundings T}

/-- Notifying of a callback's error keeps the HUD. -/
theorem reportError_keepsHud {α : Type} (core : Core T) (title error : String) :
    KeepsHud core (core.reportError host title error : Except EngineError (Option α) × Core T).2 :=
  core.trySendUi_keepsHud _

/-- Calling a handler keeps the HUD. -/
theorem callHandler_keepsHud (core : Core T) (handler : HandlerRef) (ctx : ModeCtx)
    (permission : ActionRepeatPermission) :
    KeepsHud core (core.callHandler host handler ctx permission).2 := by
  unfold callHandler
  split
  · exact ⟨rfl, id⟩
  · split
    · exact ⟨rfl, fun _ => rfl⟩
    · refine .trans ?_ (reportError_keepsHud _ "Handler" _)
      exact ⟨rfl, fun _ => rfl⟩

/-- The terminal handler of a closed selector keeps the HUD. -/
theorem runTerminal_keepsHud (core : Core T) (close : SelectorClose) :
    KeepsHud core (core.runTerminal host close).2 := by
  unfold runTerminal
  split
  · exact ⟨rfl, id⟩
  · split
    · exact ⟨rfl, fun _ => rfl⟩
    · refine .trans ?_ (reportError_keepsHud _ "Selector" _)
      exact ⟨rfl, fun _ => rfl⟩

/-- Resolving items keeps the HUD. -/
theorem resolveItems_keepsHud (core : Core T) (config : SelectorConfig) (ctx : ModeCtx) :
    KeepsHud core (core.resolveItems host config ctx).2 := by
  unfold resolveItems
  split
  · exact ⟨rfl, id⟩
  · split
    · exact ⟨rfl, fun _ => rfl⟩
    · rename_i error cfg _
      refine .trans ?_ (trySendUi_keepsHud { core with config := some cfg } _)
      exact ⟨rfl, fun _ => rfl⟩

/-- Resolving a relay target keeps the HUD. -/
theorem resolveRelayDestination_keepsHud (core : Core T) (target : RelayTarget) :
    KeepsHud core (core.resolveRelayDestination host target).2 := by
  have tallied : KeepsHud core core.tally := ⟨rfl, id⟩
  cases target with
  | focused => exact ⟨rfl, id⟩
  | applicationName name =>
    simp only [resolveRelayDestination]
    split
    · exact tallied
    · exact tallied.trans (core.tally.trySendUi_keepsHud _)
    · exact tallied.trans (core.tally.trySendUi_keepsHud _)

/-- Preparing a configuration keeps the HUD. -/
theorem prepare_keepsHud (core : Core T) (path : String) (mode : ConfigInstall) :
    KeepsHud core (core.prepare host path mode).2 := by
  obtain ⟨readings, framed⟩ := @prepareConfig_frame _ host.toHost core path mode
  have only : (core.prepare host path mode).2 = (core.prepareConfig host.toHost path mode).2 := by
    unfold prepare
    split <;> rename_i answered <;> exact (congrArg Prod.snd answered).symm
  rw [only, framed]
  exact ⟨rfl, id⟩

/-- News of the matcher keep the HUD. -/
theorem onSelectorNotify_keepsHud (core : Core T) :
    KeepsHud core (core.onSelectorNotify host).2 := by
  -- News concern the matches, not what was shown before the selector.
  unfold onSelectorNotify
  cases opened : core.runtime.selector with
  | none => exact ⟨rfl, id⟩
  | some selector =>
    have kept : ∀ after : SelectorState T, after.prevHudVisible = selector.prevHudVisible →
        KeepsHud core { core with runtime := { core.runtime with selector := some after } } := by
      intro after same
      refine ⟨?_, id⟩
      simp [hudView, opened, same]
    dsimp only
    split
    · refine .trans (kept _ ?_) (trySendUi_keepsHud _ _)
      exact (selector.tick host.matching).2.snapshot_prevHudVisible
    · exact kept _ rfl

/-- Opening a selector hides the HUD, and the selector will return it to what it was. -/
theorem openSelector_hudView (core : Core T) (config : SelectorConfig) (items : List SelectorItem)
    (ctx : ModeCtx) :
    (core.openSelector host config items ctx).2.hudView = (false, some core.runtime.hudVisible) := by
  unfold openSelector
  refine (trySendUi_keepsHud _ _).view.trans (Prod.ext rfl ?_)
  exact congrArg some (SelectorState.snapshot_prevHudVisible _)

/-- A key closes an open selector, which returns the HUD to what it found, or keeps the HUD. -/
theorem handleSelectorInput_hudView (core : Core T) (chord : Chord) :
    KeepsHud core (core.handleSelectorInput host chord).2 ∨
      ∃ restored, core.hudView.2 = some restored ∧
        (core.handleSelectorInput host chord).2.hudView = (restored, none) := by
  -- Closing returns to what was noted when the selector was opened.
  unfold handleSelectorInput selectorInput
  cases opened : core.runtime.selector with
  | none => exact .inl ⟨rfl, id⟩
  | some selector =>
    cases answered : selector.handleKeyDown host.matching chord with
    | mk event after =>
      have same : after.prevHudVisible = selector.prevHudVisible := by
        have returns := @SelectorState.handleKeyDown_prevHudVisible _ host.matching selector chord
        rw [answered] at returns
        exact returns
      have kept : ∀ other : SelectorState T, other.prevHudVisible = selector.prevHudVisible →
          KeepsHud core { core with runtime := { core.runtime with selector := some other } } := by
        intro other returns
        refine ⟨?_, id⟩
        simp [hudView, opened, returns]
      have closed : ∃ restored, core.hudView.2 = some restored ∧
          ({ core with runtime := core.runtime.closeSelector after }.trySendUi host.toHost
            .selectorHide).2.hudView = (restored, none) := by
        refine ⟨after.prevHudVisible, ?_, (trySendUi_keepsHud _ _).view⟩
        simp [hudView, opened, same]
      simp only [answered]
      cases event with
      | update =>
        left
        refine .trans (kept _ ?_) (trySendUi_keepsHud _ _)
        exact ((after.tick host.matching).2.snapshot_prevHudVisible).trans same
      | select item query => exact .inr closed
      | cancel => exact .inr closed
      | ignored => exact .inl (kept after same)

end Core

namespace LiveEngine

variable {host : Surroundings T}

/-- Caching a focus keeps the HUD. -/
theorem setFocus_keepsHud (engine : LiveEngine T) (focus : Option FocusSnapshot) :
    Core.KeepsHud engine.core (engine.setFocus focus).2.core := by
  unfold setFocus
  split
  · exact ⟨rfl, id⟩
  · exact ⟨rfl, id⟩

/-- Resolving a key keeps the HUD, whether or not it is told of the press. -/
theorem resolveAndNotify_keepsHud (engine : LiveEngine T) (chord : Chord) (ident : String)
    (focus : Option FocusSnapshot) (allowed : Bool) :
    Core.KeepsHud engine.core
      (engine.resolveAndNotify host chord ident focus allowed).2.core := by
  unfold resolveAndNotify
  split
  · exact ⟨rfl, id⟩
  · have told := @Core.trySendUi_keepsHud _ host.toHost engine.core (.hudKeyState chord true)
    split
    · split <;> rename_i answered <;> rw [answered] at told <;> exact told
    · exact ⟨rfl, id⟩

end LiveEngine

namespace Segment

variable {host : Surroundings T}

/-- Whether a segment navigates, or installs a configuration with a runtime of its own. -/
def navigates : Segment T → Bool
  | .navigate _ _ | .pushMode _ _ _ | .commit _ => true
  | _ => false

/-- What a segment that does not navigate does to the HUD: it opens a selector, which hides the HUD
and will return it to what it was, or closes one, or keeps the HUD. -/
inductive HudStep (segment : Segment T) : Bool × Option Bool → Bool × Option Bool → Prop
  | opened {shown : Bool} {restores : Option Bool} (opens : segment.opens = true) :
      HudStep segment (shown, restores) (false, some shown)
  | closed {shown restored : Bool} (input : segment.opens = false) :
      HudStep segment (shown, some restored) (restored, none)
  | kept {view : Bool × Option Bool} (keeps : segment.opens = false) : HudStep segment view view

/-- Every segment that does not navigate does one of these to the HUD under a configuration, which
stays loaded. -/
theorem perform_hudStep [BEq T.Displays] {segment : Segment T} {engine : LiveEngine T}
    (careful : segment.navigates = false) (loaded : engine.core.config.isSome = true) :
    segment.HudStep engine.core.hudView (segment.perform host engine).2.core.hudView ∧
      (segment.perform host engine).2.core.config.isSome = true := by
  -- The segments that open or close a selector are the only ones to change the view.
  have keeps : ∀ {after : Core T}, segment.opens = false → Core.KeepsHud engine.core after →
      segment.HudStep engine.core.hudView after.hudView ∧ after.config.isSome = true := by
    intro after other kept
    rw [kept.view]
    exact ⟨.kept other, kept.config loaded⟩
  cases segment with
  | selectorInput chord =>
    refine ⟨?_, (congrArg Option.isSome (engine.core.handleSelectorInput_config chord)).trans loaded⟩
    show HudStep _ _ (engine.core.handleSelectorInput host chord).2.hudView
    rcases @Core.handleSelectorInput_hudView _ host engine.core chord with
      kept | ⟨restored, found, closed⟩
    · rw [kept.view]
      exact .kept rfl
    · rw [closed, show engine.core.hudView = (engine.core.runtime.hudVisible, some restored) from
        Prod.ext rfl found]
      exact .closed rfl
  -- Opening hides the HUD, and remembers whether it was visible.
  | openSelector config items ctx =>
    refine ⟨?_, (congrArg Option.isSome (Core.trySendUi_config _ _)).trans loaded⟩
    show HudStep _ _ (engine.core.openSelector host config items ctx).2.hudView
    rw [engine.core.openSelector_hudView]
    exact .opened rfl
  | selectorNotify => exact keeps rfl engine.core.onSelectorNotify_keepsHud
  -- A rebind publishes rows for the visibility there is.
  | rebind focus =>
    have kept := keeps rfl (@Core.rebindAndRefresh_keepsHud _ host.toHost engine.core loaded focus)
    rw [← rebound_core engine] at kept
    exact kept
  | runTerminal close => exact keeps rfl (engine.core.runTerminal_keepsHud close)
  | callHandler handler ctx permission =>
    exact keeps rfl (engine.core.callHandler_keepsHud handler ctx permission)
  | resolveItems config ctx => exact keeps rfl (engine.core.resolveItems_keepsHud config ctx)
  | resolveRelay target => exact keeps rfl (engine.core.resolveRelayDestination_keepsHud target)
  | send message => exact keeps rfl (engine.core.trySendUi_keepsHud message)
  | publishHud hud displays =>
    refine keeps rfl (.trans ?_ (Core.trySendUi_keepsHud _ _))
    exact ⟨rfl, id⟩
  | prepare path mode => exact keeps rfl (engine.core.prepare_keepsHud path mode)
  | resolveKey chord ident focus allowed =>
    exact keeps rfl (engine.resolveAndNotify_keepsHud chord ident focus allowed)
  | setFocus focus => exact keeps rfl (engine.setFocus_keepsHud focus)
  | syncFocus =>
    have read : Core.KeepsHud engine.core engine.core.tally := ⟨rfl, id⟩
    exact keeps rfl
      (read.trans (LiveEngine.setFocus_keepsHud { engine with core := engine.core.tally } _))
  | startLoop ident held =>
    refine keeps rfl ?_
    show Core.KeepsHud engine.core (if engine.keyTracker.isDown ident then
      { engine with actionLoops := engine.actionLoops.insert ident held } else engine).core
    split
    · exact ⟨rfl, id⟩
    · exact ⟨rfl, id⟩
  | navigate | pushMode | commit => cases careful
  | _ => exact keeps rfl ⟨rfl, id⟩

end Segment

section Runs

variable [BEq T.Displays] {host : Surroundings T}

/-- Steps of the engine that do not navigate. -/
abbrev UnnavigatedSteps (host : Surroundings T) :=
  Pool.CarefulSteps (engineOperations host) fun _ segment => segment.navigates = false

/-- Whether a move opens no selector, or finds none open that will show the HUD again. -/
def OpensOverHidden (pool : EnginePool T) (move : PoolMove EngineOperation) : Prop :=
  ∀ config items ctx, pool.Gives move (.openSelector config items ctx) →
    pool.state.core.hudView.2 ≠ some true

omit [BEq T.Displays] in
/-- What is opened then finds no selector that will show the HUD again. -/
theorem OpensOverHidden.careful {pool : EnginePool T} {move : PoolMove EngineOperation}
    {segment : Segment T} (meets : OpensOverHidden pool move) (gives : pool.Gives move segment)
    (opens : segment.opens = true) : pool.state.core.hudView.2 ≠ some true := by
  cases segment with
  | openSelector config items ctx => exact meets config items ctx gives
  | _ => cases opens

/-- What such runs keep of the view: the HUD is as it was, or an open selector will return it. -/
def ViewKept (shown : Bool) (view : Bool × Option Bool) : Prop :=
  view = (shown, none) ∨ view = (false, some shown)

/-- What stays once a selector was opened over one that would have shown the HUD again: the HUD is
hidden, and no selector will show it. -/
def ViewLost (view : Bool × Option Bool) : Prop := view.1 = false ∧ view.2 ≠ some true

omit [BEq T.Displays] in
/-- A step that opens a selector hides the HUD, and the selector will return it to what it was. -/
theorem Segment.HudStep.view_of_opens {segment : Segment T} {before after : Bool × Option Bool}
    (step : segment.HudStep before after) (opens : segment.opens = true) :
    after = (false, some before.1) := by
  cases step with
  | opened => rfl
  | closed input => exact absurd opens (ne_true_of_eq_false input)
  | kept keeps => exact absurd opens (ne_true_of_eq_false keeps)

omit [BEq T.Displays] in
/-- A step keeps the view unless it opens a selector over one that will show the HUD again. -/
theorem Segment.HudStep.kept_view {segment : Segment T} {before after : Bool × Option Bool}
    (step : segment.HudStep before after) (careful : segment.opens = true → before.2 ≠ some true)
    {shown : Bool} (kept : ViewKept shown before) : ViewKept shown after := by
  cases step with
  | opened opens =>
    rcases kept with same | same <;> cases same
    · exact .inr rfl
    · -- What is opened over will return to a hidden HUD, and so does what is opened.
      cases shown with
      | false => exact .inr rfl
      | true => exact absurd rfl (careful opens)
  | closed =>
    rcases kept with same | same <;> cases same
    exact .inl rfl
  | kept => exact kept

omit [BEq T.Displays] in
/-- A step keeps a lost view lost. -/
theorem Segment.HudStep.lost_view {segment : Segment T} {before after : Bool × Option Bool}
    (step : segment.HudStep before after) (lost : ViewLost before) : ViewLost after := by
  -- A hidden HUD that nothing will return from stays hidden.
  obtain ⟨hidden, never⟩ := lost
  cases step with
  | @opened shown =>
    have same : shown = false := hidden
    rw [same]
    exact ⟨rfl, by simp⟩
  | @closed _ restored =>
    cases restored with
    | false => exact ⟨rfl, by simp⟩
    | true => exact absurd rfl never
  | kept => exact ⟨hidden, never⟩

omit [BEq T.Displays] in
/-- A step keeps a view, or loses it, or keeps it lost. -/
theorem Segment.HudStep.kept_or_lost {segment : Segment T} {before after : Bool × Option Bool}
    (step : segment.HudStep before after) {shown : Bool}
    (held : ViewKept shown before ∨ ViewLost before) : ViewKept shown after ∨ ViewLost after := by
  -- The view is lost only by opening over a selector that would show the HUD again.
  rcases held with kept | lost
  · by_cases overlaps : segment.opens = true ∧ before.2 = some true
    · right
      obtain ⟨opens, shows⟩ := overlaps
      rw [step.view_of_opens opens]
      rcases kept with same | same
      · rw [same] at shows
        cases shows
      · rw [same]
        exact ⟨rfl, by simp⟩
    · exact .inl (step.kept_view (fun opens shows => overlaps ⟨opens, shows⟩) kept)
  · exact .inr (step.lost_view lost)

/-- A step starts an operation, which changes nothing, or performs a segment that does not
navigate. -/
theorem unnavigated_cases {pool next : EnginePool T} {move : PoolMove EngineOperation}
    (stepped : UnnavigatedSteps host pool move next) (loaded : pool.state.core.config.isSome = true) :
    next.state = pool.state ∨ ∃ segment : Segment T, pool.Gives move segment ∧
      segment.HudStep pool.state.core.hudView next.state.core.hudView ∧
      next.state.core.config.isSome = true := by
  rcases Pool.CarefulSteps.cases stepped with
    ⟨operation, _, rfl⟩ | ⟨index, segment, further, rfl, found, careful, rfl⟩
  · exact .inl rfl
  · exact .inr ⟨segment, ⟨index, further, rfl, found⟩, Segment.perform_hudStep careful loaded⟩

/-- What a run keeps of a view, once each of its steps does, it keeps as long as a configuration is
loaded, which it stays. -/
theorem unnavigated_invariant {inv : Bool × Option Bool → Prop}
    {meets : EnginePool T → PoolMove EngineOperation → Prop}
    (preserved : ∀ {pool move segment after}, meets pool move → pool.Gives move segment →
      segment.HudStep pool.state.core.hudView after → inv pool.state.core.hudView → inv after)
    {pool last : EnginePool T} {moves : List (PoolMove EngineOperation)}
    (run : Run (fun pool move next => UnnavigatedSteps host pool move next ∧ meets pool move)
      pool moves last)
    (loaded : pool.state.core.config.isSome = true) (start : inv pool.state.core.hudView) :
    last.state.core.config.isSome = true ∧ inv last.state.core.hudView := by
  -- The configuration is part of the invariant, as the steps are about a loaded one.
  refine run.invariant (fun pool : EnginePool T => pool.state.core.config.isSome = true ∧
    inv pool.state.core.hudView) (fun {pool move next} stepped holds => ?_) ⟨loaded, start⟩
  obtain ⟨loaded, before⟩ := holds
  rcases unnavigated_cases stepped.1 loaded with same | ⟨segment, gives, step, still⟩
  · rw [same]
    exact ⟨loaded, before⟩
  · exact ⟨still, preserved stepped.2 gives step before⟩

/-- A step that opens a selector over one that would show the HUD again loses it. -/
theorem unnavigated_loses {pool next : EnginePool T} {move : PoolMove EngineOperation}
    (stepped : UnnavigatedSteps host pool move next) (loaded : pool.state.core.config.isSome = true)
    {config : SelectorConfig} {items : List SelectorItem} {ctx : ModeCtx}
    (gives : pool.Gives move (.openSelector config items ctx))
    (view : pool.state.core.hudView = (false, some true)) :
    next.state.core.config.isSome = true ∧ ViewLost next.state.core.hudView := by
  -- The selector that is opened notes a hidden HUD, whatever the one below it had noted.
  obtain ⟨index, rest, rfl, given⟩ := gives
  rcases Pool.CarefulSteps.cases stepped with
    ⟨operation, other, _⟩ | ⟨_, segment, further, same, found, careful, rfl⟩
  · cases other
  · cases same
    rw [given] at found
    cases found
    obtain ⟨step, still⟩ := @Segment.perform_hudStep _ host _ _ _ careful loaded
    have opened := step.view_of_opens rfl
    rw [view] at opened
    refine ⟨still, ?_⟩
    show ViewLost (Segment.perform host _ pool.state).2.core.hudView
    rw [opened]
    exact ⟨rfl, by simp⟩

/--
A selector that closes returns the HUD to what it was before the first one opened, if and only if no
selector was opened over an open one that would have shown the HUD again.

The run is of any engine operations, interleaved at their awaits, under a loaded configuration, none
of which navigates.
-/
theorem hud_restored (host : Surroundings T) {pool last : EnginePool T}
    {moves : List (PoolMove EngineOperation)} (run : Run (UnnavigatedSteps host) pool moves last)
    (loaded : pool.state.core.config.isSome = true)
    (before : pool.state.core.runtime.selector = none)
    (after : last.state.core.runtime.selector = none) :
    last.state.core.runtime.hudVisible = pool.state.core.runtime.hudVisible ↔
      ∀ earlier move later middle, moves = earlier ++ move :: later →
        Run (UnnavigatedSteps host) pool earlier middle → OpensOverHidden middle move := by
  have start : ViewKept pool.state.core.runtime.hudVisible pool.state.core.hudView := by
    left
    rw [Core.hudView, before]
    rfl
  constructor
  · intro restored earlier move later middle same toMiddle config items ctx gives shows
    -- Before that opening the HUD was visible, and from there on it is lost.
    subst same
    obtain ⟨reached, left, right⟩ := run.split
    obtain rfl := left.unique (fun {pool move first second} one other =>
      Option.some.inj (one.1.symm.trans other.1)) toMiddle
    have seen : pool.state.core.runtime.hudVisible = true ∧
        reached.state.core.config.isSome = true ∧
        reached.state.core.hudView = (false, some true) := by
      obtain ⟨still, held⟩ := unnavigated_invariant (fun _ _ step held => step.kept_or_lost held)
        (left.mono fun stepped => ⟨stepped, trivial⟩) loaded (.inl start)
      rcases held with (same | same) | lost
      · rw [same] at shows
        cases shows
      · rw [same] at shows
        exact ⟨Option.some.inj shows, still, same.trans (congrArg (Prod.mk false) shows)⟩
      · exact absurd shows lost.2
    obtain ⟨visible, still, view⟩ := seen
    cases right with
    | cons stepped rest =>
      obtain ⟨further, lost⟩ := unnavigated_loses stepped still gives view
      obtain ⟨_, hidden, _⟩ := unnavigated_invariant (fun _ _ step held => step.lost_view held)
        (rest.mono fun stepped => ⟨stepped, trivial⟩) further lost
      have shown : last.state.core.runtime.hudVisible = true := restored.trans visible
      exact absurd (hidden.symm.trans shown) (by decide)
  · intro careful
    obtain ⟨_, kept⟩ := unnavigated_invariant (fun meets gives step held =>
      step.kept_view (meets.careful gives) held) (run.meeting careful) loaded start
    rcases kept with same | same
    · exact congrArg Prod.fst same
    · have opened := (Prod.mk.inj same).2
      rw [after] at opened
      cases opened

end Runs

/-- A configuration whose handler opens some selectors, on a channel that is full at some
readings. -/
private def openingHost (selectors : Nat) (full : List Nat) :
    Surroundings Core.registryExternals where
  script := {
    rendererHost fun _ _ =>
      .ok ([⟨⟨∅, .a⟩, "pick", .handler ⟨2⟩, none, {}, false, none⟩], false) with
    callHandler := fun vm _ _ _ =>
      (.ok ⟨List.replicate selectors (.select ⟨"", "", .listed [], ⟨3⟩, none, 1⟩), false⟩, vm) }
  matching := ⟨fun items => items.length, fun matcher _ => matcher, fun matcher => (false, matcher),
    id, fun _ _ => none, fun _ _ _ => []⟩
  hotkeys := registryApi fun _ => none
  defaultStyle := false
  load _ _ := .error "not found"
  uiAccepts reading := !full.contains reading
  displays _ := (0 : Nat)
  order _ := ⟨.stored _, .stored _, .stored _⟩
  worldFocus _ := none
  resolveApplication _ _ := .notRunning
  isHudMode style := style
  syncOnDispatch := false

/-- The engine with that configuration loaded and the HUD visible. -/
private def openingStart : EnginePool Core.registryExternals where
  state := {
    core := {
      Core.initial (openingHost 0 []).toHost ({} : RegistryApi) (0 : Nat) with
      runtime := ⟨true, [rootFrame ⟨0, 0, none⟩], none, some ⟨none⟩,
        ⟨[(⟨∅, .a⟩, ⟨⟨∅, .a⟩, "pick", .handler ⟨2⟩, none, {}, false, none⟩)], [], false, false⟩,
        none⟩
      config := some ⟨⟨0, 0, none⟩, false, (), none, ∅⟩ } }

/-- What is seen of the engine: the HUD with what it returns to, and how many operations ended. -/
private def hudGlance (pool : EnginePool Core.registryExternals) : (Bool × Option Bool) × List Bool :=
  (pool.state.core.hudView, pool.tasks.map fun program =>
    match program with
    | .done _ => true
    | .call _ _ => false)

/-- Whether a move does not navigate. -/
private def staysPut (pool : EnginePool Core.registryExternals) :
    PoolMove EngineOperation → Bool
  | .start _ => true
  | .resume index =>
    match pool.tasks[index]? with
    | some (.call segment _) => !segment.navigates
    | _ => true

/-- A step of the engine that is made only if it does not navigate. -/
private def unnavigatedStep (host : Surroundings Core.registryExternals)
    (pool : EnginePool Core.registryExternals) (move : PoolMove EngineOperation) :
    Option (EnginePool Core.registryExternals) :=
  if staysPut pool move then pool.step (engineOperations host) move else none

/-- Such a step does not navigate. -/
private theorem unnavigatedStep_careful {host : Surroundings Core.registryExternals}
    {pool next : EnginePool Core.registryExternals} {move : PoolMove EngineOperation}
    (stepped : unnavigatedStep host pool move = some next) :
    UnnavigatedSteps host pool move next := by
  obtain ⟨permitted, stepped⟩ := Option.ite_none_right_eq_some.mp stepped
  refine ⟨stepped, fun segment gives => ?_⟩
  obtain ⟨index, further, rfl, found⟩ := gives
  simp only [staysPut, found] at permitted
  simpa using permitted

/-- A key that opens selectors, and one that cancels. -/
private def openAndCancel (opening closing : Nat) : List (PoolMove EngineOperation) :=
  .start (.dispatch "a" ⟨∅, .a⟩ .keyDown false true) :: List.replicate opening (.resume 0) ++
    .start (.dispatch "escape" ⟨∅, .escape⟩ .keyDown false true) ::
      List.replicate closing (.resume 1)

/-- The HUD is visible at the start, and no selector is open. -/
private theorem openingStart_hudView : openingStart.state.core.hudView = (true, none) := rfl

/--
The HUD is not always returned to what it was.

A handler that opens two selectors leaves the HUD hidden when the second is cancelled, though it was
visible when the key was pressed. No selector is left, nothing navigates, and both keys have been
dispatched to their end.
-/
theorem hud_restored_broken :
    ∃ moves pool, Run (UnnavigatedSteps (openingHost 2 [3])) openingStart moves pool ∧
      openingStart.state.core.hudView = (true, none) ∧
      hudGlance pool = ((false, none), [true, true]) := by
  obtain ⟨pool, seen, run⟩ := Run.of_foldlM (unnavigatedStep (openingHost 2 [3])) openingStart
    (openAndCancel 11 6) hudGlance ((false, none), [true, true]) (by decide +kernel)
  exact ⟨_, pool, run.mono fun stepped => unnavigatedStep_careful stepped, openingStart_hudView, seen⟩

/-- The conclusion at a run that opens one selector and cancels it. -/
theorem hud_restored_once :
    ∃ moves pool, hudGlance pool = ((true, none), [true, true]) ∧
      (pool.state.core.runtime.hudVisible = openingStart.state.core.runtime.hudVisible ↔
        ∀ earlier move later middle, moves = earlier ++ move :: later →
          Run (UnnavigatedSteps (openingHost 1 [2])) openingStart earlier middle →
            OpensOverHidden middle move) := by
  -- The run opens one selector over a shown HUD and cancels it.
  obtain ⟨pool, seen, run⟩ := Run.of_foldlM (unnavigatedStep (openingHost 1 [2])) openingStart
    (openAndCancel 9 6) hudGlance ((true, none), [true, true]) (by decide +kernel)
  have closed : pool.state.core.runtime.selector = none :=
    Option.map_eq_none_iff.mp (Prod.mk.inj (Prod.mk.inj seen).1).2
  exact ⟨_, pool, seen, hud_restored _ (run.mono fun stepped => unnavigatedStep_careful stepped) rfl
    rfl closed⟩

end Hotki

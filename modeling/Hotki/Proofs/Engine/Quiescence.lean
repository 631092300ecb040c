import Hotki.Base.Tracked
import Hotki.Proofs.Engine.SelectorMirror

/-! The registered keys beside the plan of the last refresh, and what makes a refresh due. -/

namespace Hotki

open Base Script

variable {T : Externals}

namespace KeyBindingManager

variable {Api Error : Type*} {hotkeys : HotkeyApi Api Error}

/-- Setting the capture flag holds a guard just while it is on. -/
theorem setCaptureAll_captureGuard (manager : KeyBindingManager Api) (active : Bool) :
    (manager.setCaptureAll hotkeys active).captureGuard = active := by
  cases active <;> cases guard : manager.captureGuard <;> simp [setCaptureAll, guard]

/-- Registering bindings keeps the guard. -/
theorem registerBindings_captureGuard (desired : HashMap String Chord) (idents : List String)
    (manager : KeyBindingManager Api) :
    (manager.registerBindings hotkeys desired idents).captureGuard = manager.captureGuard := by
  unfold registerBindings
  induction idents generalizing manager with
  | nil => rfl
  | cons ident rest ih =>
    rw [List.foldl_cons, ih]
    split <;> rfl

/-- Restoring bindings keeps the guard. -/
theorem restoreBindings_captureGuard (removed : List (String × BindingRegistration))
    (manager : KeyBindingManager Api) :
    (manager.restoreBindings hotkeys removed).captureGuard = manager.captureGuard := by
  unfold restoreBindings
  induction removed generalizing manager with
  | nil => rfl
  | cons entry rest ih =>
    rw [List.foldl_cons, ih]
    rfl

/-- Removing bindings keeps the guard, refused or not. -/
theorem removeBindings_captureGuard (removed : List (String × BindingRegistration))
    (idents : List String) (manager : KeyBindingManager Api) :
    (removeBindings hotkeys removed idents manager).2.captureGuard = manager.captureGuard := by
  induction idents generalizing removed manager with
  | nil => rfl
  | cons ident rest ih =>
    have taken : (manager.unregisterBinding hotkeys ident).2.captureGuard =
        manager.captureGuard := by
      unfold unregisterBinding
      split
      · rfl
      · split <;> rfl
    unfold removeBindings
    split
    · rename_i next answered
      rw [answered] at taken
      exact (ih _ next).trans taken
    · rename_i next answered
      rw [answered] at taken
      exact (ih _ next).trans taken
    · rename_i next answered
      rw [answered] at taken
      exact (restoreBindings_captureGuard removed next).trans taken

/-- An update of the bindings keeps the guard, refused or not. -/
theorem updateBindings_captureGuard (order : UpdateOrder) (manager : KeyBindingManager Api)
    (keyPairs : List (String × Chord)) :
    (manager.updateBindings hotkeys order keyPairs).2.captureGuard = manager.captureGuard := by
  unfold updateBindings
  dsimp only
  split
  · rfl
  · have removed := @removeBindings_captureGuard _ _ hotkeys []
      (manager.removedKeys order (HashMap.collect keyPairs) ++
        manager.replacedKeys order (HashMap.collect keyPairs)) manager
    split
    · rename_i next answered
      rw [answered] at removed
      exact removed
    · rename_i next answered
      rw [answered] at removed
      exact (registerBindings_captureGuard _ _ next).trans removed

end KeyBindingManager

namespace RuntimeState

/-- What navigation and selectors change of a runtime state. -/
structure Modes where
  hudVisible : Bool
  stack : List ModeFrame
  focus : Option FocusSnapshot
  session : Option ModeSession
  selecting : Bool
  deriving DecidableEq

/-- The modes of a runtime state. -/
def modes (rt : RuntimeState T) : Modes :=
  ⟨rt.hudVisible, rt.stack, rt.focus, rt.session, rt.selector.isSome⟩

/-- Runtime states with the same modes and the same rendered bindings. -/
structure Alike (before after : RuntimeState T) : Prop where
  modes : after.modes = before.modes
  rendered : after.rendered = before.rendered

/-- A runtime state is like itself. -/
theorem Alike.refl (rt : RuntimeState T) : rt.Alike rt := ⟨rfl, rfl⟩

/-- Runtime states that are like a third one are alike. -/
theorem Alike.trans {first second third : RuntimeState T} (left : first.Alike second)
    (right : second.Alike third) : first.Alike third :=
  ⟨right.modes.trans left.modes, right.rendered.trans left.rendered⟩

/-- Runtime states that are alike should have the same pairs registered. -/
theorem Alike.keyPairs {before after : RuntimeState T} (alike : before.Alike after) :
    after.keyPairs = before.keyPairs := by
  have selecting := congrArg Modes.selecting alike.modes
  unfold RuntimeState.keyPairs
  rw [alike.rendered]
  simp only [RuntimeState.modes] at selecting
  rw [selecting]

/-- Runtime states that are alike should capture alike. -/
theorem Alike.capturesAll {before after : RuntimeState T} (alike : before.Alike after) :
    after.capturesAll = before.capturesAll := by
  have selecting := congrArg Modes.selecting alike.modes
  have visible := congrArg Modes.hudVisible alike.modes
  simp only [RuntimeState.modes] at selecting visible
  unfold RuntimeState.capturesAll
  rw [alike.rendered, selecting, visible]

end RuntimeState

namespace Core

variable {host : Host T}

/-- The registered chords and the capture flag are those that a plan yielded which left the runtime
state as it is. -/
def FollowsPlan (host : Host T) (core : Core T) : Prop :=
  ∃ rt cfg focus,
    (buildRefreshPlan host.script host.defaultStyle rt cfg focus).2.1.Alike core.runtime ∧
    (∀ ident, core.manager.chordForIdent ident = (HashMap.collect
      (buildRefreshPlan host.script host.defaultStyle rt cfg focus).1.keyPairs).lookup ident) ∧
    core.manager.captureGuard =
      (buildRefreshPlan host.script host.defaultStyle rt cfg focus).1.captureAll

/-- Then they are the selector's capture keys while a selector is open, and those of the rendered
bindings otherwise. -/
theorem FollowsPlan.keys {core : Core T} (follows : core.FollowsPlan host) :
    (∀ ident, core.manager.chordForIdent ident =
      (HashMap.collect core.runtime.keyPairs).lookup ident) ∧
    core.manager.captureGuard = core.runtime.capturesAll := by
  obtain ⟨rt, cfg, focus, alike, chords, guard⟩ := follows
  have planned := buildRefreshPlan_binds host.script host.defaultStyle rt cfg focus
  rw [planned.1, ← alike.keyPairs] at chords
  rw [planned.2, ← alike.capturesAll] at guard
  exact ⟨chords, guard⟩

/-- What leaves the modes, the rendered bindings and the registered keys alone. -/
structure Undisturbed (before after : Core T) : Prop where
  runtime : before.runtime.Alike after.runtime
  chords : ∀ ident, after.manager.chordForIdent ident = before.manager.chordForIdent ident
  guard : after.manager.captureGuard = before.manager.captureGuard

/-- Nothing at all is left alone by doing nothing to it. -/
theorem Undisturbed.of_same {before after : Core T} (runtime : after.runtime = before.runtime)
    (manager : after.manager = before.manager) : before.Undisturbed after :=
  ⟨runtime ▸ .refl _, fun _ => by rw [manager], by rw [manager]⟩

/-- What keeps the modes, the rendered bindings and the manager disturbs nothing. -/
theorem Undisturbed.of_kept {before after : Core T}
    (modes : after.runtime.modes = before.runtime.modes)
    (rendered : after.runtime.rendered = before.runtime.rendered)
    (manager : after.manager = before.manager) : before.Undisturbed after :=
  ⟨⟨modes, rendered⟩, fun _ => by rw [manager], by rw [manager]⟩

/-- Two changes that leave them alone leave them alone together. -/
theorem Undisturbed.trans {first second third : Core T} (left : first.Undisturbed second)
    (right : second.Undisturbed third) : first.Undisturbed third :=
  ⟨left.runtime.trans right.runtime, fun ident => (right.chords ident).trans (left.chords ident),
    right.guard.trans left.guard⟩

/-- What leaves them alone keeps the plan followed. -/
theorem Undisturbed.follows {before after : Core T} (same : before.Undisturbed after)
    (follows : before.FollowsPlan host) : after.FollowsPlan host := by
  obtain ⟨rt, cfg, focus, alike, chords, guard⟩ := follows
  exact ⟨rt, cfg, focus, alike.trans same.runtime,
    fun ident => (same.chords ident).trans (chords ident), same.guard.trans guard⟩

/-- Before any configuration nothing is registered, as planned. -/
theorem initial_follows (api : T.Api) (displays : T.Displays) :
    (initial host api displays).FollowsPlan host :=
  ⟨.empty host.defaultStyle, none, none, ⟨rfl, rfl⟩, fun _ => rfl, rfl⟩

/-- A refresh that goes through has its plan followed. -/
theorem rebindAndRefresh_follows {core next : Core T} {focus : Option FocusSnapshot}
    {changed : Bool} (refreshed : core.rebindAndRefresh host focus = (.ok changed, next)) :
    next.FollowsPlan host := by
  cases ready : core.tally.uiReady host with
  | false =>
    rw [rebindAndRefresh_unready ready] at refreshed
    cases refreshed
  | true =>
    cases updated : core.manager.updateBindings host.hotkeys (host.order core.tally.tally.readings)
        (core.firstPlan host focus).1.keyPairs with
    | mk outcome manager =>
      cases outcome with
      | error error =>
        have answered : core.tally.tally.manager.updateBindings host.hotkeys
            (host.order core.tally.tally.readings) (buildRefreshPlan host.script host.defaultStyle
              core.tally.runtime core.tally.config focus).1.keyPairs = (.error error, manager) :=
          updated
        unfold rebindAndRefresh at refreshed
        simp only [ready, if_true, answered] at refreshed
        cases refreshed
      | ok bound =>
        obtain ⟨mid, result, runtime, _, kept⟩ := rebindAndRefresh_updated ready updated
        rw [refreshed] at result
        cases result
        refine ⟨core.runtime, core.config, focus, ?_, fun ident => ?_, ?_⟩
        · rw [runtime]
          exact .refl _
        · rw [kept, KeyBindingManager.chordForIdent_setCaptureAll]
          exact KeyBindingManager.updateBindings_ok updated ident
        · rw [kept]
          exact KeyBindingManager.setCaptureAll_captureGuard manager _

/-- A refresh that is refused leaves the registered keys as they were. -/
theorem rebindAndRefresh_refused {core : Core T} {focus : Option FocusSnapshot}
    {error : EngineError} (refused : (core.rebindAndRefresh host focus).1 = .error error) :
    (∀ ident, (core.rebindAndRefresh host focus).2.manager.chordForIdent ident =
      core.manager.chordForIdent ident) ∧
    (core.rebindAndRefresh host focus).2.manager.captureGuard = core.manager.captureGuard := by
  -- A refusal happens before any key is changed, and takes the capture guard along.
  revert refused
  unfold rebindAndRefresh
  dsimp only
  split
  · have guard := @KeyBindingManager.updateBindings_captureGuard _ _ host.hotkeys
      (host.order core.tally.tally.readings) core.tally.tally.manager
      (buildRefreshPlan host.script host.defaultStyle core.tally.runtime core.tally.config
        focus).1.keyPairs
    split
    · rename_i error manager answered
      rw [answered] at guard
      exact fun _ => ⟨KeyBindingManager.updateBindings_error answered, guard⟩
    · intro refused
      cases refused
  · exact fun _ => ⟨fun _ => rfl, rfl⟩

/-- Pairs of the same chords are looked up alike. -/
theorem lookup_bindingKeyPairs {left right : List (Chord × Binding)}
    (distinct : (left.map Prod.fst).Nodup) (also : (right.map Prod.fst).Nodup)
    (same : ∀ chord, chord ∈ left.map Prod.fst ↔ chord ∈ right.map Prod.fst) (ident : String) :
    (HashMap.collect (bindingKeyPairs left)).lookup ident =
      (HashMap.collect (bindingKeyPairs right)).lookup ident := by
  apply Option.ext
  intro chord
  rw [HashMap.lookup_collect (nodup_bindingKeyPairs distinct), mem_bindingKeyPairs, same,
    ← mem_bindingKeyPairs, HashMap.lookup_collect (nodup_bindingKeyPairs also)]

/-- Without a selector, a state that follows its plan has rendered distinct chords. -/
theorem FollowsPlan.distinct {core : Core T} (follows : core.FollowsPlan host)
    (closed : core.runtime.selector = none) :
    (core.runtime.rendered.bindings.map Prod.fst).Nodup := by
  obtain ⟨rt, cfg, focus, alike, _, _⟩ := follows
  rw [alike.rendered]
  cases cfg with
  | none => exact List.nodup_nil
  | some cfg =>
    have selecting := congrArg RuntimeState.Modes.selecting alike.modes
    have framed := (@buildRefreshPlan_some _ host host.defaultStyle rt cfg focus).choose_spec.2
    apply (buildLoadedRefreshPlan_keyPairs _ cfg _).2
    simp only [RuntimeState.modes, closed] at selecting
    rw [framed] at selecting
    simpa using selecting.symm

/-- Whether a refresh that is refused can be undone: the UI refused it, or no configuration is
loaded and no selector open, or a selector is open, or the renderers of the stack, asked again under
the focus of before, fail or offer the chords and the capture of before. -/
def Undoable (host : Host T) (core : Core T) (asked : Option (LoadedConfig T)) : Prop :=
  core.tally.uiReady host = false ∨
    (asked = none → core.runtime.selector = none) ∧
      ∀ cfg ∈ asked, core.runtime.selector = none →
        (∀ shown, ¬ Yields host.script (core.runtime.currentCtx core.runtime.focus) cfg
          (ensureStack cfg core.runtime.stack) shown) ∨
        ∃ shown, Yields host.script (core.runtime.currentCtx core.runtime.focus) cfg
            (ensureStack cfg core.runtime.stack) shown ∧
          (∀ chord, Offers shown chord ↔ chord ∈ core.runtime.rendered.bindings.map Prod.fst) ∧
          (core.runtime.hudVisible = true →
            (shown.getLast?.map ModeFrame.capture).getD false = core.runtime.rendered.capture)

/-- A stack that is rendered again and offers and captures what it did binds what is bound. -/
theorem FollowsPlan.rendered_again {core : Core T} {cfg : LoadedConfig T} {shown : List ModeFrame}
    (follows : core.FollowsPlan host) (closed : core.runtime.selector = none)
    (given : Yields host.script (core.runtime.currentCtx core.runtime.focus) cfg
      (ensureStack cfg core.runtime.stack) shown)
    (offered : ∀ chord, Offers shown chord ↔ chord ∈ core.runtime.rendered.bindings.map Prod.fst)
    (captured : core.runtime.hudVisible = true →
      (shown.getLast?.map ModeFrame.capture).getD false = core.runtime.rendered.capture) :
    let after := (buildRefreshPlan host.script host.defaultStyle core.runtime (some cfg)
      core.runtime.focus).2.1
    (∀ ident, (HashMap.collect core.runtime.keyPairs).lookup ident =
      (HashMap.collect after.keyPairs).lookup ident) ∧
    core.runtime.capturesAll = after.capturesAll := by
  intro after
  obtain ⟨_, _, framed⟩ := @buildRefreshPlan_some _ host host.defaultStyle core.runtime cfg
    core.runtime.focus
  have still : after.selector = none := (congrArg RuntimeState.selector framed).trans closed
  have seen : after.hudVisible = core.runtime.hudVisible :=
    (congrArg RuntimeState.hudVisible framed).trans rfl
  have shows : after.rendered = renderedState cfg.baseStyle shown :=
    (@buildLoadedRefreshPlan_yields _ host.script
      { core.runtime with focus := core.runtime.contextWindow core.runtime.focus } cfg closed).2
      shown given
  have binds := (@buildLoadedRefreshPlan_keyPairs _ host.script
    { core.runtime with focus := core.runtime.contextWindow core.runtime.focus } cfg closed).2
  constructor
  · intro ident
    simp only [RuntimeState.keyPairs, closed, still, Option.isSome_none, Bool.false_eq_true,
      if_false]
    apply lookup_bindingKeyPairs (follows.distinct closed) binds
    intro chord
    rw [← offered]
    exact (@buildLoadedRefreshPlan_offers _ host.script
      { core.runtime with focus := core.runtime.contextWindow core.runtime.focus } cfg closed
      shown given chord).symm
  · simp only [RuntimeState.capturesAll, closed, still, seen, shows, Option.isSome_none,
      Bool.false_or]
    cases visible : core.runtime.hudVisible with
    | false => rfl
    | true =>
      rw [← captured visible]
      rfl

/-- A refused refresh that renders nothing again leaves the runtime as it was. -/
theorem rebindAndRefresh_unrendered {core next : Core T} {focus : Option FocusSnapshot}
    {error : EngineError} (ready : core.tally.uiReady host = true)
    (unrendered : core.config.isSome = core.runtime.selector.isSome)
    (failed : core.rebindAndRefresh host focus = (.error error, next)) :
    next.runtime = core.runtime := by
  -- The checkpoint brings back everything but the selector.
  obtain ⟨_, _, rolled⟩ := rebindAndRefresh_error ready failed
  rw [rolled]
  cases loaded : core.config with
  | none =>
    rw [loaded] at unrendered
    have closed : core.runtime.selector = none :=
      Option.isNone_iff_eq_none.mp (Option.isSome_eq_false_iff.mp unrendered.symm)
    unfold rollback firstPlan
    rw [loaded]
    simp only [closed, Option.isSome_none]
    show { core.runtime with selector := none } = core.runtime
    rw [← closed]
  | some cfg =>
    rw [loaded] at unrendered
    obtain ⟨vm, _, framed⟩ :=
      @buildRefreshPlan_some _ host host.defaultStyle core.runtime cfg focus
    unfold rollback firstPlan
    rw [loaded]
    simp only [← unrendered, Option.isSome_some]
    rw [restore_checkpoint, framed]

/-- A refused refresh that can be undone keeps the plan followed. -/
theorem rebindAndRefresh_undone {core : Core T} {focus : Option FocusSnapshot}
    {error : EngineError} (undoable : core.Undoable host (core.firstPlan host focus).2.2)
    (refused : (core.rebindAndRefresh host focus).1 = .error error)
    (follows : core.FollowsPlan host) :
    (core.rebindAndRefresh host focus).2.FollowsPlan host := by
  obtain ⟨chords, guard⟩ := rebindAndRefresh_refused refused
  cases failed : core.rebindAndRefresh host focus with
  | mk outcome next =>
    rw [failed] at refused chords guard
    cases refused
    -- Where the runtime is as before, so is the plan that is followed.
    have back (same : next.runtime = core.runtime) : next.FollowsPlan host :=
      Undisturbed.follows ⟨same ▸ .refl _, chords, guard⟩ follows
    cases ready : core.tally.uiReady host with
    | false =>
      rw [rebindAndRefresh_unready ready] at failed
      cases failed
      exact back rfl
    | true =>
      obtain ⟨cleared, undone⟩ := undoable.resolve_left (by simp [ready])
      cases loaded : core.config with
      | none =>
        have unloaded : (core.firstPlan host focus).2.2 = none := by
          unfold firstPlan
          rw [loaded]
          rfl
        apply back (rebindAndRefresh_unrendered ready _ failed)
        rw [loaded, cleared unloaded]
        rfl
      | some cfg =>
        cases chosen : core.runtime.selector with
        | some selector =>
          apply back (rebindAndRefresh_unrendered ready _ failed)
          rw [loaded, chosen]
          rfl
        | none =>
          obtain ⟨vm, kept, rolled⟩ := rebindAndRefresh_rolled ready chosen loaded failed
          split at rolled
          · -- The stack of before rendered again, as its renderers were expected to.
            rename_i noError
            obtain ⟨shown, given⟩ := (@buildLoadedRefreshPlan_yields _ host.script
              { core.runtime with focus := core.runtime.contextWindow core.runtime.focus }
              { cfg with vm } chosen).1.mp (List.isEmpty_iff.mp noError)
            rcases undone _ kept chosen with failing | ⟨again, rendered, offered, captured⟩
            · exact absurd given (failing shown)
            · obtain ⟨pairs, captures⟩ := follows.rendered_again chosen rendered offered captured
              have binds := buildRefreshPlan_binds host.script host.defaultStyle core.runtime
                (some { cfg with vm }) core.runtime.focus
              refine ⟨core.runtime, some { cfg with vm }, core.runtime.focus, rolled ▸ .refl _,
                fun ident => ?_, ?_⟩
              · rw [chords, follows.keys.1, binds.1]
                exact pairs ident
              · rw [guard, follows.keys.2, binds.2]
                exact captures
          · exact back rolled

/-- A prepared configuration comes with the plan of the runtime it starts in. -/
def Prepared.Planned (host : Host T) (prepared : Prepared T) : Prop :=
  ∃ rt cfg focus, buildRefreshPlan host.script host.defaultStyle rt (some cfg) focus =
    (prepared.plan, prepared.runtime, some prepared.config)

/-- What is prepared is planned. -/
theorem prepareConfig_planned {core read : Core T} {path : String} {mode : ConfigInstall}
    {prepared : Prepared T} (answered : core.prepareConfig host path mode = (.ok prepared, read)) :
    prepared.Planned host := by
  -- The candidate is planned in the context that the current modes leave.
  unfold prepareConfig at answered
  split at answered
  · cases answered
  · rename_i config _
    dsimp only at answered
    split at answered
    · cases answered
      exact ⟨candidateRuntime host config (core.installContext mode).1 (core.installContext mode).2,
        config, (core.installContext mode).2, rfl⟩
    · cases answered

/-- An install that goes through has its plan followed. -/
theorem commitConfig_follows {core next : Core T} {prepared : Prepared T} {changed : Bool}
    (planned : prepared.Planned host)
    (committed : core.commitConfig host prepared = (.ok changed, next)) :
    next.FollowsPlan host := by
  obtain ⟨rt, cfg, focus, built⟩ := planned
  unfold commitConfig at committed
  dsimp only at committed
  split at committed
  · split at committed
    · cases committed
    · rename_i bound manager updated
      cases committed
      -- The diagnostics touch only the UI channel.
      have frame : ∀ after : Core T, after.FollowsPlan host →
          (after.deliverRefreshDiagnostics host prepared.plan.errors
            prepared.plan.warnings).FollowsPlan host := by
        intro after follows
        obtain ⟨more, readings, framed⟩ := @deliverRefreshDiagnostics_frame _ host after
          prepared.plan.errors prepared.plan.warnings
        rw [framed]
        exact follows
      apply frame
      refine ⟨rt, some cfg, focus, ?_, fun ident => ?_, ?_⟩
      · rw [built]
        exact .refl _
      · rw [built]
        refine (KeyBindingManager.chordForIdent_setCaptureAll manager _ ident).trans ?_
        exact KeyBindingManager.updateBindings_ok updated ident
      · rw [built]
        exact KeyBindingManager.setCaptureAll_captureGuard manager _
  · cases committed

/-- An install that is refused disturbs nothing. -/
theorem commitConfig_refused {core : Core T} {prepared : Prepared T} {error : EngineError}
    (refused : (core.commitConfig host prepared).1 = .error error) :
    core.Undisturbed (core.commitConfig host prepared).2 := by
  -- The registrations are refused before the runtime is replaced.
  revert refused
  unfold commitConfig
  dsimp only
  split
  · have guard := @KeyBindingManager.updateBindings_captureGuard _ _ host.hotkeys
      (host.order core.tally.readings) core.tally.manager prepared.plan.keyPairs
    split
    · rename_i error manager answered
      rw [answered] at guard
      exact fun _ => ⟨.refl _, KeyBindingManager.updateBindings_error answered, guard⟩
    · intro refused
      cases refused
  · exact fun _ => .of_same rfl rfl

section Surroundings

variable {host : Surroundings T}

/-- Sending to the UI disturbs nothing. -/
theorem trySendUi_undisturbed {host : Host T} (core : Core T) (message : MsgToUI T) :
    core.Undisturbed (core.trySendUi host message).2 := by
  unfold trySendUi
  split
  · exact .of_same rfl rfl
  · exact .of_same rfl rfl

/-- Notifying of a callback's error disturbs nothing. -/
theorem reportError_undisturbed {α : Type} (core : Core T) (title error : String) :
    core.Undisturbed
      (core.reportError host title error : Except EngineError (Option α) × Core T).2 :=
  core.trySendUi_undisturbed _

/-- Calling a handler disturbs nothing. -/
theorem callHandler_undisturbed (core : Core T) (handler : HandlerRef) (ctx : ModeCtx)
    (permission : ActionRepeatPermission) :
    core.Undisturbed (core.callHandler host handler ctx permission).2 := by
  unfold callHandler
  split
  · exact .of_same rfl rfl
  · split
    · exact .of_same rfl rfl
    · apply Undisturbed.trans _ (reportError_undisturbed _ "Handler" _)
      exact .of_same rfl rfl

/-- Running a terminal handler disturbs nothing. -/
theorem runTerminal_undisturbed (core : Core T) (close : SelectorClose) :
    core.Undisturbed (core.runTerminal host close).2 := by
  unfold runTerminal
  split
  · exact .of_same rfl rfl
  · split
    · exact .of_same rfl rfl
    · apply Undisturbed.trans _ (reportError_undisturbed _ "Selector" _)
      exact .of_same rfl rfl

/-- Resolving items disturbs nothing. -/
theorem resolveItems_undisturbed (core : Core T) (config : SelectorConfig) (ctx : ModeCtx) :
    core.Undisturbed (core.resolveItems host config ctx).2 := by
  unfold resolveItems
  split
  · exact .of_same rfl rfl
  · split
    · exact .of_same rfl rfl
    · apply Undisturbed.trans _ (trySendUi_undisturbed _ _)
      exact .of_same rfl rfl

/-- Resolving a relay target disturbs nothing. -/
theorem resolveRelayDestination_undisturbed (core : Core T) (target : RelayTarget) :
    core.Undisturbed (core.resolveRelayDestination host target).2 := by
  unfold resolveRelayDestination
  split
  · exact .of_same rfl rfl
  · split
    · exact .of_same rfl rfl
    · apply Undisturbed.trans _ (trySendUi_undisturbed _ _)
      exact .of_same rfl rfl
    · apply Undisturbed.trans _ (trySendUi_undisturbed _ _)
      exact .of_same rfl rfl

/-- Preparing a configuration disturbs nothing. -/
theorem prepare_undisturbed (core : Core T) (path : String) (mode : ConfigInstall) :
    core.Undisturbed (core.prepare host path mode).2 := by
  -- Only the readings are counted.
  obtain ⟨readings, framed⟩ := @prepareConfig_frame _ host.toHost core path mode
  unfold prepare
  split
  · rename_i answered
    rw [answered] at framed
    dsimp only at framed ⊢
    rw [framed]
    exact .of_same rfl rfl
  · rename_i answered
    rw [answered] at framed
    dsimp only at framed ⊢
    rw [framed]
    exact .of_same rfl rfl

/-- Results of the matcher disturb nothing. -/
theorem onSelectorNotify_undisturbed (core : Core T) :
    core.Undisturbed (core.onSelectorNotify host).2 := by
  unfold onSelectorNotify
  split
  · exact .of_same rfl rfl
  · rename_i selector opened
    -- Whatever the matcher found, the selector stays open.
    have worked : ∀ after : SelectorState T, core.Undisturbed
        { core with runtime := { core.runtime with selector := some after } } := by
      intro after
      refine ⟨⟨?_, rfl⟩, fun _ => rfl, rfl⟩
      unfold RuntimeState.modes
      rw [opened]
      rfl
    dsimp only
    split
    · exact (worked _).trans (trySendUi_undisturbed _ _)
    · exact worked _

/-- A key that does not close the selector disturbs nothing. -/
theorem handleSelectorInput_undisturbed (core : Core T) (chord : Chord)
    (open_ : core.closesSelector host chord = false) :
    core.Undisturbed (core.handleSelectorInput host chord).2 := by
  -- The selector's own state changes, which no plan for the keys reads.
  cases opened : core.runtime.selector with
  | none =>
    simp only [handleSelectorInput, selectorInput, opened]
    exact .of_same rfl rfl
  | some selector =>
    have worked : ∀ after : SelectorState T, core.Undisturbed
        { core with runtime := { core.runtime with selector := some after } } := by
      intro after
      refine ⟨⟨?_, rfl⟩, fun _ => rfl, rfl⟩
      unfold RuntimeState.modes
      rw [opened]
      rfl
    unfold closesSelector at open_
    rw [opened, Option.any_some] at open_
    cases answered : selector.handleKeyDown host.matching chord with
    | mk event after =>
      rw [answered] at open_
      simp only [handleSelectorInput, selectorInput, opened, answered]
      cases event with
      | update => exact (worked _).trans (trySendUi_undisturbed _ _)
      | select item query => cases open_
      | cancel => cases open_
      | ignored => exact worked after

/-- A key that closes the selector answers with the close, unless it fails. -/
theorem handleSelectorInput_closes {core : Core T} {chord : Chord} {input : SelectorInput}
    (answered : (core.handleSelectorInput host chord).1 = .ok input)
    (stays : ∀ close, input ≠ .close close) : core.closesSelector host chord = false := by
  cases opened : core.runtime.selector with
  | none =>
    unfold closesSelector
    rw [opened]
    rfl
  | some selector =>
    unfold closesSelector
    rw [opened, Option.any_some]
    cases pressed : selector.handleKeyDown host.matching chord with
    | mk event after =>
      simp only [handleSelectorInput, selectorInput, opened, pressed] at answered
      -- A close that is told of is what the key answers.
      have told : ∀ (close : SelectorClose) (sent : Except EngineError Unit),
          sent.map (fun _ => SelectorInput.close close) ≠ .ok input := by
        intro close sent same
        cases sent with
        | error error => cases same
        | ok _ => exact stays close (Except.ok.inj same).symm
      cases event with
      | update => rfl
      | ignored => rfl
      | select item query => exact absurd answered (told _ _)
      | cancel => exact absurd answered (told _ _)

/-- Sending to the UI keeps what is rendered and registered. -/
theorem trySendUi_kept {host : Host T} (core : Core T) (message : MsgToUI T) :
    (core.trySendUi host message).2.runtime.rendered = core.runtime.rendered ∧
      (core.trySendUi host message).2.manager = core.manager := by
  unfold trySendUi
  split
  · exact ⟨rfl, rfl⟩
  · exact ⟨rfl, rfl⟩

/-- A key of the selector keeps what is rendered and registered. -/
theorem handleSelectorInput_kept (core : Core T) (chord : Chord) :
    (core.handleSelectorInput host chord).2.runtime.rendered = core.runtime.rendered ∧
      (core.handleSelectorInput host chord).2.manager = core.manager := by
  -- Messages are sent, and the selector changes or is closed.
  cases opened : core.runtime.selector with
  | none => simp [handleSelectorInput, selectorInput, opened]
  | some selector =>
    cases pressed : selector.handleKeyDown host.matching chord with
    | mk event after =>
      simp only [handleSelectorInput, selectorInput, opened, pressed]
      cases event with
      | update => exact trySendUi_kept _ _
      | select item query => exact trySendUi_kept _ _
      | cancel => exact trySendUi_kept _ _
      | ignored => exact ⟨rfl, rfl⟩

/-- Opening a selector keeps what is rendered and registered. -/
theorem openSelector_kept (core : Core T) (config : SelectorConfig) (items : List SelectorItem)
    (ctx : ModeCtx) :
    (core.openSelector host config items ctx).2.runtime.rendered = core.runtime.rendered ∧
      (core.openSelector host config items ctx).2.manager = core.manager :=
  trySendUi_kept _ _

end Surroundings

end Core

/-- Navigation keeps what is rendered. -/
theorem RuntimeState.applyNavRequest_rendered (rt : RuntimeState T) (window : Option FocusSnapshot)
    (request : NavRequest) : (rt.applyNavRequest window request).2.rendered = rt.rendered := by
  -- Navigation changes the stack, which is rendered only by the next refresh.
  have popped : rt.popMode.rendered = rt.rendered := by
    unfold RuntimeState.popMode
    split <;> rfl
  cases request with
  | pop =>
    show (if rt.popMode.depth = 0 then { rt.popMode.endSession with hudVisible := false }
      else rt.popMode).rendered = rt.rendered
    split
    · exact popped
    · exact popped
  | _ => rfl

namespace LiveEngine

variable {host : Surroundings T}

/-- Setting the cached focus disturbs nothing. -/
theorem setFocus_undisturbed (engine : LiveEngine T) (focus : Option FocusSnapshot) :
    engine.core.Undisturbed (engine.setFocus focus).2.core := by
  unfold setFocus
  split
  · exact .of_same rfl rfl
  · exact .of_same rfl rfl

/-- Resolving a chord disturbs nothing, whether or not the HUD is told. -/
theorem resolveAndNotify_undisturbed (engine : LiveEngine T) (chord : Chord) (ident : String)
    (focus : Option FocusSnapshot) (allowed : Bool) :
    engine.core.Undisturbed (engine.resolveAndNotify host chord ident focus allowed).2.core := by
  -- An unbound chord changes nothing, and a bound one at most tells the HUD.
  unfold resolveAndNotify
  split
  · exact .of_same rfl rfl
  · rename_i resolved _
    split
    · have told := @Core.trySendUi_undisturbed _ host.toHost engine.core (.hudKeyState chord true)
      split
      · rename_i core sent
        rw [sent] at told
        exact told
      · rename_i core sent
        rw [sent] at told
        exact told
    · exact .of_same rfl rfl

end LiveEngine

namespace Segment

variable [BEq T.Displays] (host : Surroundings T)

/-- Whether a segment renews what is registered, if it goes through. -/
def renews : Segment T → Bool
  | .commit _ | .rebind _ => true
  | _ => false

/-- Whether a segment is part of an install. -/
def installs : Segment T → Bool
  | .prepare _ _ | .commit _ => true
  | _ => false

/-- Whether a segment neither navigates, nor opens or closes a selector, nor renews anything. -/
def calm : Segment T → Bool
  | .selectorInput _ | .pushMode _ _ _ | .navigate _ _ | .openSelector _ _ _ => false
  | segment => !segment.renews

/-- Whether an answer is an error. -/
def refused : (segment : Segment T) → segment.Answer → Bool
  | selectorInput _, answer => !Except.toBool answer
  | runTerminal _, answer => !Except.toBool answer
  | callHandler _ _ _, answer => !Except.toBool answer
  | send _, answer => !Except.toBool answer
  | resolveItems _ _, answer => !Except.toBool answer
  | openSelector _ _ _, answer => !Except.toBool answer
  | selectorNotify, answer => !Except.toBool answer
  | resolveRelay _, answer => !Except.toBool answer
  | prepare _ _, answer => !Except.toBool answer
  | commit _, answer => !Except.toBool answer
  | rebind _, answer => !Except.toBool answer
  | publishHud _ _, answer => !Except.toBool answer
  | _, _ => false

/-- Whether a segment fails in a state. -/
def fails (segment : Segment T) (engine : LiveEngine T) : Bool :=
  segment.refused (segment.perform host engine).1

/-- Whether a segment changes the modes of a state. -/
def disturbs (segment : Segment T) (engine : LiveEngine T) : Bool :=
  decide ((segment.perform host engine).2.core.runtime.modes ≠ engine.core.runtime.modes)

end Segment

/-- What an operation in progress owes: a tick never refreshes, and any other operation owes a
refresh since it changed the modes. -/
inductive Duty where
  | tick
  | owing (due : Bool)
  deriving DecidableEq

namespace Duty

/-- Whether a refresh is due. -/
def due : Duty → Bool
  | tick => false
  | owing due => due

/-- What a new operation owes. -/
def fresh : EngineOperation → Duty
  | .tick _ _ => tick
  | _ => owing false

variable [BEq T.Displays] (host : Surroundings T)

/-- What an operation owes after a segment. -/
def next (duty : Duty) (engine : LiveEngine T) (segment : Segment T) : Duty :=
  match duty with
  | tick => tick
  | owing due =>
    if segment.renews then owing (due && segment.fails host engine)
    else owing (due || segment.disturbs host engine)

/-- What keeps the registered keys those of the modes: ticks leave the modes alone, nothing fails
while a refresh is due but an install, and a refresh that fails leaves the modes alone or can be
undone. -/
structure Careful (duty : Duty) (engine : LiveEngine T) (segment : Segment T) : Prop where
  calm : duty = tick → segment.renews = false → segment.disturbs host engine = false
  passes : segment.installs = false → segment.fails host engine = true →
    (duty.next host engine segment).due = false
  restored : ∀ focus, segment = .rebind focus → segment.fails host engine = true →
    engine.core.runtime.Alike (segment.perform host engine).2.core.runtime ∨
      engine.core.Undoable host.toHost (engine.core.firstPlan host.toHost focus).2.2

/-- What operations owe, and the care that is taken of it. -/
def ownership : Ownership (LiveEngine T) (Segment T) Duty where
  evolve duty engine segment := duty.next host engine segment
  careful duty engine segment := duty.Careful host engine segment
  allowed segment := ∀ config, segment = .commit config → config.prepared.Planned host.toHost

end Duty

namespace Segment

variable [BEq T.Displays] {host : Surroundings T} {segment : Segment T} {engine : LiveEngine T}

/-- An answer that is an error is one. -/
theorem refused_of_error {α : Type} {answer : Except EngineError α} {error : EngineError}
    (same : answer = .error error) : (!Except.toBool answer) = true := by
  rw [same]
  rfl

/-- A calm segment disturbs nothing. -/
theorem perform_calm (calm : segment.calm = true) :
    engine.core.Undisturbed (segment.perform host engine).2.core := by
  -- The segments that could disturb anything are those excluded.
  cases segment with
  | selectorInput | pushMode | navigate | openSelector | commit | rebind => cases calm
  | runTerminal close => exact engine.core.runTerminal_undisturbed close
  | callHandler handler ctx permission =>
    exact engine.core.callHandler_undisturbed handler ctx permission
  | resolveItems config ctx => exact engine.core.resolveItems_undisturbed config ctx
  | resolveRelay target => exact engine.core.resolveRelayDestination_undisturbed target
  | send message => exact engine.core.trySendUi_undisturbed message
  | selectorNotify => exact engine.core.onSelectorNotify_undisturbed
  | publishHud hud displays =>
    apply Core.Undisturbed.trans _ (Core.trySendUi_undisturbed _ _)
    exact .of_same rfl rfl
  | prepare path mode => exact engine.core.prepare_undisturbed path mode
  | resolveKey chord ident focus allowed =>
    exact engine.resolveAndNotify_undisturbed chord ident focus allowed
  | setFocus focus => exact engine.setFocus_undisturbed focus
  | syncFocus =>
    have read : engine.core.Undisturbed engine.core.tally := .of_same rfl rfl
    exact read.trans (LiveEngine.setFocus_undisturbed { engine with core := engine.core.tally } _)
  | startLoop ident held =>
    show engine.core.Undisturbed (if engine.keyTracker.isDown ident then
      { engine with actionLoops := engine.actionLoops.insert ident held } else engine).core
    split
    · exact .of_same rfl rfl
    · exact .of_same rfl rfl
  | _ => exact .of_same rfl rfl

/-- A segment that neither renews anything nor changes the modes disturbs nothing. -/
theorem perform_undisturbed (keeps : segment.renews = false)
    (still : segment.disturbs host engine = false) :
    engine.core.Undisturbed (segment.perform host engine).2.core := by
  -- The modes were compared before and after, so the segments that may change them changed none.
  have modes := not_not.mp (of_decide_eq_false still)
  cases segment with
  | selectorInput chord =>
    obtain ⟨rendered, manager⟩ := @Core.handleSelectorInput_kept _ host engine.core chord
    exact .of_kept modes rendered manager
  | pushMode binding mode window => exact .of_kept modes rfl rfl
  | navigate request window =>
    exact .of_kept modes (engine.core.runtime.applyNavRequest_rendered window request) rfl
  | openSelector config items ctx =>
    obtain ⟨rendered, manager⟩ := @Core.openSelector_kept _ host engine.core config items ctx
    exact .of_kept modes rendered manager
  | commit | rebind => cases keeps
  | _ => exact perform_calm rfl

/-- A segment that renews what is registered, and goes through, has its plan followed. -/
theorem perform_renewed (renews : segment.renews = true)
    (allowed : (Duty.ownership host).allowed segment) (goes : segment.fails host engine = false) :
    (segment.perform host engine).2.core.FollowsPlan host.toHost := by
  -- The segments that renew are the refresh and the commit, and each follows its own plan.
  cases segment with
  | rebind focus =>
    cases answered : engine.core.rebindAndRefresh host.toHost focus with
    | mk outcome core =>
      simp only [fails, perform, answered] at goes ⊢
      cases outcome with
      | ok changed => exact Core.rebindAndRefresh_follows answered
      | error error => cases goes
  | commit config =>
    cases answered : engine.core.commitConfig host.toHost config.prepared with
    | mk outcome core =>
      simp only [fails, perform, answered] at goes ⊢
      cases outcome with
      | ok changed => exact Core.commitConfig_follows (allowed config rfl) answered
      | error error => cases goes
  | _ => cases renews

/-- A segment that is refused to renew anything keeps the plan followed, if what it tried is
undone. -/
theorem perform_refused (renews : segment.renews = true)
    (refuses : segment.fails host engine = true)
    (restored : ∀ focus, segment = .rebind focus → engine.core.runtime.Alike
      (segment.perform host engine).2.core.runtime ∨
        engine.core.Undoable host.toHost (engine.core.firstPlan host.toHost focus).2.2)
    (follows : engine.core.FollowsPlan host.toHost) :
    (segment.perform host engine).2.core.FollowsPlan host.toHost := by
  -- What a refused segment tried is undone before it answers.
  cases segment with
  | rebind focus =>
    have undone := restored focus rfl
    have keys := @Core.rebindAndRefresh_refused _ host.toHost engine.core focus
    have again := @Core.rebindAndRefresh_undone _ host.toHost engine.core focus
    cases answered : engine.core.rebindAndRefresh host.toHost focus with
    | mk outcome core =>
      simp only [fails, perform, answered] at refuses undone keys again ⊢
      cases outcome with
      | ok changed => cases refuses
      | error error =>
        rcases undone with alike | undoable
        · exact Core.Undisturbed.follows ⟨alike, (keys rfl).1, (keys rfl).2⟩ follows
        · exact again undoable rfl follows
  | commit config =>
    cases answered : engine.core.commitConfig host.toHost config.prepared with
    | mk outcome core =>
      have same := @Core.commitConfig_refused _ host.toHost engine.core config.prepared
      simp only [fails, perform, answered] at refuses same ⊢
      cases outcome with
      | ok changed => cases refuses
      | error error => exact (same rfl).follows follows
  | _ => cases renews

/-- A calm segment does not change the modes. -/
theorem disturbs_of_calm (calm : segment.calm = true) : segment.disturbs host engine = false :=
  decide_eq_false (not_not.mpr (perform_calm calm).runtime.modes)

end Segment

end Hotki

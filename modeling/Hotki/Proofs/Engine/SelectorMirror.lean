import Hotki.Proofs.Engine.Activities
import Hotki.Proofs.Engine.Fixpoint

/-! The selector window the UI was last told of, beside the selector of the runtime. -/

namespace Hotki

open Base Script

variable {T : Externals}

/-- Whether a message shows a selector or hides it, if it is about selectors. -/
def MsgToUI.showsSelector : MsgToUI T → Option Bool
  | .selectorUpdate _ => some true
  | .selectorHide => some false
  | _ => none

/-- What the messages about selectors told the UI, in order. -/
def selectorMessages (sent : List (MsgToUI T)) : List Bool := sent.filterMap MsgToUI.showsSelector

namespace Core

/-- The last message about selectors shows one if and only if the runtime has one open. -/
def SelectorMirrored (core : Core T) : Prop :=
  (selectorMessages core.sent).getLast? = some true ↔ core.runtime.selector.isSome = true

/-- What holds of a state: the selector is mirrored, and belongs to a configuration. -/
structure Mirrors (core : Core T) : Prop where
  mirrored : core.SelectorMirrored
  loaded : core.runtime.selector.isSome = true → core.config.isSome = true

/-- What leaves the selector and what was told of it alone. -/
structure SameSelector (before after : Core T) : Prop where
  told : selectorMessages after.sent = selectorMessages before.sent
  selector : after.runtime.selector.isSome = before.runtime.selector.isSome
  config : before.config.isSome = true → after.config.isSome = true

/-- A state with the same selector mirrors it as before. -/
theorem SameSelector.mirrors {before after : Core T} (same : SameSelector before after)
    (mirrors : before.Mirrors) : after.Mirrors := by
  constructor
  · unfold SelectorMirrored
    rw [same.told, same.selector]
    exact mirrors.mirrored
  · intro opened
    rw [same.selector] at opened
    exact same.config (mirrors.loaded opened)

/-- Two changes that leave the selector alone leave it alone together. -/
theorem SameSelector.trans {first second third : Core T} (left : SameSelector first second)
    (right : SameSelector second third) : SameSelector first third :=
  ⟨right.told.trans left.told, right.selector.trans left.selector,
    fun loaded => right.config (left.config loaded)⟩

variable {host : Host T}

/-- A message that is not about selectors leaves the selector alone. -/
theorem post_same (core : Core T) {message : MsgToUI T} (silent : message.showsSelector = none) :
    SameSelector core (core.post message) := by
  refine ⟨?_, rfl, id⟩
  show selectorMessages (core.sent ++ [message]) = _
  unfold selectorMessages
  rw [List.filterMap_append, List.filterMap_cons_none silent]
  exact List.append_nil _

/-- Such a message leaves the selector alone, taken or not. -/
theorem trySendUi_same (core : Core T) {message : MsgToUI T}
    (silent : message.showsSelector = none) :
    SameSelector core (core.trySendUi host message).2 := by
  unfold trySendUi
  split
  · have read : SameSelector core core.tally := ⟨rfl, rfl, id⟩
    exact read.trans (core.tally.post_same silent)
  · exact ⟨rfl, rfl, id⟩

/-- A message about selectors that is taken is the last one about them. -/
theorem post_last (core : Core T) {message : MsgToUI T} {shown : Bool}
    (shows : message.showsSelector = some shown) :
    (selectorMessages (core.post message).sent).getLast? = some shown := by
  show (selectorMessages (core.sent ++ [message])).getLast? = _
  unfold selectorMessages
  rw [List.filterMap_append, List.filterMap_cons_some shows]
  exact List.getLast?_concat

/-- Another snapshot of an open selector mirrors it, taken or not. -/
theorem Mirrors.updated {core : Core T} (mirrors : core.Mirrors)
    (opened : core.runtime.selector.isSome = true) (selector : SelectorState T)
    (snapshot : SelectorSnapshot) :
    ({ core with runtime := { core.runtime with selector := some selector } }.trySendUi host
      (.selectorUpdate snapshot)).2.Mirrors := by
  -- The UI takes the snapshot or not, and shows a selector either way.
  unfold trySendUi
  split
  · refine ⟨?_, fun _ => mirrors.loaded opened⟩
    unfold SelectorMirrored
    rw [post_last _ rfl]
    exact iff_of_true rfl rfl
  · refine ⟨?_, fun _ => mirrors.loaded opened⟩
    exact mirrors.mirrored.trans (iff_of_true opened rfl)

/-- A plan keeps the selector under a configuration, and drops it without one. -/
theorem buildRefreshPlan_selector (script : ScriptHost T) (style : T.Style) (rt : RuntimeState T)
    (cfg : Option (LoadedConfig T)) (focus : Option FocusSnapshot) :
    (buildRefreshPlan script style rt cfg focus).2.1.selector =
        (if cfg.isSome then rt.selector else none) ∧
      (buildRefreshPlan script style rt cfg focus).2.2.isSome = cfg.isSome := by
  -- Without a configuration there is nothing a selector could select.
  cases cfg with
  | none => exact ⟨rfl, rfl⟩
  | some cfg =>
    refine ⟨?_, rfl⟩
    show (buildLoadedRefreshPlan script { rt with focus := rt.contextWindow focus } cfg).2.1.selector =
      rt.selector
    rw [buildLoadedRefreshPlan_frame]

/-- A rollback has the selector of the refresh that failed, and a configuration if that had one. -/
theorem rollback_selector (saved failed : RuntimeState T) (config : Option (LoadedConfig T)) :
    (rollback host saved failed config).1.selector =
        failed.selector ∧ (rollback host saved failed config).2.isSome = config.isSome := by
  -- The rollback plans once more, from the state that the failed refresh has left.
  unfold rollback
  dsimp only
  split
  · rename_i cfg _
    have planned := buildRefreshPlan_selector host.script host.defaultStyle
      (failed.restore saved.checkpoint) (some cfg) saved.focus
    split
    · exact planned
    · exact ⟨planned.1, planned.2⟩
  · exact ⟨rfl, rfl⟩

/-- Diagnostics leave the selector alone. -/
theorem deliverRefreshDiagnostics_same (core : Core T) (errors : List String)
    (warnings : List Effect) :
    SameSelector core (core.deliverRefreshDiagnostics host errors warnings) := by
  refine ⟨deliverRefreshDiagnostics_view (fun _ _ _ => rfl) core errors warnings, ?_, fun loaded => ?_⟩
  · obtain ⟨more, readings, framed⟩ := @deliverRefreshDiagnostics_frame _ host core errors warnings
    rw [framed]
  · obtain ⟨more, readings, framed⟩ := @deliverRefreshDiagnostics_frame _ host core errors warnings
    rw [framed]
    exact loaded

/-- An update that is sent leaves the selector alone if the state behind it does. -/
theorem SameSelector.published {before after : Core T} (same : SameSelector before after)
    (hud : HudState T) (displays : T.Displays) (errors : List String) (warnings : List Effect) :
    SameSelector before
      ((after.post (.hudUpdate hud displays)).deliverRefreshDiagnostics host errors warnings) := by
  apply same.trans
  exact .trans (after.post_same rfl) (deliverRefreshDiagnostics_same _ errors warnings)

/-- A refresh leaves the selector alone, whether it succeeds or fails. -/
theorem rebindAndRefresh_same {core : Core T} (loaded : core.runtime.selector.isSome = true →
    core.config.isSome = true) (focus : Option FocusSnapshot) :
    SameSelector core (core.rebindAndRefresh host focus).2 := by
  -- Neither the plan nor its rollback opens or closes a selector.
  have planned := buildRefreshPlan_selector host.script host.defaultStyle core.runtime core.config
    focus
  have kept : (buildRefreshPlan host.script host.defaultStyle core.runtime core.config
      focus).2.1.selector.isSome = core.runtime.selector.isSome := by
    rw [planned.1]
    split
    · rfl
    · rename_i absent
      cases opened : core.runtime.selector with
      | none => rfl
      | some selector =>
        rw [opened] at loaded
        exact absurd (loaded rfl) absent
  unfold rebindAndRefresh
  dsimp only
  split
  · split
    · -- The update is refused, and the refresh rolled back.
      obtain ⟨selector, config⟩ := @rollback_selector _ host core.runtime
        (buildRefreshPlan host.script host.defaultStyle core.runtime core.config focus).2.1
        (buildRefreshPlan host.script host.defaultStyle core.runtime core.config focus).2.2
      refine ⟨rfl, ?_, fun before => ?_⟩
      · exact (congrArg Option.isSome selector).trans kept
      · exact config.trans (planned.2.trans before)
    · apply SameSelector.published
      exact ⟨rfl, kept, fun before => planned.2.trans before⟩
  · exact ⟨rfl, rfl, id⟩

/-- A commit leaves the selector alone if it fails or finds none, as the new runtime has none. -/
theorem commitConfig_same {core : Core T} {prepared : Prepared T}
    (closed : prepared.runtime.selector = none)
    (careful : (core.commitConfig host prepared).1.toBool = true → core.runtime.selector = none) :
    SameSelector core (core.commitConfig host prepared).2 := by
  -- A commit that fails has changed nothing yet, and one that succeeds has the new runtime.
  revert careful
  unfold commitConfig
  dsimp only
  split
  · split
    · exact fun _ => ⟨rfl, rfl, id⟩
    · intro careful
      apply SameSelector.published
      refine ⟨rfl, ?_, fun _ => rfl⟩
      show prepared.runtime.selector.isSome = core.runtime.selector.isSome
      rw [closed, careful rfl]
  · exact fun _ => ⟨rfl, rfl, id⟩

/-- Notifying of a callback's error leaves the selector alone. -/
theorem reportError_same {host : Surroundings T} {α : Type} (core : Core T) (title error : String) :
    SameSelector core (core.reportError host title error : Except EngineError (Option α) × Core T).2 :=
  trySendUi_same core rfl

variable {host : Surroundings T}

/-- Calling a handler leaves the selector alone. -/
theorem callHandler_same (core : Core T) (handler : HandlerRef) (ctx : ModeCtx)
    (permission : ActionRepeatPermission) :
    SameSelector core (core.callHandler host handler ctx permission).2 := by
  unfold callHandler
  split
  · exact ⟨rfl, rfl, id⟩
  · split
    · exact ⟨rfl, rfl, fun _ => rfl⟩
    · refine .trans ?_ (reportError_same _ "Handler" _)
      exact ⟨rfl, rfl, fun _ => rfl⟩

/-- The terminal handler of a closed selector leaves the selector of the runtime alone. -/
theorem runTerminal_same (core : Core T) (close : SelectorClose) :
    SameSelector core (core.runTerminal host close).2 := by
  unfold runTerminal
  split
  · exact ⟨rfl, rfl, id⟩
  · split
    · exact ⟨rfl, rfl, fun _ => rfl⟩
    · refine .trans ?_ (reportError_same _ "Selector" _)
      exact ⟨rfl, rfl, fun _ => rfl⟩

/-- Resolving items leaves the selector alone. -/
theorem resolveItems_same (core : Core T) (config : SelectorConfig) (ctx : ModeCtx) :
    SameSelector core (core.resolveItems host config ctx).2 := by
  unfold resolveItems
  split
  · exact ⟨rfl, rfl, id⟩
  · split
    · exact ⟨rfl, rfl, fun _ => rfl⟩
    · rename_i error cfg _
      refine .trans ?_ (trySendUi_same { core with config := some cfg } rfl)
      exact ⟨rfl, rfl, fun _ => rfl⟩

/-- Resolving a relay target leaves the selector alone. -/
theorem resolveRelayDestination_same (core : Core T) (target : RelayTarget) :
    SameSelector core (core.resolveRelayDestination host target).2 := by
  have tallied : SameSelector core core.tally := ⟨rfl, rfl, id⟩
  cases target with
  | focused => exact ⟨rfl, rfl, id⟩
  | applicationName name =>
    simp only [resolveRelayDestination]
    split
    · exact tallied
    · exact tallied.trans (trySendUi_same core.tally rfl)
    · exact tallied.trans (trySendUi_same core.tally rfl)

/-- Preparing a configuration leaves the selector alone. -/
theorem prepare_same (core : Core T) (path : String) (mode : ConfigInstall) :
    SameSelector core (core.prepare host path mode).2 := by
  -- Preparing only reads, and counts its readings.
  obtain ⟨readings, framed⟩ := @prepareConfig_frame _ host.toHost core path mode
  have only : (core.prepare host path mode).2 = (core.prepareConfig host.toHost path mode).2 := by
    unfold prepare
    split
    · rename_i answered
      exact (congrArg Prod.snd answered).symm
    · rename_i answered
      exact (congrArg Prod.snd answered).symm
  rw [only, framed]
  exact ⟨rfl, rfl, id⟩

/-- A navigation request leaves the selector alone. -/
theorem applyNavRequest_selector (rt : RuntimeState T) (window : Option FocusSnapshot)
    (request : NavRequest) : (rt.applyNavRequest window request).2.selector = rt.selector := by
  -- Leaving a mode, or all of them, is not closing the selector.
  cases request with
  | pop =>
    unfold RuntimeState.applyNavRequest
    dsimp only
    have popped : rt.popMode.selector = rt.selector := by
      unfold RuntimeState.popMode
      split <;> rfl
    split
    · exact popped
    · exact popped
  | _ => rfl

/-- Whether a key closes the active selector. -/
def closesSelector (host : Surroundings T) (core : Core T) (chord : Chord) : Bool :=
  core.runtime.selector.any fun selector =>
    match (selector.handleKeyDown host.matching chord).1 with
    | .select _ _ | .cancel => true
    | _ => false

/-- Closing the selector keeps it mirrored, if the UI takes the message that hides it. -/
theorem Mirrors.closed {core : Core T} (selector : SelectorState T)
    (ready : core.uiReady host.toHost = true) :
    ({ core with runtime := core.runtime.closeSelector selector }.trySendUi host.toHost
      .selectorHide).2.Mirrors := by
  -- The message that hides the selector is sent with its closing.
  unfold trySendUi
  split
  · refine ⟨?_, fun opened => by cases opened⟩
    unfold SelectorMirrored
    rw [post_last _ rfl]
    exact iff_of_false (by decide) (fun opened => by cases opened)
  · rename_i refused
    exact absurd ready refused

/-- A key keeps the selector mirrored, if the UI takes the message that hides a closed one. -/
theorem Mirrors.input {core : Core T} (mirrors : core.Mirrors) {chord : Chord}
    (careful : core.closesSelector host chord = true → core.uiReady host.toHost = true) :
    (core.handleSelectorInput host chord).2.Mirrors := by
  cases opened : core.runtime.selector with
  | none =>
    simp only [handleSelectorInput, selectorInput, opened]
    exact mirrors
  | some selector =>
    have isOpen : core.runtime.selector.isSome = true := by rw [opened]; rfl
    have closing : core.closesSelector host chord =
        match (selector.handleKeyDown host.matching chord).1 with
        | .select _ _ | .cancel => true
        | _ => false := by
      unfold closesSelector
      rw [opened]
      rfl
    cases answered : selector.handleKeyDown host.matching chord with
    | mk event after =>
      rw [answered] at closing
      simp only [handleSelectorInput, selectorInput, opened, answered]
      cases event with
      | update => exact mirrors.updated isOpen _ _
      | select item query => exact .closed after (careful closing)
      | cancel => exact .closed after (careful closing)
      | ignored =>
        have same : SameSelector core
            { core with runtime := { core.runtime with selector := some after } } :=
          ⟨rfl, isOpen.symm, id⟩
        exact same.mirrors mirrors

/-- A selector that is opened is mirrored, if the UI takes its first snapshot. -/
theorem Mirrors.opened {core : Core T} (loaded : core.config.isSome = true)
    (ready : core.uiReady host.toHost = true) (config : SelectorConfig) (items : List SelectorItem)
    (ctx : ModeCtx) : (core.openSelector host config items ctx).2.Mirrors := by
  unfold openSelector trySendUi
  dsimp only
  split
  · refine ⟨?_, fun _ => loaded⟩
    unfold SelectorMirrored
    rw [post_last _ rfl]
    exact iff_of_true rfl rfl
  · rename_i refused
    exact absurd ready refused

/-- Sending to the UI leaves the configuration alone. -/
theorem trySendUi_config {host : Host T} (core : Core T) (message : MsgToUI T) :
    (core.trySendUi host message).2.config = core.config := by
  unfold trySendUi
  split <;> rfl

/-- A key of a selector leaves the configuration alone. -/
theorem handleSelectorInput_config (core : Core T) (chord : Chord) :
    (core.handleSelectorInput host chord).2.config = core.config := by
  have input : (core.selectorInput host chord).2.config = core.config := by
    unfold selectorInput
    split
    · rfl
    · dsimp only
      split <;> rfl
  unfold handleSelectorInput
  dsimp only
  split
  · exact (trySendUi_config _ _).trans input
  · exact (trySendUi_config _ _).trans input
  · exact input

/-- News of the matcher leave the configuration alone. -/
theorem onSelectorNotify_config (core : Core T) :
    (core.onSelectorNotify host).2.config = core.config := by
  unfold onSelectorNotify
  split
  · rfl
  · dsimp only
    split
    · exact trySendUi_config _ _
    · rfl

/-- News of the matcher keep the selector mirrored, whether or not they are taken. -/
theorem Mirrors.notified {core : Core T} (mirrors : core.Mirrors) :
    (core.onSelectorNotify host).2.Mirrors := by
  unfold onSelectorNotify
  split
  · exact mirrors
  · rename_i selector opened
    have isOpen : core.runtime.selector.isSome = true := by rw [opened]; rfl
    dsimp only
    split
    · exact mirrors.updated isOpen _ _
    · have same : SameSelector core { core with
          runtime := { core.runtime with selector := some (selector.tick host.matching).2 } } :=
        ⟨rfl, isOpen.symm, id⟩
      exact same.mirrors mirrors

end Core

namespace LiveEngine

variable {host : Surroundings T}

/-- Caching a focus leaves the selector alone. -/
theorem setFocus_same (engine : LiveEngine T) (focus : Option FocusSnapshot) :
    Core.SameSelector engine.core (engine.setFocus focus).2.core := by
  unfold setFocus
  split
  · exact ⟨rfl, rfl, id⟩
  · exact ⟨rfl, rfl, id⟩

/-- Resolving a key leaves the selector alone, whether or not the HUD is told of the press. -/
theorem resolveAndNotify_same (engine : LiveEngine T) (chord : Chord) (ident : String)
    (focus : Option FocusSnapshot) (allowed : Bool) :
    Core.SameSelector engine.core
      (engine.resolveAndNotify host chord ident focus allowed).2.core := by
  unfold resolveAndNotify
  split
  · exact ⟨rfl, rfl, id⟩
  · have told := @Core.trySendUi_same _ host.toHost engine.core (.hudKeyState chord true) rfl
    split
    · split
      · rename_i answered
        rw [answered] at told
        exact told
      · rename_i answered
        rw [answered] at told
        exact told
    · exact ⟨rfl, rfl, id⟩

end LiveEngine

namespace Segment

variable {host : Surroundings T}

/-- Whether a segment keeps the selector mirrored: the UI takes the message that shows or hides a
selector, and no configuration is installed over an open one. -/
def SelectorCareful (host : Surroundings T) (engine : LiveEngine T) : Segment T → Prop
  | .selectorInput chord =>
    engine.core.closesSelector host chord = true → engine.core.uiReady host.toHost = true
  | .openSelector _ _ _ => engine.core.uiReady host.toHost = true
  | .commit config => (engine.core.commitConfig host.toHost config.prepared).1.toBool = true →
      engine.core.runtime.selector = none
  | _ => True

/-- Whether a segment opens a selector. -/
def opens : Segment T → Bool
  | .openSelector _ _ _ => true
  | _ => false

/-- The message of a segment that only sends. -/
def message : Segment T → Option (MsgToUI T)
  | .send message | .deliver message => some message
  | _ => none

/-- Whether an operation that has seen a configuration, or has not yet, may go on with a segment:
only one that has opens a selector, and messages about selectors are sent with what they tell. -/
structure Informed (informed : Bool) (engine : LiveEngine T) (segment : Segment T)
    (after : Bool) : Prop where
  opened : segment.opens = true → informed = true
  silent : ∀ message, segment.message = some message → message.showsSelector = none
  learned : after = true → informed = true ∨ engine.core.config.isSome = true

/-- Whether a segment opens no selector and sends no message about one by itself. -/
def plain : Segment T → Bool
  | .openSelector _ _ _ => false
  | .send message | .deliver message => message.showsSelector.isNone
  | _ => true

/-- A plain segment is allowed to whoever gives it, and teaches nothing. -/
theorem Informed.of_plain {segment : Segment T} (plain : segment.plain = true) (informed : Bool)
    (engine : LiveEngine T) : Informed informed engine segment informed := by
  constructor
  · intro opens
    cases segment with
    | openSelector => cases plain
    | _ => cases opens
  · intro message sent
    cases segment with
    | send message => exact Option.some.inj sent ▸ Option.isNone_iff_eq_none.mp plain
    | deliver message => exact Option.some.inj sent ▸ Option.isNone_iff_eq_none.mp plain
    | _ => cases sent
  · exact .inl

/-- The end of an install or refresh is that of the core. -/
theorem rebound_core (engine : LiveEngine T) (result : Except EngineError Bool × Core T) :
    (engine.rebound result).2.core = result.2 := by
  obtain ⟨answer, core⟩ := result
  cases answer <;> rfl

/-- Every careful segment keeps the selector mirrored, and what is loaded loaded. -/
theorem perform_mirrors [BEq T.Displays] {segment : Segment T} {engine : LiveEngine T}
    (careful : segment.SelectorCareful host engine)
    (silent : ∀ message, segment.message = some message → message.showsSelector = none)
    (opens : segment.opens = true → engine.core.config.isSome = true)
    (mirrors : engine.core.Mirrors) :
    (segment.perform host engine).2.core.Mirrors ∧ (engine.core.config.isSome = true →
      (segment.perform host engine).2.core.config.isSome = true) := by
  -- Most segments neither touch the selector nor tell of it.
  have same : ∀ {after : Core T}, Core.SameSelector engine.core after →
      after.Mirrors ∧ (engine.core.config.isSome = true → after.config.isSome = true) :=
    fun kept => ⟨kept.mirrors mirrors, kept.config⟩
  cases segment with
  | selectorInput chord =>
    refine ⟨mirrors.input careful, fun loaded => ?_⟩
    exact (congrArg Option.isSome (engine.core.handleSelectorInput_config chord)).trans loaded
  | openSelector config items ctx =>
    refine ⟨.opened (opens rfl) careful config items ctx, fun loaded => ?_⟩
    exact (congrArg Option.isSome (Core.trySendUi_config _ _)).trans loaded
  | selectorNotify =>
    refine ⟨mirrors.notified, fun loaded => ?_⟩
    exact (congrArg Option.isSome engine.core.onSelectorNotify_config).trans loaded
  -- An installation drops the selector, and is only careful where none is open.
  | commit config =>
    have kept := same (Core.commitConfig_same config.closed careful)
    rw [← rebound_core engine] at kept
    exact kept
  | rebind focus =>
    have kept := same (@Core.rebindAndRefresh_same _ host.toHost engine.core mirrors.loaded focus)
    rw [← rebound_core engine] at kept
    exact kept
  | runTerminal close => exact same (engine.core.runTerminal_same close)
  | callHandler handler ctx permission =>
    exact same (engine.core.callHandler_same handler ctx permission)
  | resolveItems config ctx => exact same (engine.core.resolveItems_same config ctx)
  | resolveRelay target => exact same (engine.core.resolveRelayDestination_same target)
  | send message => exact same (engine.core.trySendUi_same (silent message rfl))
  | deliver message => exact same (engine.core.post_same (silent message rfl))
  | publishHud hud displays =>
    apply same
    have cached : Core.SameSelector engine.core { engine.core with displaySnapshot := displays } :=
      ⟨rfl, rfl, id⟩
    exact cached.trans (Core.trySendUi_same _ rfl)
  | prepare path mode => exact same (engine.core.prepare_same path mode)
  | resolveKey chord ident focus allowed =>
    exact same (engine.resolveAndNotify_same chord ident focus allowed)
  -- Navigation leaves an open selector open.
  | navigate request window =>
    apply same
    refine ⟨rfl, ?_, id⟩
    exact congrArg Option.isSome (Core.applyNavRequest_selector _ window request)
  | setFocus focus => exact same (engine.setFocus_same focus)
  | syncFocus =>
    apply same
    have read : Core.SameSelector engine.core engine.core.tally := ⟨rfl, rfl, id⟩
    exact read.trans (LiveEngine.setFocus_same { engine with core := engine.core.tally } _)
  | startLoop ident held =>
    apply same
    show Core.SameSelector engine.core (if engine.keyTracker.isDown ident then
      { engine with actionLoops := engine.actionLoops.insert ident held } else engine).core
    split
    · exact ⟨rfl, rfl, id⟩
    · exact ⟨rfl, rfl, id⟩
  | _ => exact same ⟨rfl, rfl, id⟩

end Segment

end Hotki

import Hotki.Proofs.Engine.SelectorMirror

/-! Operations of the engine, interleaved at their awaits, keep the selector window mirrored. -/

namespace Hotki

open Base Script

variable {T : Externals} [BEq T.Displays] {host : Surroundings T}

namespace Activity

/-- Whether a part of an operation opens a selector only once it has seen a configuration, and
tells the UI of selectors with what it does to them. -/
def Modest (host : Surroundings T) {α : Type} (activity : Activity T α) : Prop :=
  activity.Abides host (Segment.SelectorCareful host) Segment.Informed

/-- A segment that opens no selector and sends nothing about one is modest. -/
theorem modest_segment {segment : Segment T} (plain : segment.plain = true) :
    (Activity.segment segment).Modest host :=
  abides_segment fun own engine _ => .of_plain plain own engine

/-- So is one that may fail. -/
theorem modest_attempt {α : Type} {segment : Segment T}
    (fallible : segment.Answer = Except EngineError α) (plain : segment.plain = true) :
    (attempt segment fallible).Modest host :=
  abides_attempt fallible fun own engine _ => .of_plain plain own engine

/-- Sending a notification is modest. -/
theorem sendNotification_modest (kind : NotifyKind) (title text : String) :
    (sendNotification kind title text : Activity T Unit).Modest host := by
  unfold sendNotification trySendUi
  exact modest_attempt rfl rfl

/-- Sending an error is modest. -/
theorem sendError_modest (title text : String) :
    (sendError title text : Activity T Unit).Modest host :=
  sendNotification_modest .error title text

/-- A refresh is modest. -/
theorem rebindAndRefresh_modest (focus : Option FocusSnapshot) :
    (rebindAndRefresh focus : Activity T Unit).Modest host :=
  modest_attempt rfl rfl

/-- Reading the state is modest. -/
theorem look_modest : (look : Activity T (LiveEngine T)).Modest host :=
  modest_segment rfl

/-- An install is modest. -/
theorem installConfig_modest (path : String) (mode : ConfigInstall) :
    (installConfig path mode : Activity T Unit).Modest host := by
  apply Abides.bind
  · exact modest_attempt rfl rfl
  · exact fun config => modest_attempt rfl rfl

/-- A reload is modest. -/
theorem reloadDynamicConfig_modest : (reloadDynamicConfig : Activity T Unit).Modest host := by
  apply Abides.bind look_modest
  intro engine
  split
  · exact abides_throw _
  · exact installConfig_modest _ _

/-- A relay effect is modest. -/
theorem applyRelay_modest (spec : RelaySpec) (run : EffectRun) :
    (applyRelay spec run : Activity T EffectApplication).Modest host := by
  unfold applyRelay
  split
  · exact .bind (sendError_modest _ _) fun _ => abides_pure _
  · cases run with
    | repeatedTick => exact abides_pure _
    | oneShot | repeatedFirst =>
      -- Beginning the relay changes no state of the engine, whether it succeeds or not.
      apply Abides.bind
      · exact modest_attempt rfl rfl
      · intro destination
        cases destination <;> exact abides_pure _

/-- An action is modest. -/
theorem applyAction_modest (ident : String) (action : Action) :
    (applyAction ident action : Activity T Engine.DispatchResult).Modest host := by
  -- An action runs to its end and then navigates, neither of which opens a selector.
  apply Abides.bind
  · exact modest_segment rfl
  · intro _
    split
    · exact .bind (applyRelay_modest _ _) fun _ => abides_pure _
    · apply Abides.bind
      · exact .tryCatch reloadDynamicConfig_modest fun _ => sendError_modest _ _
      · exact fun _ => abides_pure _
    · exact .bind (modest_attempt rfl rfl) fun _ => abides_pure _
    · exact .bind (modest_attempt rfl rfl) fun _ => abides_pure _
    · exact abides_pure _

/-- Opening a selector is modest: it follows items, and those a configuration. -/
theorem openSelector_modest (config : SelectorConfig) (ctx : ModeCtx) :
    (openSelector config ctx : Activity T Bool).Modest host := by
  intro own
  apply Obeys.bind
  apply obeys_attempt rfl
  intro engine _
  -- Items answer that a configuration was there.
  have answered : ∀ items, (engine.core.resolveItems host config ctx).1 = .ok (some items) →
      engine.core.config.isSome = true := by
    intro items answered
    unfold Core.resolveItems at answered
    split at answered
    · cases answered
    · rename_i loaded
      rw [loaded]
      rfl
  have learns : Segment.Informed own engine (.resolveItems config ctx)
      (own || engine.core.config.isSome) := by
    refine ⟨?_, ?_, fun learned => ?_⟩
    · exact (Segment.Informed.of_plain rfl own engine).opened
    · exact (Segment.Informed.of_plain rfl own engine).silent
    · rwa [Bool.or_eq_true] at learned
  refine ⟨own || engine.core.config.isSome, learns, ?_⟩
  show Continues _ _ (engine.core.resolveItems host config ctx).1 _
  cases resolved : (engine.core.resolveItems host config ctx).1 with
  | error error => exact trivial
  | ok resolution =>
    cases resolution with
    | none => exact obeys_pure trivial
    | some items =>
      -- So the opening itself is made knowing that there is one.
      have informed : (own || engine.core.config.isSome) = true := by
        rw [answered items resolved, Bool.or_true]
      apply Obeys.bind
      apply obeys_attempt rfl
      intro later _
      have opens : Segment.Informed (own || engine.core.config.isSome) later
          (.openSelector config items ctx) (own || engine.core.config.isSome) := by
        refine ⟨fun _ => informed, fun message sent => ?_, .inl⟩
        cases sent
      refine ⟨_, opens, ?_⟩
      show Continues _ _ (later.core.openSelector host config items ctx).1 _
      cases (later.core.openSelector host config items ctx).1 with
      | error error => exact trivial
      | ok _ => exact obeys_pure trivial

section Queue

variable {held : HandlerRef → Activity T EffectApplication}

/-- An effect is modest if holding an action is. -/
theorem applyEffect_modest (holds : ∀ action, (held action).Modest host) (ident : String)
    (ctx : ModeCtx) (run : EffectRun) (effect : Effect) :
    (applyEffect held ident ctx run effect).Modest host := by
  -- One goal for each kind of effect.
  unfold applyEffect
  split
  · split
    · exact holds _
    · exact .bind (sendError_modest _ _) fun _ => abides_pure _
  · exact applyRelay_modest _ _
  · exact .bind (applyAction_modest _ _) fun _ => abides_pure _
  · exact .bind (sendNotification_modest _ _ _) fun _ => abides_pure _
  · apply Abides.bind
    · exact modest_segment rfl
    · exact fun _ => abides_pure _
  · exact .bind (openSelector_modest _ _) fun _ => abides_pure _

/-- A queue of effects is modest if holding an action is. -/
theorem applyEffectQueue_modest (holds : ∀ action, (held action).Modest host) (ident : String)
    (ctx : ModeCtx) (run : EffectRun) (applied : EffectApplication) (effects : List Effect) :
    (applyEffectQueue held ident ctx run applied effects).Modest host := by
  -- The induction is on the queue.
  induction effects generalizing applied with
  | nil => exact abides_pure _
  | cons effect rest ih =>
    apply Abides.bind (applyEffect_modest holds ident ctx run effect)
    intro outcome
    dsimp only
    split
    · exact abides_pure _
    · exact ih _

end Queue

/-- A repeated action is modest. -/
theorem runRepeatedAction_modest (ident : String) (action : HandlerRef) (ctx : ModeCtx)
    (run : EffectRun) :
    (runRepeatedAction ident action ctx run : Activity T EffectApplication).Modest host := by
  -- A handler that is gone leaves nothing to apply.
  apply Abides.bind
  · exact modest_attempt rfl rfl
  · intro answer
    cases answer with
    | none => exact abides_pure _
    | some result =>
      apply Abides.bind
      · exact applyEffectQueue_modest (fun _ => abides_pure _) ident ctx run {} result.effects
      · exact fun _ => abides_pure _

/-- Holding an action until key-up is modest. -/
theorem startUntilKeyup_modest (ident : String) (ctx : ModeCtx) (action : HandlerRef) :
    (startUntilKeyup ident ctx action : Activity T EffectApplication).Modest host := by
  apply Abides.bind (runRepeatedAction_modest ident action ctx .repeatedFirst)
  intro first
  split
  · exact abides_pure _
  · apply Abides.bind
    · exact modest_segment rfl
    · exact fun _ => abides_pure _

/-- The effects of an activation are modest. -/
theorem applyEffects_modest (ident : String) (effects : List Effect) (ctx : ModeCtx) :
    (applyEffects ident effects ctx : Activity T Engine.DispatchResult).Modest host :=
  .bind (applyEffectQueue_modest (startUntilKeyup_modest ident ctx) ident ctx .oneShot {} effects)
    fun _ => abides_pure _

/-- A key of a selector is modest, with the handler of the close it may bring about. -/
theorem handleInput_modest (chord : Chord) (ident : String) (focus : Option FocusSnapshot) :
    (handleInput chord ident focus : Activity T Bool).Modest host := by
  -- Closing the selector is a segment of its own, followed by what the close asks for.
  have completed : ∀ close, (completeClose ident focus close : Activity T Unit).Modest host := by
    intro close
    apply Abides.bind
    · exact modest_attempt rfl rfl
    · intro answer
      cases answer with
      | none => exact rebindAndRefresh_modest focus
      | some result =>
        exact .bind (applyEffects_modest _ _ _) fun _ => rebindAndRefresh_modest focus
  apply Abides.bind
  · exact modest_attempt rfl rfl
  · intro input
    cases input with
    | close close => exact .bind (completed close) fun _ => abides_pure _
    | _ => exact abides_pure _

/-- A binding is executed modestly. -/
theorem executeBinding_modest (ident : String) (binding : Binding) (ctx : ModeCtx) :
    (executeBinding ident binding ctx : Activity T (Option Engine.DispatchResult)).Modest host := by
  -- A mode is pushed, or a handler called and its effects applied.
  unfold executeBinding
  split
  · apply Abides.bind
    · exact modest_segment rfl
    · exact fun _ => abides_pure _
  · apply Abides.bind
    · exact modest_attempt rfl rfl
    · intro answer
      cases answer with
      | none => exact abides_pure _
      | some result => exact .bind (applyEffects_modest _ _ _) fun _ => abides_pure _

/-- Taking a focus into the cache is modest. -/
theorem applyWorldFocusSnapshot_modest (focus : Option FocusSnapshot) :
    (applyWorldFocusSnapshot focus : Activity T Unit).Modest host := by
  apply Abides.bind
  · exact modest_segment rfl
  · intro changed
    split
    · exact .bind look_modest fun _ => rebindAndRefresh_modest _
    · exact abides_pure _

/-- So is taking that of the world. -/
theorem refreshWorldFocus_modest : (refreshWorldFocus : Activity T Unit).Modest host := by
  apply Abides.bind
  · exact modest_segment rfl
  · intro changed
    split
    · exact .bind look_modest fun _ => rebindAndRefresh_modest _
    · exact abides_pure _

/-- A key-down is handled modestly. -/
theorem handleKeyEvent_modest (chord : Chord) (ident : String)
    (refreshWorld allowPressFeedback : Bool) :
    (handleKeyEvent host chord ident refreshWorld allowPressFeedback).Modest host := by
  -- The exit and the rebind open no selector.
  have finished : ∀ (result : Engine.DispatchResult) (focus : Option FocusSnapshot),
      ((do
        if result.shouldAutoExit then autoExit
        rebindAndRefresh focus) : Activity T Unit).Modest host := by
    intro result focus
    dsimp only
    split
    · apply Abides.bind
      · apply Abides.bind
        · exact modest_segment rfl
        · exact fun _ => abides_pure _
      · exact fun _ => rebindAndRefresh_modest focus
    · exact rebindAndRefresh_modest focus
  -- Without looking at the world first, the event is handled for the focus the engine knows.
  have handled : (handleKeyEvent host chord ident false allowPressFeedback).Modest host := by
    unfold handleKeyEvent
    rw [Bool.false_and, if_neg Bool.false_ne_true]
    apply Abides.bind look_modest
    intro first
    apply Abides.bind look_modest
    intro second
    dsimp only
    split
    · exact abides_pure _
    · apply Abides.bind (handleInput_modest _ _ _)
      intro consumed
      split
      · exact abides_pure _
      · apply Abides.bind
        · exact modest_segment rfl
        · intro resolved
          cases resolved with
          | none => exact abides_pure _
          | some resolved =>
            apply Abides.bind (executeBinding_modest _ _ _)
            intro executed
            cases executed with
            | none => exact abides_pure _
            | some result => exact finished result _
  unfold handleKeyEvent
  dsimp only
  split
  · exact .bind refreshWorldFocus_modest fun _ => handled
  · exact handled

/-- A key event is dispatched modestly. -/
theorem dispatchResolved_modest (ident : String) (chord : Chord) (kind : EventKind)
    (repeated refreshWorld : Bool) :
    (dispatchResolved host ident chord kind repeated refreshWorld).Modest host := by
  -- A press executes its binding, a repeat is one for an open selector, and a key-up tells the HUD.
  cases kind with
  | keyDown =>
    cases repeated with
    | true =>
      apply Abides.bind look_modest
      intro engine
      split
      · exact handleKeyEvent_modest _ _ _ _
      · exact abides_pure _
    | false =>
      apply Abides.bind
      · exact modest_segment rfl
      · exact fun initialDown => handleKeyEvent_modest _ _ _ _
  | keyUp =>
    apply Abides.bind
    · exact modest_segment rfl
    · intro released
      apply Abides.bind
      · exact modest_segment rfl
      · intro _
        cases released with
        | none => exact abides_pure _
        | some state =>
          exact .ite (modest_segment rfl) (abides_pure _)

/-- A tick is modest. -/
theorem tick_modest (ident : String) (held : RepeatedAction) :
    (tick ident held : Activity T Unit).Modest host := by
  have stopped : (segment (.stopLoop ident) : Activity T Unit).Modest host :=
    modest_segment rfl
  refine .tryCatch (.bind (runRepeatedAction_modest _ _ _ _) fun applied => ?_) fun _ => stopped
  exact .ite stopped (abides_pure _)

/-- Publishing the HUD for new displays is modest. -/
theorem refreshDisplaysIfChanged_modest :
    (refreshDisplaysIfChanged : Activity T Unit).Modest host := by
  apply Abides.bind
  · exact modest_segment rfl
  · intro answer
    cases answer with
    | none => exact abides_pure _
    | some displays =>
      apply Abides.bind look_modest
      exact fun _ => modest_attempt rfl rfl

end Activity

/-- Every operation of the engine is modest. -/
theorem engineOperations_modest (operation : EngineOperation) (own : Bool) :
    ((engineOperations host).program operation).Obeys (Segment.perform host)
      (Segment.SelectorCareful host) Segment.Informed (fun _ _ => True) own := by
  -- One case for each operation.
  cases operation with
  | dispatch ident chord kind repeated physical =>
    exact Activity.dispatchResolved_modest ident chord kind repeated physical own
  | focusChanged focus => exact Activity.applyWorldFocusSnapshot_modest focus own
  | tick ident held => exact Activity.tick_modest ident held own
  | selectorNotify =>
    exact @Activity.modest_attempt T _ host Unit .selectorNotify rfl rfl own
  | setConfigPath path => exact Activity.installConfig_modest path .resetFocus own
  | refreshDisplays => exact Activity.refreshDisplaysIfChanged_modest own

/-- What holds of the engine with the operations in progress: those that have seen a configuration
are right that there is one. -/
structure LiveEngine.MirrorsFor (engine : LiveEngine T) (informed : List Bool) : Prop where
  mirrors : engine.core.Mirrors
  loaded : true ∈ informed → engine.core.config.isSome = true

omit [BEq T.Displays] in
/-- The engine mirrors before any operation. -/
theorem EnginePool.initial_mirrors (host : Host T) (api : T.Api) (displays : T.Displays) :
    (EnginePool.initial host api displays).state.MirrorsFor [] := by
  refine ⟨⟨?_, fun opened => by cases opened⟩, fun informed => by cases informed⟩
  exact iff_of_false (fun shown => by cases shown) (fun opened => by cases opened)

/-- A careful segment an operation may give leaves the engine mirroring. -/
theorem Segment.Informed.mirrorsFor {segment : Segment T} {engine : LiveEngine T}
    {informed : List Bool} {index : Nat} {own after : Bool}
    (allows : Segment.Informed own engine segment after) (owned : informed[index]? = some own)
    (careful : segment.SelectorCareful host engine) (holds : engine.MirrorsFor informed) :
    (segment.perform host engine).2.MirrorsFor (informed.set index after) := by
  -- What the operation has seen is there, before the segment and after it.
  have loaded : own = true → engine.core.config.isSome = true := by
    intro seen
    apply holds.loaded
    rw [seen] at owned
    exact List.mem_of_getElem? owned
  obtain ⟨mirrors, keeps⟩ := Segment.perform_mirrors careful allows.silent
    (fun opens => loaded (allows.opened opens)) holds.mirrors
  refine ⟨mirrors, fun seen => ?_⟩
  apply keeps
  rcases List.mem_or_eq_of_mem_set seen with before | learned
  · exact holds.loaded before
  · rcases allows.learned learned.symm with already | there
    · exact loaded already
    · exact there

/--
The UI mirrors the selector.

In every run of the engine, with its operations interleaved at their awaits in any way, in which
the UI takes the messages that open or close a selector and no configuration is installed over an
open one, the last message about selectors shows one if and only if the runtime has one open.
-/
theorem selector_mirrored (host : Surroundings T) (api : T.Api) (displays : T.Displays)
    {moves : List (PoolMove EngineOperation)} {pool : EnginePool T}
    (run : Run (Pool.CarefulSteps (engineOperations host) (Segment.SelectorCareful host))
      (EnginePool.initial host.toHost api displays) moves pool) :
    pool.state.core.SelectorMirrored := by
  -- Every operation is modest, so along the run the UI has been told of the selector there is.
  obtain ⟨informed, _, holds⟩ := by
    refine Pool.obeyed LiveEngine.MirrorsFor (fun operation => engineOperations_modest operation
      false) ?_ ?_ run (EnginePool.initial_mirrors host.toHost api displays)
    · intro engine informed holds
      refine ⟨holds.mirrors, fun seen => ?_⟩
      rcases List.mem_append.mp seen with before | fresh
      · exact holds.loaded before
      · cases List.mem_singleton.mp fresh
    · intro engine segment informed index own after owned careful allows holds
      exact allows.mirrorsFor owned careful holds
  exact holds.mirrors.mirrored

/-- A configuration whose handler opens a selector, on a channel that is full at some readings. -/
private def selectingHost (full : List Nat) : Surroundings Core.registryExternals where
  script := {
    rendererHost fun _ _ =>
      .ok ([⟨⟨∅, .a⟩, "pick", .handler ⟨2⟩, none, {}, false, none⟩], false) with
    callHandler := fun vm _ _ _ => (.ok ⟨[.select ⟨"", "", .listed [], ⟨3⟩, none, 1⟩], false⟩, vm) }
  matching := ⟨fun items => items.length, fun matcher _ => matcher, fun matcher => (false, matcher),
    id, fun _ _ => none, fun _ _ _ => []⟩
  hotkeys := registryApi fun _ => none
  defaultStyle := false
  load _ _ := .ok ⟨⟨0, 0, none⟩, false, (), none, ∅⟩
  uiAccepts reading := !full.contains reading
  displays _ := (0 : Nat)
  order _ := ⟨.stored _, .stored _, .stored _⟩
  worldFocus _ := none
  resolveApplication _ _ := .notRunning
  isHudMode style := style
  syncOnDispatch := false

/-- The engine before any operation under such a host. -/
private def selectingStart (full : List Nat) : EnginePool Core.registryExternals :=
  EnginePool.initial (selectingHost full).toHost ({} : RegistryApi) (0 : Nat)

/-- Whether an operation has returned without an error. -/
private def returned (program : Program (@Segment.Answer Core.registryExternals)
    (Except EngineError Unit)) : Bool :=
  match program with
  | .done result => result.toBool
  | _ => false

/-- What is seen of the engine: the last message about selectors, whether one is open, and which
operations have returned without an error. -/
private def glance (pool : EnginePool Core.registryExternals) :
    Option Bool × Bool × List Bool :=
  ((selectorMessages pool.state.core.sent).getLast?, pool.state.core.runtime.selector.isSome,
    pool.tasks.map returned)

/-- A message of another kind than the open selector asks for does not mirror it. -/
private theorem not_mirrored {pool : EnginePool Core.registryExternals} {last : Option Bool}
    {opened : Bool} {ended : List Bool} (seen : glance pool = (last, opened, ended))
    (differs : (last == some true) ≠ opened) : ¬ pool.state.core.SelectorMirrored := by
  intro mirrored
  simp only [glance, Prod.mk.injEq] at seen
  obtain ⟨told, shown, _⟩ := seen
  apply differs
  rw [← told, ← shown, Bool.eq_iff_iff, beq_iff_eq]
  exact mirrored

/-- The operations up to the one that opens a selector: an install and a key. The refresh that
follows is refused where the channel is full at the sixth reading. -/
private def opening : List (PoolMove EngineOperation) :=
  [.start (.setConfigPath "config.luau"), .resume 0, .resume 0,
    .start (.dispatch "a" ⟨∅, .a⟩ .keyDown false true)] ++ List.replicate 9 (.resume 1)

/--
The selector is not always mirrored.

An install drops an open selector without a word. A full channel loses the message that hides a
cancelled selector, or the one that shows an opened selector, and they are not sent again. In each
run the last operation to end has returned without an error.
-/
theorem selector_mirrored_broken :
    (∃ moves pool, Run (Pool.Steps (engineOperations (selectingHost [6])))
      (selectingStart [6]) moves pool ∧
      glance pool = (some true, false, [true, false, true]) ∧
      ¬ pool.state.core.SelectorMirrored) ∧
    (∃ moves pool, Run (Pool.Steps (engineOperations (selectingHost [6, 7])))
      (selectingStart [6, 7]) moves pool ∧
      glance pool = (some true, false, [true, false, false, true]) ∧
      ¬ pool.state.core.SelectorMirrored) ∧
    ∃ moves pool, Run (Pool.Steps (engineOperations (selectingHost [4])))
      (selectingStart [4]) moves pool ∧
      glance pool = (none, true, [true, false, true]) ∧
      ¬ pool.state.core.SelectorMirrored := by
  -- Three runs: an install over an open selector, and a full channel when one is cancelled and when
  -- one is opened.
  refine ⟨?_, ?_, ?_⟩
  · let moves := opening ++ [.start (.setConfigPath "config.luau"), .resume 2, .resume 2]
    obtain ⟨pool, seen, run⟩ := Run.of_foldlM (Pool.step (engineOperations (selectingHost [6])))
      (selectingStart [6]) moves glance
      (some true, false, [true, false, true]) (by decide +kernel)
    exact ⟨moves, pool, run, seen, not_mirrored seen (by decide)⟩
  · let moves := opening ++ [.start (.dispatch "escape" ⟨∅, .escape⟩ .keyDown false true),
      .resume 2, .resume 2, .resume 2, .resume 2, .start .selectorNotify, .resume 3]
    obtain ⟨pool, seen, run⟩ := Run.of_foldlM (Pool.step (engineOperations (selectingHost [6, 7])))
      (selectingStart [6, 7]) moves glance
      (some true, false, [true, false, false, true]) (by decide +kernel)
    exact ⟨moves, pool, run, seen, not_mirrored seen (by decide)⟩
  · let moves := opening.take 12 ++ [.start .selectorNotify, .resume 2]
    obtain ⟨pool, seen, run⟩ := Run.of_foldlM (Pool.step (engineOperations (selectingHost [4])))
      (selectingStart [4]) moves glance
      (none, true, [true, false, true]) (by decide +kernel)
    exact ⟨moves, pool, run, seen, not_mirrored seen (by decide)⟩

/-- Whether a move keeps the selector mirrored, forgoing some that would as well. -/
private def keepsSelector (host : Surroundings Core.registryExternals)
    (pool : EnginePool Core.registryExternals) : PoolMove EngineOperation → Bool
  | .start _ => true
  | .resume index =>
    match pool.tasks[index]? with
    | some (.call (.selectorInput _) _) | some (.call (.openSelector _ _ _) _) =>
      pool.state.core.uiReady host.toHost
    | some (.call (.commit _) _) => pool.state.core.runtime.selector.isNone
    | _ => true

/-- A step of the engine that is made only if it keeps the selector mirrored. -/
private def selectorKeepingStep (host : Surroundings Core.registryExternals)
    (pool : EnginePool Core.registryExternals) (move : PoolMove EngineOperation) :
    Option (EnginePool Core.registryExternals) :=
  if keepsSelector host pool move then pool.step (engineOperations host) move else none

/-- Such a step is careful. -/
private theorem selectorKeepingStep_careful {host : Surroundings Core.registryExternals}
    {pool next : EnginePool Core.registryExternals} {move : PoolMove EngineOperation}
    (stepped : selectorKeepingStep host pool move = some next) :
    Pool.CarefulSteps (engineOperations host) (Segment.SelectorCareful host) pool move next := by
  -- The check is made for every segment that could need it.
  obtain ⟨permitted, stepped⟩ := Option.ite_none_right_eq_some.mp stepped
  refine ⟨stepped, fun segment gives => ?_⟩
  obtain ⟨index, further, rfl, found⟩ := gives
  simp only [keepsSelector, found] at permitted
  cases segment with
  | selectorInput chord => exact fun _ => permitted
  | openSelector config items ctx => exact permitted
  | commit config => exact fun _ => Option.isNone_iff_eq_none.mp permitted
  | _ => exact trivial

/-- The conclusion at a run that opens a selector and cancels it, where it is told of both. -/
theorem selector_mirrored_once :
    ∃ moves pool, Run (Pool.CarefulSteps (engineOperations (selectingHost [6]))
      (Segment.SelectorCareful (selectingHost [6]))) (selectingStart [6]) moves pool ∧
      glance pool = (some false, false, [true, false, true]) ∧
      pool.state.core.SelectorMirrored := by
  let moves := opening ++ .start (.dispatch "escape" ⟨∅, .escape⟩ .keyDown false true) ::
    List.replicate 6 (.resume 2)
  obtain ⟨pool, seen, run⟩ := Run.of_foldlM (selectorKeepingStep (selectingHost [6]))
    (selectingStart [6]) moves glance (some false, false, [true, false, true]) (by decide +kernel)
  have careful := run.mono fun stepped => selectorKeepingStep_careful stepped
  exact ⟨moves, pool, careful, seen, selector_mirrored _ ({} : RegistryApi) (0 : Nat) careful⟩

end Hotki

import Hotki.Engine.Refresh
import Hotki.Proofs.Engine.BoundChords
import Hotki.Proofs.Script.Handles

/-! What a refresh plans, and what an install or a failed refresh leaves behind. -/

namespace Hotki

open Base Script

section Plan

variable {T : Externals} {host : ScriptHost T}

/-- The pairs of bindings are the printed chords with their chords. -/
theorem mem_bindingKeyPairs {bindings : List (Chord × Binding)} {ident : String} {chord : Chord} :
    (ident, chord) ∈ bindingKeyPairs bindings ↔
      ident = chord.display ∧ chord ∈ bindings.map Prod.fst := by
  unfold bindingKeyPairs
  rw [(List.mergeSort_perm _ _).mem_iff, List.mem_map, List.mem_map]
  constructor
  · rintro ⟨entry, listed, same⟩
    cases same
    exact ⟨rfl, entry, listed, rfl⟩
  · rintro ⟨rfl, entry, listed, rfl⟩
    exact ⟨entry, listed, rfl⟩

/-- Bindings of different chords have different identifiers. -/
theorem nodup_bindingKeyPairs {bindings : List (Chord × Binding)}
    (distinct : (bindings.map Prod.fst).Nodup) :
    ((bindingKeyPairs bindings).map Prod.fst).Nodup := by
  unfold bindingKeyPairs
  rw [((List.mergeSort_perm _ _).map Prod.fst).nodup_iff, List.map_map]
  have printed := distinct.map Chord.display_injective
  rwa [List.map_map] at printed

/-- The context a runtime state is rendered in. -/
def RuntimeState.renderCtx (rt : RuntimeState T) : ModeCtx :=
  modeCtx rt.focus rt.hudVisible rt.depth

/-- A stack with a root needs no other. -/
theorem ensureStack_of_ne_nil (cfg : LoadedConfig T) {stack : List ModeFrame}
    (nonempty : stack ≠ []) : ensureStack cfg stack = stack := by
  unfold ensureStack
  simp [nonempty]

/-- Every stack a refresh renders has a root. -/
theorem ensureStack_ne_nil (cfg : LoadedConfig T) (stack : List ModeFrame) :
    ensureStack cfg stack ≠ [] := by
  unfold ensureStack
  split
  · simp
  · rename_i nonempty
    simpa using nonempty

/-- A render attempt changes the stack and the rendered state and nothing else. -/
theorem tryRender_frame (rt : RuntimeState T) (cfg : LoadedConfig T) (ctx : ModeCtx) :
    (tryRender host rt cfg ctx).2.1 =
      { rt with
        stack := (tryRender host rt cfg ctx).2.1.stack
        rendered := (tryRender host rt cfg ctx).2.1.rendered } := by
  unfold tryRender
  split <;> rfl

/-- A successful attempt leaves bindings of different chords. -/
theorem tryRender_ok_nodup {rt next : RuntimeState T} {cfg last : LoadedConfig T} {ctx : ModeCtx}
    {warnings : List Effect} (rendered : tryRender host rt cfg ctx = (.ok warnings, next, last)) :
    (next.rendered.bindings.map Prod.fst).Nodup := by
  unfold tryRender at rendered
  split at rendered
  · rename_i passed
    cases rendered
    simp only
    rw [(renderStack_truncates passed).2.1]
    exact nodup_flattenBindings _
  · cases rendered

/-- An attempt changes nothing of a configuration but the state of its runtime. -/
theorem tryRender_config (host : ScriptHost T) (rt : RuntimeState T) (cfg : LoadedConfig T)
    (ctx : ModeCtx) : ∃ vm, (tryRender host rt cfg ctx).2.2 = { cfg with vm } := by
  have same := renderStack_config host cfg rt.stack ctx
  unfold tryRender
  split <;> rename_i answered <;> rwa [answered] at same

/-- An attempt leaves the style of the configuration alone. -/
theorem tryRender_baseStyle (host : ScriptHost T) (rt : RuntimeState T) (cfg : LoadedConfig T)
    (ctx : ModeCtx) : (tryRender host rt cfg ctx).2.2.baseStyle = cfg.baseStyle := by
  obtain ⟨_, same⟩ := tryRender_config host rt cfg ctx
  rw [same]

/-- Rendering with recovery changes nothing of a configuration but the state of its runtime. -/
theorem renderStackWithRecovery_config (host : ScriptHost T) (rt : RuntimeState T)
    (cfg : LoadedConfig T) :
    ∃ vm, (renderStackWithRecovery host rt cfg).2.2 = { cfg with vm } := by
  -- The second attempt runs in the runtime the first one left.
  obtain ⟨first, same⟩ := tryRender_config host rt cfg (modeCtx rt.focus rt.hudVisible rt.depth)
  unfold renderStackWithRecovery
  simp only
  split <;> rename_i attempted <;> rw [attempted] at same
  · exact ⟨first, same⟩
  · rename_i failed after
    obtain ⟨second, again⟩ := tryRender_config host failed.resetToRoot after
      { modeCtx rt.focus rt.hudVisible rt.depth with depth := 0 }
    rw [show after = { cfg with vm := first } from same] at again
    refine ⟨second, Eq.trans ?_ again⟩
    rw [← show after = { cfg with vm := first } from same]
    split <;> rename_i answered <;> rw [answered]

/-- Rendering with recovery leaves the style of the configuration alone. -/
theorem renderStackWithRecovery_baseStyle (host : ScriptHost T) (rt : RuntimeState T)
    (cfg : LoadedConfig T) :
    (renderStackWithRecovery host rt cfg).2.2.baseStyle = cfg.baseStyle := by
  obtain ⟨_, same⟩ := renderStackWithRecovery_config host rt cfg
  rw [same]

/-- A first attempt that succeeds is what rendering with recovery leaves, without an error. -/
theorem renderStackWithRecovery_first {rt next : RuntimeState T} {cfg last : LoadedConfig T}
    {warnings : List Effect}
    (attempted : tryRender host rt cfg rt.renderCtx = (.ok warnings, next, last)) :
    renderStackWithRecovery host rt cfg = ((warnings, []), next, last) := by
  unfold RuntimeState.renderCtx at attempted
  unfold renderStackWithRecovery
  simp only [attempted]

/-- A first attempt that fails is reported. -/
theorem renderStackWithRecovery_errors {rt next : RuntimeState T} {cfg last : LoadedConfig T}
    {error : String}
    (attempted : tryRender host rt cfg rt.renderCtx = (.error error, next, last)) :
    (renderStackWithRecovery host rt cfg).1.2 ≠ [] := by
  unfold RuntimeState.renderCtx at attempted
  unfold renderStackWithRecovery
  simp only [attempted]
  split <;> simp

/-- Rendering with recovery changes the stack and the rendered state and nothing else. -/
theorem renderStackWithRecovery_frame (rt : RuntimeState T) (cfg : LoadedConfig T) :
    (renderStackWithRecovery host rt cfg).2.1 =
      { rt with
        stack := (renderStackWithRecovery host rt cfg).2.1.stack
        rendered := (renderStackWithRecovery host rt cfg).2.1.rendered } := by
  -- Each of the three attempts changes the stack and what is rendered, and no more.
  unfold renderStackWithRecovery
  simp only
  have first := @tryRender_frame _ host rt cfg (modeCtx rt.focus rt.hudVisible rt.depth)
  split <;> rename_i attempted <;> rw [attempted] at first
  · exact first
  · rename_i error failed after
    have second := @tryRender_frame _ host failed.resetToRoot after
      (modeCtx rt.focus rt.hudVisible 0)
    simp only at first
    rw [first] at second
    split <;> rename_i again <;> rw [first] at again <;>
      simp only [modeCtx] at second again ⊢ <;> rw [again] at second <;> simp only at second
    · rw [second]
      rfl
    · rw [second]
      rfl

/-- Rendering with recovery leaves bindings of different chords. -/
theorem renderStackWithRecovery_nodup (rt : RuntimeState T) (cfg : LoadedConfig T) :
    ((renderStackWithRecovery host rt cfg).2.1.rendered.bindings.map Prod.fst).Nodup := by
  unfold renderStackWithRecovery
  simp only
  split
  · rename_i attempted
    exact tryRender_ok_nodup attempted
  · split
    · rename_i attempted
      exact tryRender_ok_nodup attempted
    · exact List.nodup_nil

/-- A render attempt never makes the stack longer. -/
theorem length_tryRender_le (host : ScriptHost T) (rt : RuntimeState T) (cfg : LoadedConfig T)
    (ctx : ModeCtx) : (tryRender host rt cfg ctx).2.1.stack.length ≤ rt.stack.length := by
  have bound := length_renderFrames_le host ctx cfg [] [] rt.stack
  rw [← renderStack_stack] at bound
  unfold tryRender
  split <;> rename_i rendered <;> rw [rendered] at bound <;> simpa using bound

/-- Rendering with recovery never makes the stack longer. -/
theorem length_renderStackWithRecovery_le (host : ScriptHost T) (rt : RuntimeState T)
    (cfg : LoadedConfig T) :
    (renderStackWithRecovery host rt cfg).2.1.stack.length ≤ rt.stack.length := by
  unfold renderStackWithRecovery
  simp only
  have first := length_tryRender_le host rt cfg (modeCtx rt.focus rt.hudVisible rt.depth)
  split <;> rename_i attempted <;> rw [attempted] at first
  · exact first
  · -- The second attempt starts from the root of what the first one left.
    rename_i failed after
    have second := length_tryRender_le host failed.resetToRoot after
      (modeCtx rt.focus rt.hudVisible 0)
    have rooted : failed.resetToRoot.stack.length ≤ failed.stack.length := by
      simp [RuntimeState.resetToRoot]
    have whole := second.trans (rooted.trans first)
    simp only [modeCtx] at whole ⊢
    split <;> rename_i again <;> rw [again] at whole <;> exact whole

/-- A plan without a selector binds what the state it leaves has rendered. -/
theorem buildLoadedRefreshPlan_keyPairs (rt : RuntimeState T) (cfg : LoadedConfig T)
    (closed : rt.selector = none) :
    (buildLoadedRefreshPlan host rt cfg).1.keyPairs =
        bindingKeyPairs (buildLoadedRefreshPlan host rt cfg).2.1.rendered.bindings ∧
      ((buildLoadedRefreshPlan host rt cfg).2.1.rendered.bindings.map Prod.fst).Nodup := by
  unfold buildLoadedRefreshPlan
  simp only [closed, Option.isSome_none, Bool.false_eq_true, if_false, true_and]
  exact renderStackWithRecovery_nodup _ cfg

/-- A plan changes nothing of a configuration but the state of its runtime. -/
theorem buildLoadedRefreshPlan_config (host : ScriptHost T) (rt : RuntimeState T)
    (cfg : LoadedConfig T) :
    ∃ vm, (buildLoadedRefreshPlan host rt cfg).2.2 = { cfg with vm } := by
  unfold buildLoadedRefreshPlan
  simp only
  split
  · exact ⟨cfg.vm, rfl⟩
  · exact renderStackWithRecovery_config host { rt with stack := ensureStack cfg rt.stack } cfg

/-- A plan without a selector reports no error just if the renderers of its stack give frames, and
then it renders those frames. -/
theorem buildLoadedRefreshPlan_yields {rt : RuntimeState T} (cfg : LoadedConfig T)
    (closed : rt.selector = none) :
    ((buildLoadedRefreshPlan host rt cfg).1.errors = [] ↔
        ∃ shown, Yields host rt.renderCtx cfg (ensureStack cfg rt.stack) shown) ∧
      ∀ shown, Yields host rt.renderCtx cfg (ensureStack cfg rt.stack) shown →
        (buildLoadedRefreshPlan host rt cfg).2.1.rendered = renderedState cfg.baseStyle shown := by
  -- The plan renders the stack with its root, in the same context.
  have ctx : { rt with stack := ensureStack cfg rt.stack }.renderCtx = rt.renderCtx := by
    unfold RuntimeState.renderCtx RuntimeState.depth ensureStack
    cases rt.stack <;> rfl
  have yields := fun shown => @yields_iff _ host rt.renderCtx cfg (ensureStack cfg rt.stack) shown
    (ensureStack_ne_nil cfg rt.stack)
  unfold buildLoadedRefreshPlan
  simp only [closed, Option.isSome_none, Bool.false_eq_true, if_false]
  rw [← closed]
  cases rendered : renderStack host cfg (ensureStack cfg rt.stack) rt.renderCtx with
  | mk outcome rest =>
    obtain ⟨stack, last⟩ := rest
    cases outcome with
    -- The stack renders, and the rendering is the one that is offered.
    | ok passed =>
      obtain ⟨state, warnings⟩ := passed
      have attempted : tryRender host { rt with stack := ensureStack cfg rt.stack } cfg
          { rt with stack := ensureStack cfg rt.stack }.renderCtx =
            (.ok warnings, { rt with stack, rendered := state }, last) := by
        unfold tryRender
        rw [ctx]
        simp only [rendered]
      rw [renderStackWithRecovery_first attempted]
      refine ⟨iff_of_true rfl ⟨stack, (yields stack).mpr ⟨_, _, _, rendered⟩⟩, ?_⟩
      intro shown given
      obtain ⟨_, _, _, again⟩ := (yields shown).mp given
      rw [rendered] at again
      cases again
      exact (renderStack_truncates rendered).2.2
    -- It fails, and the plan says so: no rendering is offered.
    | error error =>
      have attempted : tryRender host { rt with stack := ensureStack cfg rt.stack } cfg
          { rt with stack := ensureStack cfg rt.stack }.renderCtx =
            (.error error, { rt with stack }, last) := by
        unfold tryRender
        rw [ctx]
        simp only [rendered]
      have unrendered : ∀ shown,
          ¬ Yields host rt.renderCtx cfg (ensureStack cfg rt.stack) shown := by
        intro shown given
        obtain ⟨_, _, _, again⟩ := (yields shown).mp given
        rw [rendered] at again
        cases again
      exact ⟨iff_of_false (renderStackWithRecovery_errors attempted) fun given =>
        unrendered _ given.choose_spec, fun shown given => absurd given (unrendered shown)⟩

/-- Then it binds the chords those frames offer. -/
theorem buildLoadedRefreshPlan_offers {rt : RuntimeState T} {cfg : LoadedConfig T}
    (closed : rt.selector = none) {shown : List ModeFrame}
    (given : Yields host rt.renderCtx cfg (ensureStack cfg rt.stack) shown) (chord : Chord) :
    chord ∈ (buildLoadedRefreshPlan host rt cfg).2.1.rendered.bindings.map Prod.fst ↔
      Offers shown chord := by
  rw [(buildLoadedRefreshPlan_yields cfg closed).2 shown given]
  exact mem_flattenBindings

/-- A plan under a configuration keeps the HUD, the session and the selector. -/
theorem buildLoadedRefreshPlan_frame (rt : RuntimeState T) (cfg : LoadedConfig T) :
    (buildLoadedRefreshPlan host rt cfg).2.1 =
      { rt with
        stack := (buildLoadedRefreshPlan host rt cfg).2.1.stack
        rendered := (buildLoadedRefreshPlan host rt cfg).2.1.rendered } := by
  unfold buildLoadedRefreshPlan
  simp only
  split
  · rfl
  · exact renderStackWithRecovery_frame { rt with stack := ensureStack cfg rt.stack } cfg

end Plan

namespace Core

variable {T : Externals} {host : Host T}

/-- The identifiers bound are the printed chords of the given bindings. -/
def Registers (manager : KeyBindingManager T.Api) (bindings : List (Chord × Binding)) : Prop :=
  ∀ ident chord, manager.chordForIdent ident = some chord ↔
    ident = chord.display ∧ chord ∈ bindings.map Prod.fst

/-- A successful update to the pairs of some bindings registers exactly those. -/
theorem registers_of_update {order : UpdateOrder} {manager next : KeyBindingManager T.Api}
    {bindings : List (Chord × Binding)} {changed : Bool}
    (distinct : (bindings.map Prod.fst).Nodup)
    (answered : manager.updateBindings host.hotkeys order (bindingKeyPairs bindings) =
      (.ok changed, next)) : Registers next bindings := by
  intro ident chord
  rw [KeyBindingManager.updateBindings_ok answered,
    HashMap.lookup_collect (nodup_bindingKeyPairs distinct), mem_bindingKeyPairs]

/-- Sending a notification, whether or not it is taken, touches only the UI channel. -/
theorem sendNotification_frame (core : Core T) (kind : NotifyKind) (title text : String) :
    ∃ more readings, (core.sendNotification host kind title text).2 =
      { core with sent := core.sent ++ more, readings } := by
  unfold sendNotification trySendUi
  split
  · exact ⟨[_], core.readings + 1, rfl⟩
  · exact ⟨[], core.readings + 1, by simp [tally]⟩

/-- Delivering diagnostics touches only the UI channel, behind what is on it already. -/
theorem deliverRefreshDiagnostics_frame (core : Core T) (errors : List String)
    (warnings : List Effect) :
    ∃ more readings, core.deliverRefreshDiagnostics host errors warnings =
      { core with sent := core.sent ++ more, readings } := by
  -- Each message extends the channel of the state reached so far.
  have noted : ∀ (errors : List String) (core : Core T), ∃ more readings,
      errors.foldl (fun core message => (core.sendError host "Config" message).2) core =
        { core with sent := core.sent ++ more, readings } := by
    intro errors
    induction errors with
    | nil => exact fun core => ⟨[], core.readings, by simp⟩
    | cons error rest ih =>
      intro core
      obtain ⟨first, read, sent⟩ := @sendNotification_frame _ host core .error "Config" error
      rw [List.foldl_cons, sendError, sent]
      obtain ⟨more, readings, further⟩ :=
        ih { core with sent := core.sent ++ first, readings := read }
      exact ⟨first ++ more, readings, by rw [further]; simp⟩
  -- Warnings that are not notifications are not sent at all.
  have warned : ∀ (warnings : List Effect) (core : Core T), ∃ more readings,
      core.deliverRefreshDiagnostics host [] warnings =
        { core with sent := core.sent ++ more, readings } := by
    intro warnings
    induction warnings with
    | nil => exact fun core => ⟨[], core.readings, by simp [deliverRefreshDiagnostics]⟩
    | cons warning rest ih =>
      intro core
      have stepped : ∃ first read, core.deliverWarning host warning =
          { core with sent := core.sent ++ first, readings := read } := by
        cases warning with
        | notify kind title body => exact sendNotification_frame core kind title body
        | exec | nav | select | untilKeyUp => exact ⟨[], core.readings, by simp [deliverWarning]⟩
      obtain ⟨first, read, sent⟩ := stepped
      obtain ⟨more, readings, further⟩ :=
        ih { core with sent := core.sent ++ first, readings := read }
      refine ⟨first ++ more, readings, ?_⟩
      simp only [deliverRefreshDiagnostics, List.foldl_nil, List.foldl_cons] at further ⊢
      rw [sent, further]
      simp
  obtain ⟨first, read, sent⟩ := noted errors core
  obtain ⟨more, readings, further⟩ :=
    warned warnings { core with sent := core.sent ++ first, readings := read }
  refine ⟨first ++ more, readings, ?_⟩
  simp only [deliverRefreshDiagnostics, List.foldl_nil] at further ⊢
  rw [sent, further]
  simp

/-- What a view shows of the messages is the same after a notification that it does not show. -/
theorem sendNotification_view {Seen : Type*} {view : MsgToUI T → Option Seen}
    (unseen : ∀ kind title text, view (.notify kind title text) = none) (core : Core T)
    (kind : NotifyKind) (title text : String) :
    (core.sendNotification host kind title text).2.sent.filterMap view =
      core.sent.filterMap view := by
  unfold sendNotification trySendUi
  split
  · show (core.sent ++ [MsgToUI.notify kind title text]).filterMap view = _
    rw [List.filterMap_append, List.filterMap_cons_none (unseen kind title text)]
    exact List.append_nil _
  · rfl

/-- What a view shows of the messages is the same after diagnostics, which are notifications. -/
theorem deliverRefreshDiagnostics_view {Seen : Type*} {view : MsgToUI T → Option Seen}
    (unseen : ∀ kind title text, view (.notify kind title text) = none) (core : Core T)
    (errors : List String) (warnings : List Effect) :
    (core.deliverRefreshDiagnostics host errors warnings).sent.filterMap view =
      core.sent.filterMap view := by
  -- The errors come first, then the warnings that are notifications.
  have noted : (errors.foldl (fun core message =>
      (core.sendError host "Config" message).2) core).sent.filterMap view =
        core.sent.filterMap view := by
    induction errors generalizing core with
    | nil => rfl
    | cons message rest ih => exact (ih _).trans (sendNotification_view unseen core _ _ _)
  rw [← noted, deliverRefreshDiagnostics]
  generalize errors.foldl (fun core message => (core.sendError host "Config" message).2) core = told
  induction warnings generalizing told with
  | nil => rfl
  | cons warning rest ih =>
    refine (ih _).trans ?_
    cases warning with
    | notify kind title body => exact sendNotification_view unseen told kind title body
    | _ => rfl

/-- Preparing a configuration only reads the surroundings. -/
theorem prepareConfig_frame (core : Core T) (path : String) (mode : ConfigInstall) :
    ∃ readings, (core.prepareConfig host path mode).2 = { core with readings } := by
  unfold prepareConfig
  split
  · exact ⟨_, rfl⟩
  · simp only
    split <;> exact ⟨_, rfl⟩

/-- The runtime state that a loaded configuration is first rendered in. -/
def candidate (host : Host T) (core : Core T) (mode : ConfigInstall) (config : LoadedConfig T) :
    RuntimeState T :=
  let runtime := candidateRuntime host config (core.installContext mode).1
    (core.installContext mode).2
  { runtime with focus := runtime.contextWindow (core.installContext mode).2 }

/-- What the path holds loads, and renders without an error to what is prepared. -/
structure Loads (host : Host T) (core : Core T) (path : String) (mode : ConfigInstall)
    (prepared : Prepared T) : Prop where
  loaded : ∃ config, host.load core.readings path = .ok config ∧
    buildLoadedRefreshPlan host.script (core.candidate host mode config) config =
      (prepared.plan, prepared.runtime, prepared.config)
  errors : prepared.plan.errors = []
  path : prepared.path = path
  displays : prepared.displays = host.displays (core.readings + 1)

/-- A configuration is prepared just when it loads and renders, after two readings. -/
theorem prepareConfig_iff {core read : Core T} {path : String} {mode : ConfigInstall}
    {prepared : Prepared T} : core.prepareConfig host path mode = (.ok prepared, read) ↔
      core.Loads host path mode prepared ∧ read = core.tally.tally := by
  -- The readings are taken first; then loading and rendering can fail.
  unfold prepareConfig
  cases holds : host.load core.readings path with
  | error error =>
    refine iff_of_false (fun impossible => by cases impossible) fun loads => ?_
    obtain ⟨config, found, _⟩ := loads.1.loaded
    rw [holds] at found
    cases found
  | ok config =>
    dsimp only
    cases built : buildLoadedRefreshPlan host.script (core.candidate host mode config) config with
    | mk plan rest =>
      obtain ⟨runtime, rendered⟩ := rest
      unfold candidate at built
      dsimp only at built
      rw [built]
      dsimp only
      split
      · rename_i clean
        constructor
        · intro same
          cases same
          exact ⟨⟨⟨config, holds, built⟩, List.isEmpty_iff.mp clean, rfl, rfl⟩, rfl⟩
        · rintro ⟨⟨⟨found, again, same⟩, _, rfl, shown⟩, rfl⟩
          rw [holds] at again
          cases again
          unfold candidate at same
          dsimp only at same
          rw [built] at same
          obtain ⟨plan, same⟩ := Prod.mk.inj same
          obtain ⟨runtime, config⟩ := Prod.mk.inj same
          rw [plan, runtime, config, ← shown]
      · rename_i broken
        -- A plan with errors is not prepared.
        refine iff_of_false (fun impossible => by cases impossible) fun loads => broken ?_
        obtain ⟨found, again, same⟩ := loads.1.loaded
        rw [holds] at again
        cases again
        unfold candidate at same
        dsimp only at same
        rw [built] at same
        rw [(Prod.mk.inj same).1, loads.1.errors]
        rfl

/-- A prepared configuration binds what its runtime has rendered, under the given path. -/
theorem prepareConfig_ok {core read : Core T} {path : String} {mode : ConfigInstall}
    {prepared : Prepared T} (answered : core.prepareConfig host path mode = (.ok prepared, read)) :
    prepared.path = path ∧
      prepared.plan.keyPairs = bindingKeyPairs prepared.runtime.rendered.bindings ∧
      (prepared.runtime.rendered.bindings.map Prod.fst).Nodup := by
  unfold prepareConfig at answered
  split at answered
  · cases answered
  · simp only at answered
    split at answered
    · rename_i config _ _
      cases answered
      -- The candidate starts without a selector, so its plan is the one of its bindings.
      refine ⟨rfl, buildLoadedRefreshPlan_keyPairs _ _ ?_⟩
      unfold candidateRuntime
      split <;> rfl
    · cases answered

/-- An install succeeds just when what the path holds loads and renders, the UI channel takes a
message, and no chord is refused. -/
theorem installConfig_ok_iff {core : Core T} {path : String} {mode : ConfigInstall} :
    (∃ changed next, core.installConfig host path mode = (.ok changed, next)) ↔
      ∃ prepared, core.Loads host path mode prepared ∧
        host.uiAccepts (core.readings + 2) = true ∧
        ∃ changed manager, core.manager.updateBindings host.hotkeys
          (host.order (core.readings + 3)) prepared.plan.keyPairs = (.ok changed, manager) := by
  unfold installConfig
  cases prepares : core.prepareConfig host path mode with
  | mk outcome read =>
    cases outcome with
    | error error =>
      refine iff_of_false (fun ⟨_, _, impossible⟩ => by cases impossible) ?_
      rintro ⟨prepared, loads, _⟩
      cases prepares.symm.trans (prepareConfig_iff.mpr ⟨loads, rfl⟩)
    | ok prepared =>
      obtain ⟨loads, rfl⟩ := prepareConfig_iff.mp prepares
      -- Only one configuration is prepared.
      have only : ∀ other, core.Loads host path mode other → prepared = other := by
        intro other also
        cases prepares.symm.trans (prepareConfig_iff.mpr ⟨also, rfl⟩)
        rfl
      have ready : core.tally.tally.uiReady host = host.uiAccepts (core.readings + 2) := rfl
      simp only [commitConfig, ready]
      constructor
      · rintro ⟨changed, next, answered⟩
        refine ⟨prepared, loads, ?_⟩
        split at answered
        · rename_i accepts
          refine ⟨accepts, ?_⟩
          split at answered
          · cases answered
          · rename_i granted
            exact ⟨_, _, granted⟩
        · cases answered
      · rintro ⟨other, also, accepts, changed, manager, granted⟩
        cases only other also
        have updates : core.tally.tally.tally.manager.updateBindings host.hotkeys
            (host.order core.tally.tally.tally.readings) prepared.plan.keyPairs =
              (.ok changed, manager) := granted
        rw [if_pos accepts, updates]
        exact ⟨_, _, rfl⟩

/--
Installing a configuration is all or nothing.

On failure the configuration, the runtime, the chords of all identifiers, the path and the displays
are those of before and nothing was sent. On success all of them are those that what the path holds
renders to, the bound identifiers are those of the new rendered bindings, and the new HUD was sent
first. It succeeds just when what the path holds loads and renders, the UI channel takes a message
and no chord is refused.
-/
theorem installConfig_all_or_nothing (core : Core T) (path : String) (mode : ConfigInstall) :
    ((∃ changed next, core.installConfig host path mode = (.ok changed, next)) ↔
      ∃ prepared, core.Loads host path mode prepared ∧
        host.uiAccepts (core.readings + 2) = true ∧
        ∃ changed manager, core.manager.updateBindings host.hotkeys
          (host.order (core.readings + 3)) prepared.plan.keyPairs = (.ok changed, manager)) ∧
    (∀ error next, core.installConfig host path mode = (.error error, next) →
      next.config = core.config ∧ next.runtime = core.runtime ∧
      (∀ ident, next.manager.chordForIdent ident = core.manager.chordForIdent ident) ∧
      next.configPath = core.configPath ∧ next.displaySnapshot = core.displaySnapshot ∧
      next.sent = core.sent) ∧
    ∀ changed next, core.installConfig host path mode = (.ok changed, next) →
      ∃ prepared read, core.prepareConfig host path mode = (.ok prepared, read) ∧
        core.Loads host path mode prepared ∧
        next.config = some prepared.config ∧ next.runtime = prepared.runtime ∧
        Registers next.manager prepared.runtime.rendered.bindings ∧
        next.configPath = some path ∧ next.displaySnapshot = prepared.displays ∧
        ∃ more, next.sent =
          core.sent ++ .hudUpdate prepared.plan.hud prepared.displays :: more := by
  refine ⟨installConfig_ok_iff, ?_⟩
  obtain ⟨readings, same⟩ := @prepareConfig_frame _ host core path mode
  unfold installConfig
  cases prepares : core.prepareConfig host path mode with
  | mk outcome read =>
    rw [prepares] at same
    simp only at same
    cases outcome with
    | error error =>
      -- Nothing was touched before the candidate was ready.
      simp only [Prod.mk.injEq, reduceCtorEq, false_and, IsEmpty.forall_iff, implies_true, and_true]
      rintro _ next ⟨_, rfl⟩
      rw [same]
      exact ⟨rfl, rfl, fun _ => rfl, rfl, rfl, rfl⟩
    | ok prepared =>
      obtain ⟨pathSame, pairs, distinct⟩ := prepareConfig_ok prepares
      simp only [commitConfig]
      cases ready : read.uiReady host with
      | false =>
        simp only [Bool.false_eq_true, if_false, Prod.mk.injEq, reduceCtorEq, false_and,
          IsEmpty.forall_iff, implies_true, and_true]
        rintro _ next ⟨_, rfl⟩
        rw [same]
        exact ⟨rfl, rfl, fun _ => rfl, rfl, rfl, rfl⟩
      | true =>
        simp only [if_true]
        cases updates : read.tally.manager.updateBindings host.hotkeys
            (host.order read.tally.readings) prepared.plan.keyPairs with
        | mk updated manager =>
          cases updated with
          | error refusal =>
            -- The manager gave every chord back before it answered.
            simp only [Prod.mk.injEq, reduceCtorEq, false_and, IsEmpty.forall_iff, implies_true,
              and_true]
            rintro _ next ⟨_, rfl⟩
            have undone := KeyBindingManager.updateBindings_error updates
            rw [same] at undone ⊢
            exact ⟨rfl, rfl, undone, rfl, rfl, rfl⟩
          | ok changed =>
            simp only [Prod.mk.injEq, reduceCtorEq, false_and, IsEmpty.forall_iff, implies_true,
              true_and]
            rintro _ next ⟨_, rfl⟩
            rw [pairs] at updates
            have bound := registers_of_update distinct updates
            obtain ⟨more, _, delivered⟩ := @deliverRefreshDiagnostics_frame _ host
              (({ read.tally.tally with
                  manager := manager.setCaptureAll host.hotkeys prepared.plan.captureAll
                  config := some prepared.config
                  runtime := prepared.runtime
                  configPath := some prepared.path
                  displaySnapshot := prepared.displays } : Core T).post
                (.hudUpdate prepared.plan.hud prepared.displays))
              prepared.plan.errors prepared.plan.warnings
            rw [delivered]
            refine ⟨prepared, read, ⟨rfl, rfl⟩, (prepareConfig_iff.mp prepares).1, rfl, rfl, ?_,
              by rw [← pathSame]; rfl, rfl, more, ?_⟩
            · intro ident chord
              show (manager.setCaptureAll host.hotkeys _).chordForIdent ident = _ ↔ _
              rw [KeyBindingManager.chordForIdent_setCaptureAll]
              exact bound ident chord
            · simp [post, tally, same]

/-- What a failed refresh should leave: bindings that are registered, and nothing else moved. -/
structure Restored (before after : Core T) : Prop where
  registered : Registers after.manager after.runtime.rendered.bindings
  hudVisible : after.runtime.hudVisible = before.runtime.hudVisible
  session : after.runtime.session = before.runtime.session
  focus : after.runtime.focus = before.runtime.focus
  sent : after.sent = before.sent

/-- The plan a refresh makes under a focus. -/
def firstPlan (host : Host T) (core : Core T) (focus : Option FocusSnapshot) :
    RefreshPlan T × RuntimeState T × Option (LoadedConfig T) :=
  buildRefreshPlan host.script host.defaultStyle core.runtime core.config focus

/--
Whether the state before a refresh can be restored when the refresh fails.

It can where the UI refuses the refresh before anything is rendered, and where no configuration is
loaded. Otherwise the renderers of the stack are asked again, under the focus of before: either one
of them fails, or the chords they then offer are those bound and the window of before is the one
its session shows.
-/
def Restorable (host : Host T) (core : Core T) (asked : Option (LoadedConfig T)) : Prop :=
  core.tally.uiReady host = false ∨ ∀ cfg ∈ asked,
    (∀ shown, ¬ Yields host.script (core.runtime.currentCtx core.runtime.focus) cfg
      (ensureStack cfg core.runtime.stack) shown) ∨
    core.runtime.contextWindow core.runtime.focus = core.runtime.focus ∧
      ∃ shown, Yields host.script (core.runtime.currentCtx core.runtime.focus) cfg
          (ensureStack cfg core.runtime.stack) shown ∧
        ∀ chord, Offers shown chord ↔ chord ∈ core.runtime.rendered.bindings.map Prod.fst

/-- Pure renderers give the same answers to every runtime of a configuration. -/
theorem Restorable.elsewhere {render : CallbackRef → ModeCtx → Except String (List Binding × Bool)}
    (pure : PureRenderers host.script render) {core : Core T} {cfg other : LoadedConfig T}
    (root : other.root = cfg.root) (restorable : core.Restorable host (some cfg)) :
    core.Restorable host (some other) := by
  -- The answers are read off the renderers, which are the same in both configurations.
  have rooted : ensureStack other core.runtime.stack = ensureStack cfg core.runtime.stack := by
    unfold ensureStack
    rw [root]
  rcases restorable with refused | asked
  · exact .inl refused
  · refine .inr fun config same => ?_
    cases same
    rw [rooted]
    rcases asked cfg rfl with failing | ⟨window, shown, given, offered⟩
    · -- What the one gives, the other gave.
      refine .inl fun shown given => ?_
      obtain ⟨shown', given', _⟩ := given.elsewhere pure (ensureStack_ne_nil _ _) cfg
      exact failing shown' given'
    · obtain ⟨shown', given', same⟩ := given.elsewhere pure (ensureStack_ne_nil _ _) other
      refine .inr ⟨window, shown', given', fun chord => ?_⟩
      rw [← offers_bare, same, offers_bare]
      exact offered chord

/-- A plan under a configuration leaves one, and keeps HUD, session and selector. -/
theorem buildRefreshPlan_some (style : T.Style) (rt : RuntimeState T) (cfg : LoadedConfig T)
    (focus : Option FocusSnapshot) :
    ∃ vm, (buildRefreshPlan host.script style rt (some cfg) focus).2.2 = some { cfg with vm } ∧
      (buildRefreshPlan host.script style rt (some cfg) focus).2.1 =
        { rt with
          focus := rt.contextWindow focus
          stack := (buildRefreshPlan host.script style rt (some cfg) focus).2.1.stack
          rendered := (buildRefreshPlan host.script style rt (some cfg) focus).2.1.rendered } := by
  -- A plan renders frames and sets the focus, and the rest of the state stays.
  obtain ⟨vm, same⟩ := buildLoadedRefreshPlan_config host.script
    { rt with focus := rt.contextWindow focus } cfg
  exact ⟨vm, congrArg some same,
    buildLoadedRefreshPlan_frame { rt with focus := rt.contextWindow focus } cfg⟩

/-- Bindings with the same chords are registered alike. -/
theorem Registers.congr {manager : KeyBindingManager T.Api} {left right : List (Chord × Binding)}
    (registered : Registers manager left)
    (same : ∀ chord, chord ∈ left.map Prod.fst ↔ chord ∈ right.map Prod.fst) :
    Registers manager right := by
  intro ident chord
  rw [registered, same]

/-- Bindings registered with one manager have the same chords. -/
theorem Registers.unique {manager : KeyBindingManager T.Api} {left right : List (Chord × Binding)}
    (registered : Registers manager left) (also : Registers manager right) (chord : Chord) :
    chord ∈ left.map Prod.fst ↔ chord ∈ right.map Prod.fst := by
  have same := (registered chord.display chord).symm.trans (also chord.display chord)
  simpa using same

/-- Restoring a state's own checkpoint brings back everything but the selector. -/
theorem restore_checkpoint (failed rt : RuntimeState T) :
    failed.restore rt.checkpoint = { rt with selector := failed.selector } := rfl

/-- A refusal of the UI touches nothing. -/
theorem rebindAndRefresh_unready {core : Core T} {focus : Option FocusSnapshot}
    (unready : core.tally.uiReady host = false) :
    core.rebindAndRefresh host focus = (.error .channelClosed, core.tally.tally) := by
  unfold rebindAndRefresh
  simp [unready]

/-- A failure behind a ready UI gives the manager's chords back and rolls the runtime back. -/
theorem rebindAndRefresh_error {core next : Core T} {focus : Option FocusSnapshot}
    {error : EngineError} (ready : core.tally.uiReady host = true)
    (failed : core.rebindAndRefresh host focus = (.error error, next)) :
    (∀ ident, next.manager.chordForIdent ident = core.manager.chordForIdent ident) ∧
      next.sent = core.sent ∧
      next.runtime = (rollback host core.runtime (core.firstPlan host focus).2.1
        (core.firstPlan host focus).2.2).1 := by
  -- A failure after the UI was ready is one of the registrations.
  unfold rebindAndRefresh at failed
  simp only [ready, if_true] at failed
  split at failed
  · rename_i refused
    cases failed
    exact ⟨KeyBindingManager.updateBindings_error refused, rfl, rfl⟩
  · cases failed

/-- A failed refresh with a configuration is undone by rendering the stack of before again. -/
theorem rebindAndRefresh_rolled {core next : Core T} {focus : Option FocusSnapshot}
    {error : EngineError} {cfg : LoadedConfig T} (ready : core.tally.uiReady host = true)
    (closed : core.runtime.selector = none) (loaded : core.config = some cfg)
    (failed : core.rebindAndRefresh host focus = (.error error, next)) :
    ∃ vm, (core.firstPlan host focus).2.2 = some { cfg with vm } ∧
      next.runtime = if (buildRefreshPlan host.script host.defaultStyle core.runtime
            (some { cfg with vm }) core.runtime.focus).1.errors.isEmpty then
          (buildRefreshPlan host.script host.defaultStyle core.runtime (some { cfg with vm })
            core.runtime.focus).2.1
        else core.runtime := by
  obtain ⟨_, _, rolled⟩ := rebindAndRefresh_error ready failed
  obtain ⟨vm, kept, framed⟩ :=
    @buildRefreshPlan_some _ host host.defaultStyle core.runtime cfg focus
  have planned : core.firstPlan host focus =
      buildRefreshPlan host.script host.defaultStyle core.runtime (some cfg) focus := by
    unfold firstPlan
    rw [loaded]
  rw [← planned] at kept framed
  -- The checkpoint brings back everything but the selector, which no plan touches.
  have restored : (core.firstPlan host focus).2.1.restore core.runtime.checkpoint =
      core.runtime := by
    rw [restore_checkpoint, framed]
  refine ⟨vm, kept, ?_⟩
  obtain ⟨_, _, reframed⟩ := @buildRefreshPlan_some _ host host.defaultStyle core.runtime
    { cfg with vm } core.runtime.focus
  rw [rolled]
  unfold rollback
  simp only [closed, Option.isSome_none, kept, restored]
  split
  · rfl
  · rw [restore_checkpoint, reframed]

/--
A failed refresh restores exactly when the state before it is restorable, its renderers asked by
the script runtime as the refresh left it.

Where the renderers are functions of their context, it does exactly when the state before it is
restorable with its own configuration. The mode stack may be one the running dispatch has just
changed: then its frames offer other chords than those bound.
-/
theorem rebindAndRefresh_restores {core next : Core T} {focus : Option FocusSnapshot}
    {error : EngineError} (closed : core.runtime.selector = none)
    (registered : Registers core.manager core.runtime.rendered.bindings)
    (failed : core.rebindAndRefresh host focus = (.error error, next)) :
    (Restored core next ↔ core.Restorable host (core.firstPlan host focus).2.2) ∧
      ∀ render, PureRenderers host.script render →
        (Restored core next ↔ core.Restorable host core.config) := by
  have general : Restored core next ↔ core.Restorable host (core.firstPlan host focus).2.2 := by
    cases ready : core.tally.uiReady host with
    | false =>
      -- The reservation comes before every change.
      rw [rebindAndRefresh_unready ready] at failed
      cases failed
      exact iff_of_true ⟨registered, rfl, rfl, rfl, rfl⟩ (.inl ready)
    | true =>
      obtain ⟨chords, unsent, rolled⟩ := rebindAndRefresh_error ready failed
      -- The refused table left every chord registered as it was.
      have still : Registers next.manager core.runtime.rendered.bindings := by
        intro ident chord
        rw [chords]
        exact registered ident chord
      cases loaded : core.config with
      | none =>
        have cleared : (core.firstPlan host focus).2.2 = none := by
          unfold firstPlan
          rw [loaded]
          rfl
        unfold rollback at rolled
        rw [cleared] at rolled ⊢
        simp only [closed, Option.isSome_none, restore_checkpoint] at rolled
        refine iff_of_true ⟨?_, ?_, ?_, ?_, unsent⟩ (.inr fun _ asked => by cases asked) <;>
          rw [rolled]
        exact still
      | some cfg =>
        obtain ⟨vm, kept, undone⟩ := rebindAndRefresh_rolled ready closed loaded failed
        obtain ⟨_, _, reframed⟩ := @buildRefreshPlan_some _ host host.defaultStyle core.runtime
          { cfg with vm } core.runtime.focus
        have clean := (@buildLoadedRefreshPlan_yields _ host.script
          { core.runtime with focus := core.runtime.contextWindow core.runtime.focus }
          { cfg with vm } closed).1
        have offered := @buildLoadedRefreshPlan_offers _ host.script
          { core.runtime with focus := core.runtime.contextWindow core.runtime.focus }
          { cfg with vm } closed
        unfold Restorable
        rw [kept, ready]
        simp only [Bool.true_eq_false, false_or, Option.mem_def, Option.some.injEq, forall_eq']
        split at undone
        · -- The stack of before rendered again, and its bindings are the rendered ones now.
          rename_i noError
          obtain ⟨shown, given⟩ := clean.mp (List.isEmpty_iff.mp noError)
          constructor
          · intro restored
            have shownNow := restored.registered
            rw [undone] at shownNow
            have focused := restored.focus
            rw [undone, reframed] at focused
            refine .inr ⟨focused, shown, given, fun chord => ?_⟩
            rw [← offered given]
            exact shownNow.unique still chord
          · rintro (failing | ⟨focused, shown', given', same⟩)
            · exact absurd given (failing shown)
            · refine ⟨?_, ?_, ?_, ?_, unsent⟩ <;> rw [undone]
              · exact still.congr fun chord => ((offered given' chord).trans (same chord)).symm
              · rw [reframed]
              · rw [reframed]
              · rw [reframed]
                exact focused
        · -- The stack of before does not render, so its old output was restored.
          rename_i broken
          have failing : ∀ shown, ¬ Yields host.script
              (core.runtime.currentCtx core.runtime.focus) { cfg with vm }
              (ensureStack { cfg with vm } core.runtime.stack) shown := fun shown given =>
            broken (List.isEmpty_iff.mpr (clean.mpr ⟨shown, given⟩))
          refine iff_of_true ⟨?_, ?_, ?_, ?_, unsent⟩ (.inl failing) <;> rw [undone]
          exact still
  -- Pure renderers do not see the script state that the failed render left.
  refine ⟨general, fun render pure => general.trans ?_⟩
  cases loaded : core.config with
  | none =>
    unfold firstPlan
    rw [loaded]
    exact Iff.rfl
  | some cfg =>
    obtain ⟨vm, kept, _⟩ := @buildRefreshPlan_some _ host host.defaultStyle core.runtime cfg focus
    unfold firstPlan
    rw [loaded, kept]
    exact ⟨.elsewhere pure rfl, .elsewhere pure rfl⟩

/-- Externals over the hotkey registry, with numbers for what is only passed along. -/
def registryExternals : Externals := ⟨Unit, Bool, Nat, Nat, RegistryApi⟩

/-- The displays of those externals are numbers. -/
instance : BEq registryExternals.Displays := inferInstanceAs (BEq Nat)

/-- A mode entry at `a`. -/
private def childEntry : Binding :=
  ⟨⟨∅, .a⟩, "child", .mode ⟨1, 1, none⟩, some 1, {}, false, none⟩

/-- A handler at `b`. -/
private def childHandler : Binding :=
  ⟨⟨∅, .b⟩, "act", .handler ⟨2⟩, none, {}, false, none⟩

/-- A host whose root offers one child, whose UI is ready or not, and which refuses removals. -/
def refusingHost (ready : Bool) : Host registryExternals where
  script := rendererHost fun func _ => .ok (if func = 0 then [childEntry] else [childHandler], false)
  matching := ⟨fun items => items.length, fun matcher _ => matcher, fun matcher => (false, matcher),
    id, fun _ _ => none, fun _ _ _ => []⟩
  hotkeys := registryApi fun _ => some (.hotkey "refused")
  defaultStyle := false
  load _ _ := .error "missing"
  uiAccepts _ := ready
  displays _ := (0 : Nat)
  order _ := ⟨.stored _, .stored _, .stored _⟩

/-- The bindings of the root. -/
private def rootBindings : List (Chord × Binding) := [(⟨∅, .a⟩, childEntry)]

/-- The state at the root, with its entry registered. -/
private def atRoot (ready : Bool) : Core registryExternals :=
  { Core.initial (refusingHost ready) ({} : RegistryApi) (0 : Nat) with
    manager := ((KeyBindingManager.newWithApi {}).updateBindings (refusingHost ready).hotkeys
      ⟨.stored _, .stored _, .stored _⟩ (bindingKeyPairs rootBindings)).2
    config := some ⟨⟨0, 0, none⟩, false, (), none, ∅⟩
    runtime := ⟨false, [⟨"root", ⟨0, 0, none⟩, none, [childEntry], false⟩], none, none,
      ⟨rootBindings, buildHudRows rootBindings, false, false⟩, none⟩ }

/-- The same state after the running dispatch has entered the child. -/
private def inChild : Core registryExternals :=
  { atRoot true with
    runtime := (atRoot true).runtime.pushMode "child" ⟨1, 1, none⟩ (some (⟨∅, .a⟩, 1)) false none }

/-- The entry of the root is what is registered there. -/
private theorem atRoot_registers (ready : Bool) : Registers (atRoot ready).manager rootBindings := by
  refine @registers_of_update _ (refusingHost ready) ⟨.stored _, .stored _, .stored _⟩
    (.newWithApi {}) _ rootBindings true (by decide) (Prod.ext ?_ rfl)
  cases ready <;> decide +kernel

/-- What a root offers that shows one binding without a window and another with one. -/
private def windowed (_ : CallbackRef) (ctx : ModeCtx) : Except String (List Binding × Bool) :=
  .ok ([if ctx.window.isNone then childEntry else childHandler], false)

/-- A host with such a root, which refuses removals. -/
private def windowedHost : Host registryExternals :=
  { refusingHost true with script := rendererHost windowed }

/-- The renderers of that host are functions of their context. -/
private theorem windowedHost_pure : PureRenderers windowedHost.script
    fun func ctx => (windowed func ctx).map bareAnswer :=
  ⟨fun _ _ _ => rfl, fun _ => rfl⟩

/-- The same when the focus moves to a window: the old key cannot be removed, and stays shown. -/
theorem rebindAndRefresh_restores_refocused :
    let failed := (atRoot true).rebindAndRefresh windowedHost (some ⟨1, "editor", "main", 7, none⟩)
    failed.1 = .error (.hotkey "refused") ∧
      (Restored (atRoot true) failed.2 ↔
        (atRoot true).Restorable windowedHost (atRoot true).config) := by
  have refused : ((atRoot true).rebindAndRefresh windowedHost
      (some ⟨1, "editor", "main", 7, none⟩)).1 = .error (.hotkey "refused") := by
    decide +kernel
  exact ⟨refused, (rebindAndRefresh_restores rfl (atRoot_registers true)
    (Prod.ext refused rfl)).2 _ windowedHost_pure⟩

/-- The same right after a mode was entered: the rollback shows the child's bindings, which were
never registered. -/
theorem rebindAndRefresh_restores_entered :
    ∃ error next, inChild.rebindAndRefresh (refusingHost true) none = (.error error, next) ∧
      inChild.runtime.selector = none ∧
      Registers inChild.manager inChild.runtime.rendered.bindings ∧ ¬ Restored inChild next := by
  refine ⟨.hotkey "refused", (inChild.rebindAndRefresh (refusingHost true) none).2,
    Prod.ext ?_ rfl, rfl, atRoot_registers true, fun restored => ?_⟩
  · decide +kernel
  · -- The child's key is shown as bound, and the manager has no chord for it.
    have shown := (restored.registered "b" ⟨∅, .b⟩).mpr (by decide +kernel)
    revert shown
    decide +kernel

/-- A host with a configuration at every path, which refuses removals or not. -/
private def loadingHost (refuses : Bool) : Host registryExternals :=
  { refusingHost true with
    hotkeys := registryApi fun _ => if refuses then some (.hotkey "refused") else none
    script := rendererHost fun _ _ => .ok ([childHandler], false)
    load := fun _ _ => .ok ⟨⟨0, 0, none⟩, true, (), none, ∅⟩ }

/-- The same where the chord of the old configuration is given up, and where it is not. -/
theorem installConfig_all_or_nothing_loaded :
    (∃ changed next, (atRoot true).installConfig (loadingHost false) "new.luau" .keepFocus =
        (.ok changed, next) ∧ next.configPath = some "new.luau" ∧
      Registers next.manager [(⟨∅, .b⟩, childHandler)]) ∧
    ∃ error next, (atRoot true).installConfig (loadingHost true) "new.luau" .keepFocus =
      (.error error, next) ∧ next.configPath = none ∧
      ∀ ident, next.manager.chordForIdent ident = (atRoot true).manager.chordForIdent ident := by
  -- The API gives the old chord up in one case, and refuses to in the other.
  constructor
  · have answered : ((atRoot true).installConfig (loadingHost false) "new.luau" .keepFocus).1 =
        .ok true := by decide +kernel
    have shown : ((atRoot true).installConfig (loadingHost false) "new.luau"
        .keepFocus).2.runtime.rendered.bindings = [(⟨∅, .b⟩, childHandler)] := by decide +kernel
    obtain ⟨_, _, installed⟩ :=
      @installConfig_all_or_nothing _ (loadingHost false) (atRoot true) "new.luau" .keepFocus
    obtain ⟨prepared, _, _, _, _, runtime, bound, path, _⟩ := installed _ _ (Prod.ext answered rfl)
    rw [← runtime, shown] at bound
    exact ⟨_, _, Prod.ext answered rfl, path, bound⟩
  · have answered : ((atRoot true).installConfig (loadingHost true) "new.luau" .keepFocus).1 =
        .error (.hotkey "refused") := by decide +kernel
    obtain ⟨_, kept, _⟩ :=
      @installConfig_all_or_nothing _ (loadingHost true) (atRoot true) "new.luau" .keepFocus
    obtain ⟨_, _, chords, path, _⟩ := kept _ _ (Prod.ext answered rfl)
    exact ⟨_, _, Prod.ext answered rfl, path, chords⟩

end Core

end Hotki

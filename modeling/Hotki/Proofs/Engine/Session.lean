import Hotki.Base.Run
import Hotki.Proofs.Engine.Refresh

/-! The transient session: when it is open, and the window it pins. -/

namespace Hotki

open Base Script

variable {T : Externals}

/-- The operations that change the stack, the HUD, the session or the selector. -/
inductive RuntimeOp (T : Externals) where
  | pushMode (title : String) (closure : ModeRef) (enteredVia : Option (Chord × ModeId))
      (capture : Bool) (openingWindow : Option FocusSnapshot)
  | navigate (request : NavRequest) (openingWindow : Option FocusSnapshot)
  /-- Renders under a configuration, dropping frames as rendering does. -/
  | render (config : Option (LoadedConfig T)) (focus : Option FocusSnapshot)
  /-- Renders and then restores the checkpoint taken before. -/
  | renderAndRestore (config : Option (LoadedConfig T)) (focus : Option FocusSnapshot)
  | openSelector (config : SelectorConfig) (matcher : T.Matcher) (window : Option FocusSnapshot)
  | closeSelector
  /-- Installs a configuration, keeping HUD and focus or taking the focus given. -/
  | install (config : LoadedConfig T) (mode : ConfigInstall) (focus : Option FocusSnapshot)

/-- The HUD visibility and the focus an install starts from. -/
def RuntimeState.installFrom (rt : RuntimeState T) (mode : ConfigInstall)
    (focus : Option FocusSnapshot) : Bool × Option FocusSnapshot :=
  match mode with
  | .resetFocus => (false, focus)
  | .keepFocus => (rt.hudVisible, rt.focus)

/-- The runtime state after one operation. -/
def RuntimeState.apply (host : Host T) (rt : RuntimeState T) : RuntimeOp T → RuntimeState T
  | .pushMode title closure enteredVia capture window =>
    rt.pushMode title closure enteredVia capture window
  | .navigate request window => (rt.applyNavRequest window request).2
  | .render config focus =>
    (buildRefreshPlan host.script host.defaultStyle rt config focus).2.1
  | .renderAndRestore config focus =>
    (buildRefreshPlan host.script host.defaultStyle rt config focus).2.1.restore rt.checkpoint
  | .openSelector config matcher window => rt.openSelector config matcher window
  | .closeSelector =>
    match rt.selector with
    | some selector => rt.closeSelector selector
    | none => rt
  | .install config mode focus =>
    let (hudVisible, focus) := rt.installFrom mode focus
    let fresh := Core.candidateRuntime host config hudVisible focus
    (buildRefreshPlan host.script host.defaultStyle fresh (some config) focus).2.1

/-- What the session should be: open while a mode or the HUD shows, and closed behind neither. -/
structure SessionPinned (rt : RuntimeState T) : Prop where
  /-- A child mode or a visible HUD has its session. -/
  active : 0 < rt.depth ∨ rt.hudVisible = true → rt.session ≠ none
  /-- At the root with the HUD hidden and no selector, the context window is the live focus. -/
  idle : rt.depth = 0 → rt.hudVisible = false → rt.selector = none →
    rt.session = none ∧ ∀ live, rt.contextWindow live = live

/-- Whether a session active before and after keeps its window. -/
def KeepsWindow (before after : RuntimeState T) : Prop :=
  ∀ opened kept, before.session = some opened → after.session = some kept →
    kept.window = opened.window

/--
The operations that leave the session as it should be, by the state they meet.

Hiding the HUD at the root must find no session, or a selector open; a render that leaves the root
alone must find the HUD visible, or no session, or a selector; a closing selector must bring back a
HUD that has a session, or hide one that stands over a child mode or has none; and a reload under a
visible HUD must find the focus at the session's window.
-/
def Tidy (host : Host T) (rt : RuntimeState T) : RuntimeOp T → Prop
  | .navigate .hideHud _ => rt.depth = 0 → rt.session = none ∨ rt.selector ≠ none
  | .render config focus =>
    (buildRefreshPlan host.script host.defaultStyle rt config focus).2.1.depth = 0 →
      config = none ∨ rt.hudVisible = true ∨ rt.session = none ∨ rt.selector ≠ none
  | .renderAndRestore config _ =>
    config = none → rt.selector ≠ none → rt.depth = 0 → rt.hudVisible = false → rt.session = none
  | .closeSelector =>
    ∀ selector, rt.selector = some selector →
      if selector.prevHudVisible then rt.session ≠ none else 0 < rt.depth ∨ rt.session = none
  | .install _ .keepFocus _ =>
    rt.hudVisible = true → ∀ session, rt.session = some session → session.window = rt.focus
  | _ => True

/-- A plan never adds a child mode. -/
theorem depth_buildRefreshPlan_le (host : Host T) (rt : RuntimeState T)
    (config : Option (LoadedConfig T)) (focus : Option FocusSnapshot) :
    (buildRefreshPlan host.script host.defaultStyle rt config focus).2.1.depth ≤ rt.depth := by
  -- A plan ensures a root, renders, and drops frames.
  cases config with
  | none => exact Nat.zero_le _
  | some cfg =>
    have ensured : (ensureStack cfg rt.stack).length - 1 = rt.depth := by
      unfold ensureStack RuntimeState.depth
      split
      · rename_i empty
        rw [List.isEmpty_iff.mp empty]
        rfl
      · rfl
    have shorter := length_renderStackWithRecovery_le host.script
      { rt with focus := rt.contextWindow focus, stack := ensureStack cfg rt.stack } cfg
    rw [← ensured]
    simp only [buildRefreshPlan, buildLoadedRefreshPlan]
    split
    · exact Nat.le_refl _
    · exact Nat.sub_le_sub_right shorter 1

/-- A plan keeps the HUD, the session and the selector, or clears all three. -/
theorem buildRefreshPlan_cases (host : Host T) (rt : RuntimeState T)
    (config : Option (LoadedConfig T)) (focus : Option FocusSnapshot) :
    let after := (buildRefreshPlan host.script host.defaultStyle rt config focus).2.1
    (config ≠ none ∧ after.hudVisible = rt.hudVisible ∧ after.session = rt.session ∧
      after.selector = rt.selector) ∨
    (config = none ∧ after.hudVisible = false ∧ after.session = none ∧ after.selector = none ∧
      after.depth = 0) := by
  -- Without a configuration the state is cleared.
  cases config with
  | none => exact .inr ⟨rfl, rfl, rfl, rfl, rfl⟩
  | some cfg =>
    obtain ⟨_, _, framed⟩ := @Core.buildRefreshPlan_some _ host host.defaultStyle rt cfg focus
    refine .inl ⟨by simp, ?_, ?_, ?_⟩ <;> rw [framed]

/-- A state whose session is open, with nothing required of it at the root. -/
theorem SessionPinned.of_active {rt : RuntimeState T} (active : rt.session ≠ none)
    (shown : rt.depth = 0 → rt.hudVisible = false → rt.selector = none → False) :
    SessionPinned rt :=
  ⟨fun _ => active, fun root hidden closed => (shown root hidden closed).elim⟩

/-- A state at the root with the HUD hidden and no session is as it should be. -/
theorem SessionPinned.of_idle {rt : RuntimeState T} (root : rt.depth = 0)
    (hidden : rt.hudVisible = false) (ended : rt.session = none) : SessionPinned rt := by
  refine ⟨fun shown => ?_, fun _ _ _ => ⟨ended, fun live => by simp [RuntimeState.contextWindow, ended]⟩⟩
  rcases shown with deep | visible
  · omega
  · rw [hidden] at visible
    cases visible

/-- Without a session the context window is the live one. -/
theorem RuntimeState.contextWindow_of_ended {rt : RuntimeState T} (ended : rt.session = none)
    (live : Option FocusSnapshot) : rt.contextWindow live = live := by
  simp [RuntimeState.contextWindow, ended]

/-- A session that is the same before and after keeps its window. -/
theorem KeepsWindow.of_same {before after : RuntimeState T}
    (same : after.session = before.session) : KeepsWindow before after := by
  intro opened kept active still
  rw [same, active] at still
  cases still
  rfl

/-- A state without a session has no window to keep. -/
theorem KeepsWindow.of_ended {before after : RuntimeState T} (ended : after.session = none) :
    KeepsWindow before after := by
  intro opened kept _ still
  rw [ended] at still
  cases still

/-- Starting a session keeps the window of an active one. -/
theorem KeepsWindow.of_started {before after : RuntimeState T} {window : Option FocusSnapshot}
    (started : after.session = some (before.session.getD ⟨window⟩)) :
    KeepsWindow before after := by
  intro opened kept active still
  rw [started, active] at still
  cases still
  rfl

section Operations

variable (host : Host T) {rt : RuntimeState T}

/-- Popping a mode ends the session at the root and keeps it above. -/
theorem pop_pinned (pinned : SessionPinned rt) (window : Option FocusSnapshot) :
    SessionPinned (rt.apply host (.navigate .pop window)) ∧
      KeepsWindow rt (rt.apply host (.navigate .pop window)) := by
  simp only [RuntimeState.apply, RuntimeState.applyNavRequest]
  split
  · -- Back at the root the session ends with the HUD.
    rename_i root
    exact ⟨.of_idle root rfl rfl, .of_ended rfl⟩
  · -- A mode remains, so there was one before.
    rename_i deep
    have session : rt.popMode.session = rt.session := by
      unfold RuntimeState.popMode
      split <;> rfl
    have before : 0 < rt.depth := by
      by_contra shallow
      refine deep ?_
      unfold RuntimeState.popMode
      rw [if_pos (by omega)]
      omega
    refine ⟨.of_active ?_ fun root => absurd root deep, .of_same session⟩
    rw [session]
    exact pinned.active (.inl before)

/-- Hiding the HUD is tidy when the root has no session left, or a selector is open. -/
theorem hideHud_pinned_iff (pinned : SessionPinned rt) (window : Option FocusSnapshot) :
    SessionPinned (rt.apply host (.navigate .hideHud window)) ∧
      KeepsWindow rt (rt.apply host (.navigate .hideHud window)) ↔
        Tidy host rt (.navigate .hideHud window) := by
  -- Hiding leaves the session, so it is tidy only where none is left over.
  constructor
  · -- At the root only an open selector may stand over a session.
    rintro ⟨after, _⟩ root
    by_cases closed : rt.selector = none
    · exact .inl (after.idle root rfl closed).1
    · exact .inr closed
  · intro tidy
    refine ⟨⟨fun shown => ?_, fun root _ closed => ?_⟩, .of_same rfl⟩
    · rcases shown with deep | visible
      · exact pinned.active (.inl deep)
      · cases visible
    · have ended : rt.session = none := (tidy root).resolve_right fun shown => shown closed
      exact ⟨ended, RuntimeState.contextWindow_of_ended ended⟩

/-- A render is tidy when what it leaves at the root is shown, or has no session, or is covered. -/
theorem render_pinned_iff (pinned : SessionPinned rt) (config : Option (LoadedConfig T))
    (focus : Option FocusSnapshot) :
    SessionPinned (rt.apply host (.render config focus)) ∧
      KeepsWindow rt (rt.apply host (.render config focus)) ↔
        Tidy host rt (.render config focus) := by
  -- A configuration keeps HUD, session and selector; without one they are cleared.
  have shallower := depth_buildRefreshPlan_le host rt config focus
  have framed := buildRefreshPlan_cases host rt config focus
  simp only at framed
  simp only [RuntimeState.apply, Tidy]
  generalize (buildRefreshPlan host.script host.defaultStyle rt config focus).2.1 = after at *
  rcases framed with ⟨loaded, hud, session, selector⟩ | ⟨unloaded, hud, session, _, root⟩
  · constructor
    · rintro ⟨still, _⟩ root
      by_contra untidy
      simp only [not_or, Bool.not_eq_true, not_not] at untidy
      have ended := (still.idle root (hud.trans untidy.2.1) (selector.trans untidy.2.2.2)).1
      exact untidy.2.2.1 (session.symm.trans ended)
    · intro tidy
      refine ⟨⟨fun shown => ?_, fun root hidden closed => ?_⟩, .of_same session⟩
      · rw [session]
        apply pinned.active
        rcases shown with deep | visible
        · exact .inl (by omega)
        · exact .inr (hud.symm.trans visible)
      · -- What is left at the root is hidden and closed, so it had no session.
        have ended : rt.session = none := by
          rcases tidy root with unloaded | visible | ended | opened
          · exact absurd unloaded loaded
          · rw [hud, visible] at hidden
            cases hidden
          · exact ended
          · exact absurd (selector.symm.trans closed) opened
        have gone : after.session = none := session.trans ended
        exact ⟨gone, RuntimeState.contextWindow_of_ended gone⟩
  · exact iff_of_true ⟨.of_idle root hud session, .of_ended session⟩ fun _ => .inl unloaded

/-- A restored checkpoint is tidy unless the plan closed a selector that covered a session. -/
theorem renderAndRestore_pinned_iff (pinned : SessionPinned rt)
    (config : Option (LoadedConfig T)) (focus : Option FocusSnapshot) :
    SessionPinned (rt.apply host (.renderAndRestore config focus)) ∧
      KeepsWindow rt (rt.apply host (.renderAndRestore config focus)) ↔
        Tidy host rt (.renderAndRestore config focus) := by
  -- The checkpoint brings its own HUD and session back.
  have framed := buildRefreshPlan_cases host rt config focus
  simp only at framed
  simp only [RuntimeState.apply, Tidy, Core.restore_checkpoint]
  generalize (buildRefreshPlan host.script host.defaultStyle rt config focus).2.1 = after at *
  rcases framed with ⟨loaded, _, _, selector⟩ | ⟨unloaded, _, _, selector, _⟩
  · rw [selector]
    exact iff_of_true ⟨pinned, .of_same rfl⟩ fun unloaded => absurd unloaded loaded
  · rw [selector]
    constructor
    · rintro ⟨still, _⟩ _ _ root hidden
      exact (still.idle root hidden rfl).1
    · intro tidy
      refine ⟨⟨pinned.active, fun root hidden _ => ?_⟩, .of_same rfl⟩
      have ended : rt.session = none := by
        by_cases closed : rt.selector = none
        · exact (pinned.idle root hidden closed).1
        · exact tidy unloaded closed root hidden
      exact ⟨ended, RuntimeState.contextWindow_of_ended ended⟩

/-- A closing selector is tidy when the HUD it brings back fits the session there is by then. -/
theorem closeSelector_pinned_iff (pinned : SessionPinned rt) :
    SessionPinned (rt.apply host .closeSelector) ∧
      KeepsWindow rt (rt.apply host .closeSelector) ↔ Tidy host rt .closeSelector := by
  -- The selector returns the HUD to what it found.
  simp only [RuntimeState.apply, Tidy]
  cases opened : rt.selector with
  | none => simpa [opened] using ⟨pinned, KeepsWindow.of_same rfl⟩
  | some selector =>
    simp only [Option.some.injEq, forall_eq']
    cases previous : selector.prevHudVisible with
    | true =>
      simp only [if_true]
      constructor
      · rintro ⟨still, _⟩
        exact still.active (.inr previous)
      · intro active
        refine ⟨.of_active active fun _ hidden => ?_, .of_same rfl⟩
        rw [show (rt.closeSelector selector).hudVisible = true from previous] at hidden
        cases hidden
    | false =>
      simp only [Bool.false_eq_true, if_false]
      constructor
      · rintro ⟨still, _⟩
        by_cases root : rt.depth = 0
        · exact .inr (still.idle root previous rfl).1
        · exact .inl (by omega)
      · intro tidy
        refine ⟨⟨fun shown => ?_, fun root _ _ => ?_⟩, .of_same rfl⟩
        · rcases shown with deep | visible
          · exact pinned.active (.inl deep)
          · rw [show (rt.closeSelector selector).hudVisible = false from previous] at visible
            cases visible
        · have ended : rt.session = none := by
            rcases tidy with deep | ended
            · have shallow : rt.depth = 0 := root
              omega
            · exact ended
          exact ⟨ended, RuntimeState.contextWindow_of_ended ended⟩

/-- An install is tidy when a visible HUD keeps its session's window. -/
theorem install_pinned_iff (config : LoadedConfig T) (mode : ConfigInstall)
    (focus : Option FocusSnapshot) :
    SessionPinned (rt.apply host (.install config mode focus)) ∧
      KeepsWindow rt (rt.apply host (.install config mode focus)) ↔
        Tidy host rt (.install config mode focus) := by
  -- The new state has only the root, and a session exactly under a visible HUD.
  have fresh : ∀ hud window,
      let after := (buildRefreshPlan host.script host.defaultStyle
        (Core.candidateRuntime host config hud window) (some config) window).2.1
      after.depth = 0 ∧ after.hudVisible = hud ∧
        after.session = if hud then some ⟨window⟩ else none := by
    intro hud window after
    have shallow := depth_buildRefreshPlan_le host (Core.candidateRuntime host config hud window)
      (some config) window
    have framed := buildRefreshPlan_cases host (Core.candidateRuntime host config hud window)
      (some config) window
    have root : (Core.candidateRuntime host config hud window).depth = 0 := rfl
    rcases framed with ⟨_, visible, session, _⟩ | ⟨unloaded, _⟩
    · refine ⟨?_, ?_, ?_⟩
      · rw [root] at shallow
        exact Nat.le_zero.mp shallow
      · show (buildRefreshPlan _ _ _ _ _).2.1.hudVisible = hud
        rw [visible]
        cases hud <;> rfl
      · show (buildRefreshPlan _ _ _ _ _).2.1.session = _
        rw [session]
        cases hud <;> rfl
    · cases unloaded
  cases mode with
  -- A reset hides the HUD and ends the session with it.
  | resetFocus =>
    obtain ⟨root, hidden, ended⟩ := fresh false focus
    exact iff_of_true ⟨.of_idle root hidden ended, .of_ended ended⟩ trivial
  | keepFocus =>
    obtain ⟨root, hud, session⟩ := fresh rt.hudVisible rt.focus
    simp only [RuntimeState.apply, RuntimeState.installFrom, Tidy]
    generalize (buildRefreshPlan host.script host.defaultStyle
      (Core.candidateRuntime host config rt.hudVisible rt.focus) (some config) rt.focus).2.1 =
        after at *
    cases visible : rt.hudVisible with
    | false =>
      rw [visible] at hud session
      exact iff_of_true ⟨.of_idle root hud session, .of_ended session⟩
        fun shown => by cases shown
    | true =>
      rw [visible] at hud session
      simp only [if_true, forall_const] at session ⊢
      constructor
      -- A session that goes on has to be the one for the focus of now.
      · rintro ⟨_, keeps⟩ opened active
        exact (keeps opened ⟨rt.focus⟩ active session).symm
      · intro tidy
        refine ⟨.of_active (by simp [session]) fun _ hidden => ?_, ?_⟩
        · rw [hud] at hidden
          cases hidden
        · intro opened kept active still
          rw [session] at still
          cases still
          exact (tidy opened active).symm

/-- An operation leaves the session as it should be, with its window, exactly when it is tidy. -/
theorem apply_pinned_iff (pinned : SessionPinned rt) (op : RuntimeOp T) :
    SessionPinned (rt.apply host op) ∧ KeepsWindow rt (rt.apply host op) ↔ Tidy host rt op := by
  cases op with
  | pushMode title closure enteredVia capture window =>
    -- The mode opens with its session and with the HUD.
    exact iff_of_true ⟨.of_active (by simp [RuntimeState.apply, RuntimeState.pushMode,
      RuntimeState.startSession]) (by simp [RuntimeState.apply, RuntimeState.pushMode]),
      .of_started rfl⟩ trivial
  | navigate request window =>
    cases request with
    | push mode title =>
      exact iff_of_true ⟨.of_active (by simp [RuntimeState.apply, RuntimeState.applyNavRequest,
        RuntimeState.pushMode, RuntimeState.startSession]) (by simp [RuntimeState.apply,
        RuntimeState.applyNavRequest, RuntimeState.pushMode]), .of_started rfl⟩ trivial
    | pop => exact iff_of_true (pop_pinned host pinned window) trivial
    | exit =>
      refine iff_of_true ⟨.of_idle ?_ rfl rfl, .of_ended rfl⟩ trivial
      simp [RuntimeState.apply, RuntimeState.applyNavRequest, RuntimeState.depth,
        RuntimeState.endSession, RuntimeState.resetToRoot]
    | showRoot =>
      exact iff_of_true ⟨.of_active (by simp [RuntimeState.apply, RuntimeState.applyNavRequest,
        RuntimeState.startSession]) (by simp [RuntimeState.apply, RuntimeState.applyNavRequest]),
        .of_started rfl⟩ trivial
    | hideHud => exact hideHud_pinned_iff host pinned window
  | render config focus => exact render_pinned_iff host pinned config focus
  | renderAndRestore config focus => exact renderAndRestore_pinned_iff host pinned config focus
  | openSelector config matcher window =>
    -- The session of the modes below outlasts the selector.
    refine iff_of_true ⟨⟨fun shown => ?_, fun _ _ closed => by cases closed⟩, .of_same rfl⟩ trivial
    rcases shown with deep | visible
    · exact pinned.active (.inl deep)
    · cases visible
  | closeSelector => exact closeSelector_pinned_iff host pinned
  | install config mode focus => exact install_pinned_iff host config mode focus

end Operations

/-- A property of every operation of a run and the state it meets. -/
def Throughout (host : Host T) (property : RuntimeState T → RuntimeOp T → Prop) :
    RuntimeState T → List (RuntimeOp T) → Prop
  | _, [] => True
  | rt, op :: rest => property rt op ∧ Throughout host property (rt.apply host op) rest

/-- The session is as it should be after every operation exactly when every operation is tidy. -/
theorem throughout_pinned_iff (host : Host T) {rt : RuntimeState T} (pinned : SessionPinned rt)
    (ops : List (RuntimeOp T)) :
    Throughout host (fun rt op => SessionPinned (rt.apply host op) ∧
        KeepsWindow rt (rt.apply host op)) rt ops ↔ Throughout host (Tidy host) rt ops := by
  -- Both sides stop at the first operation that is not tidy.
  induction ops generalizing rt with
  | nil => exact Iff.rfl
  | cons op rest ih =>
    unfold Throughout
    rw [apply_pinned_iff host pinned op]
    refine and_congr_right fun tidy => ?_
    exact ih ((apply_pinned_iff host pinned op).mpr tidy).1

/--
In every run from the empty state, the session is open behind every mode and every visible HUD,
closed at the hidden root, and true to its window, exactly when every operation is tidy.
-/
theorem session_pinned (host : Host T) (ops : List (RuntimeOp T)) :
    Throughout host (fun rt op => SessionPinned (rt.apply host op) ∧
        KeepsWindow rt (rt.apply host op)) (.empty host.defaultStyle) ops ↔
      Throughout host (Tidy host) (.empty host.defaultStyle) ops :=
  throughout_pinned_iff host (.of_idle rfl rfl rfl) ops

/-- The same with the HUD shown and hidden again at the root: the session stays open. -/
theorem session_pinned_hidden :
    let host := Core.refusingHost true
    ¬ Throughout host (fun rt op => SessionPinned (rt.apply host op) ∧
        KeepsWindow rt (rt.apply host op)) (.empty host.defaultStyle)
      [.navigate .showRoot none, .navigate .hideHud none] := by
  intro host
  rintro ⟨_, ⟨pinned, _⟩, _⟩
  have ended := (pinned.idle rfl rfl rfl).1
  cases ended

end Hotki

import Hotki.Proofs.Engine.Gesture

/-! What the steps of the engine's tasks do to the key tracker and to the held bindings. -/

namespace Hotki

open Base

namespace Operation

/-- The chord of the press an operation notes as told to the HUD, if it does so. -/
def told : Operation → Option Chord
  | markPressNotified chord => some chord
  | _ => none

/-- What is not part of a resolution leaves the held bindings alone. -/
theorem onHeld_quiet (held : HashMap UInt32 HeldBinding) {operation : Operation}
    (apart : operation.resolves = false) : operation.onHeld held = held := by
  cases operation <;> first | rfl | cases apart

/-- Operations that are no part of a resolution leave the held bindings alone. -/
theorem onHeld_foldl_quiet {operations : List Operation}
    (apart : ∀ operation ∈ operations, operation.resolves = false)
    (held : HashMap UInt32 HeldBinding) : operations.foldl onHeld held = held := by
  induction operations generalizing held with
  | nil => rfl
  | cons operation rest ih =>
    rw [List.foldl_cons, onHeld_quiet held (apart operation (by simp))]
    exact ih (fun other member => apart other (by simp [member])) held

/-- What is not part of a resolution leaves the same keys down. -/
theorem onTracker_isDown (ident other : String) (tracker : KeyStateTracker)
    {operation : Operation} (apart : operation.resolves = false) :
    KeyStateTracker.isDown (operation.onTracker ident tracker) other =
      KeyStateTracker.isDown tracker other := by
  cases operation with
  | onKeyDown | onKeyUp => cases apart
  | markPressNotified | forbidRepeat => exact KeyStateTracker.alter_isDown _ _ _ _
  | _ => rfl

/-- Operations that are no part of a resolution leave the same keys down. -/
theorem onTracker_foldl_isDown (ident other : String) {operations : List Operation}
    (apart : ∀ operation ∈ operations, operation.resolves = false) (tracker : KeyStateTracker) :
    KeyStateTracker.isDown (operations.foldl (onTracker ident) tracker) other =
      KeyStateTracker.isDown tracker other := by
  induction operations generalizing tracker with
  | nil => rfl
  | cons operation rest ih =>
    rw [List.foldl_cons, ih fun later member => apart later (by simp [member])]
    exact onTracker_isDown ident other tracker (apart operation (by simp))

end Operation

namespace Engine

section Performing

variable (engine : Engine) (task : Nat) (entry : EngineTask) (resumed : Resumption)
  (tasks : List EngineTask)

/-- Carrying out acts on the key tracker under the task's identifier. -/
@[simp] theorem carryOut_tracker :
    (engine.carryOut task entry resumed tasks).keyTracker =
      resumed.operations.foldl (Operation.onTracker (entry.identifier.getD ""))
        engine.keyTracker :=
  (List.foldl_hom Engine.keyTracker fun _ _ => rfl).symm

/-- Carrying out acts on the held bindings. -/
@[simp] theorem carryOut_held :
    (engine.carryOut task entry resumed tasks).heldBindings =
      resumed.operations.foldl Operation.onHeld engine.heldBindings :=
  (List.foldl_hom Engine.heldBindings fun _ _ => rfl).symm

end Performing

end Engine

/-- What a resolved dispatch does to the key tracker. -/
def DispatchRequest.onTracker (request : DispatchRequest) (binding : HeldBinding)
    (tracker : KeyStateTracker) : KeyStateTracker :=
  match request.kind, request.repeated with
  -- A repeat only reads what is retained.
  | .keyDown, true => tracker
  | .keyDown, false => (KeyStateTracker.onKeyDown tracker binding.identifier binding.chord).2
  | .keyUp, _ => (KeyStateTracker.onKeyUp tracker binding.identifier).2

namespace Engine

/-- A resolved dispatch does this to the key tracker in its first stretch. -/
theorem dispatchResolved_tracker (engine : Engine) (request : DispatchRequest)
    (binding : HeldBinding) (tracker : KeyStateTracker) :
    (engine.dispatchResolved request binding).operations.foldl
        (Operation.onTracker binding.identifier) tracker =
      request.onTracker binding tracker := by
  obtain ⟨origin, kind, repeated⟩ := request
  cases kind with
  | keyDown => cases repeated <;> rfl
  | keyUp =>
    -- Whether or not there is a loop to wait for, the key is up.
    simp only [dispatchResolved]
    split <;> rfl

/-- A resolved dispatch leaves the held bindings alone. -/
theorem dispatchResolved_held (engine : Engine) (request : DispatchRequest)
    (binding : HeldBinding) (held : HashMap UInt32 HeldBinding) :
    (engine.dispatchResolved request binding).operations.foldl Operation.onHeld held = held := by
  obtain ⟨origin, kind, repeated⟩ := request
  cases kind with
  | keyDown => cases repeated <;> rfl
  | keyUp =>
    simp only [dispatchResolved]
    split <;> rfl

/-- A resolved dispatch acts under the identifier of its binding. -/
theorem dispatchResolved_reached (engine : Engine) (request : DispatchRequest)
    (binding : HeldBinding) :
    (engine.dispatchResolved request binding).reached = some binding.identifier := by
  obtain ⟨origin, kind, repeated⟩ := request
  cases kind with
  | keyDown => cases repeated <;> rfl
  | keyUp =>
    simp only [dispatchResolved]
    split <;> rfl

/-- The ways in which a step can treat the key tracker, the held bindings and the tasks. -/
inductive KeysStep (host : ProcessHost) (engine : Engine) (choice : EngineChoice) :
    Engine → Prop where
  /-- Nothing happens to keys, and at most a tick is started. -/
  | apart {next : Engine} : (∀ request, choice ≠ .call request) →
      (∀ task answer, choice ≠ .resume task answer) →
      next.keyTracker = engine.keyTracker → next.heldBindings = engine.heldBindings →
      next.entries = engine.entries →
      (∀ entry, entry ∈ next.tasks → entry ∈ engine.tasks ∨
        ∃ loop ident, entry = ⟨.tick loop, .ticking, some ident, none⟩) →
      (∀ (task : Nat) (entry : EngineTask), engine.tasks[task]? = some entry →
        next.tasks[task]? = some entry) →
      (∀ (task : Nat) (entry : EngineTask), next.tasks[task]? = some entry →
        entry.role.kind ≠ none → engine.tasks[task]? = some entry) →
      KeysStep host engine choice next
  /-- A dispatch is started. -/
  | called (request : DispatchRequest) : choice = .call request →
      KeysStep host engine choice (engine.spawn request)
  /-- A task moves on. -/
  | resumed (task : Nat) (answer : TaskAnswer) (entry : EngineTask) (resumed : Resumption) :
      choice = .resume task answer → engine.tasks[task]? = some entry →
      engine.resumeTask host entry answer = some resumed →
      KeysStep host engine choice (engine.advance task entry resumed)

/-- What only adds a tick keeps every dispatch where it is. -/
theorem tick_apart {tasks : List EngineTask} {loop : Nat} {ident : String} :
    (∀ entry, entry ∈ tasks ++ [⟨.tick loop, .ticking, some ident, none⟩] → entry ∈ tasks ∨
      ∃ loop ident, entry = (⟨.tick loop, .ticking, some ident, none⟩ : EngineTask)) ∧
    (∀ (task : Nat) (entry : EngineTask), tasks[task]? = some entry →
      (tasks ++ [⟨.tick loop, .ticking, some ident, none⟩])[task]? = some entry) ∧
    ∀ (task : Nat) (entry : EngineTask),
      (tasks ++ [⟨.tick loop, .ticking, some ident, none⟩])[task]? = some entry →
      entry.role.kind ≠ none → tasks[task]? = some entry := by
  -- The tick comes last among the tasks.
  refine ⟨?_, ?_, ?_⟩
  · intro entry member
    rcases List.mem_append.mp member with old | new
    · exact .inl old
    · exact .inr ⟨loop, ident, List.mem_singleton.mp new⟩
  · intro task entry found
    rw [List.getElem?_append_left (List.getElem?_eq_some_iff.mp found).1]
    exact found
  · intro task entry found dispatch
    rcases Nat.lt_or_ge task tasks.length with old | fresh
    · rw [List.getElem?_append_left old] at found
      exact found
    · rw [List.getElem?_append_right fresh] at found
      obtain ⟨_, same⟩ := List.getElem?_eq_some_iff.mp found
      rw [List.getElem_singleton] at same
      subst same
      exact absurd rfl dispatch

/-- Every step treats them in one of these ways. -/
theorem Steps.keys {host : ProcessHost} {engine next : Engine} {choice : EngineChoice}
    (stepped : engine.Steps host choice next) : engine.KeysStep host choice next := by
  -- One case for each choice.
  cases choice with
  | call request =>
    cases stepped
    exact .called request rfl
  | resume task answer =>
    obtain ⟨entry, resumed, found, went, same⟩ := step_resume stepped
    subst same
    exact .resumed task answer entry resumed rfl found went
  | tick loop =>
    obtain ⟨entry, _, _, same | same⟩ := tickLoop_cases stepped
    · subst same
      exact .apart (by simp) (by simp) rfl rfl rfl (fun _ => .inl) (fun _ _ => id)
        fun _ _ found _ => found
    · subst same
      obtain ⟨members, kept, old⟩ := @tick_apart engine.tasks loop entry.id
      exact .apart (by simp) (by simp) rfl rfl rfl members kept old
  | loopEnd loop =>
    obtain ⟨_, _, same⟩ := Option.map_eq_some_iff.mp stepped
    subst same
    exact .apart (by simp) (by simp) rfl rfl rfl (fun _ => .inl) (fun _ _ => id)
      fun _ _ found _ => found
  | processEnd run =>
    obtain ⟨_, _, same⟩ := Option.map_eq_some_iff.mp stepped
    subst same
    exact .apart (by simp) (by simp) rfl rfl rfl (fun _ => .inl) (fun _ _ => id)
      fun _ _ found _ => found
  | register bindings =>
    cases stepped
    exact .apart (by simp) (by simp) rfl rfl rfl (fun _ => .inl) (fun _ _ => id)
      fun _ _ found _ => found
  | stopRepeats =>
    cases stepped
    exact .apart (by simp) (by simp) rfl rfl rfl (fun _ => .inl) (fun _ _ => id)
      fun _ _ found _ => found
  | releaseRelays =>
    cases stepped
    exact .apart (by simp) (by simp) rfl rfl rfl (fun _ => .inl) (fun _ _ => id)
      fun _ _ found _ => found

end Engine

/-- What a resolved task goes on with is no part of a resolution. -/
theorem Engine.Continues.apart {engine : Engine} {entry : EngineTask} {resumed : Resumption}
    (continues : engine.Continues entry resumed) :
    ∀ operation ∈ resumed.operations, operation.resolves = false := by
  cases continues with
  | release loop notified => exact fun operation member =>
      (Operation.quiet_of_all (by cases notified <;> rfl) operation member).1
  | notified => simp
  | quiet notUp follows => exact fun operation member => (follows.quiet operation member).1
  | first effect queue held rest operations down stage apart => exact apart
  | loop => exact List.forall_mem_singleton.mpr rfl

/-- A task that awaits the binding manager is a dispatch. -/
theorem EngineTask.Sound.dispatches {entry : EngineTask} (sound : entry.Sound)
    (resolving : entry.stage = .resolving) : entry.role.kind ≠ none := by
  intro ticks
  have fits := sound.fits
  rw [resolving] at fits
  obtain ⟨role, stage, identifier, number⟩ := entry
  cases role with
  | dispatch request => cases ticks
  | tick loop => cases fits

/-- A task that awaits the binding manager is a dispatch, and moves on once it is there. -/
theorem Engine.resumeTask_resolving {engine : Engine} {host : ProcessHost} {entry : EngineTask}
    {answer : TaskAnswer} {resumed : Resumption} (sound : entry.Sound)
    (resolving : entry.stage = .resolving)
    (went : engine.resumeTask host entry answer = some resumed) :
    ∃ request, entry.role = .dispatch request ∧ answer = .granted ∧
      resumed = engine.resumeResolving request := by
  -- A tick never awaits the binding manager.
  obtain ⟨role, stage, identifier, number⟩ := entry
  cases resolving
  cases role with
  | tick loop => cases sound.fits
  | dispatch request =>
    cases answer <;> try cases went
    exact ⟨request, rfl, rfl, rfl⟩

/-- Noting which binding is held leaves the key tracker alone and tells nothing. -/
theorem Operation.notes_quiet {noted : List Operation}
    (notes : ∀ operation ∈ noted, operation.notes = true) (ident : String)
    (tracker : KeyStateTracker) :
    noted.foldl (onTracker ident) tracker = tracker ∧ noted.filterMap told = [] := by
  induction noted with
  | nil => exact ⟨rfl, rfl⟩
  | cons operation rest ih =>
    have first := notes operation (by simp)
    obtain ⟨kept, silent⟩ := ih fun later member => notes later (by simp [member])
    cases operation <;> first | exact ⟨kept, silent⟩ | cases first

/-- A dispatch that is neither awaiting the binding manager nor over has an identifier. -/
def EngineTask.Named (entry : EngineTask) : Prop :=
  entry.role.kind ≠ none → entry.stage ≠ .resolving → entry.stage ≠ .finished →
    entry.identifier ≠ none

/-- A task that reaches the key tracker gets its identifier there. -/
theorem EngineTask.Named.resolved (entry : EngineTask) (entries : Nat) {resumed : Resumption}
    (reached : resumed.reached.isSome) : (entry.moveTo entries resumed).Named := by
  obtain ⟨ident, same⟩ := Option.isSome_iff_exists.mp reached
  intro _ _ _
  simp [moveTo, same]

/-- Every step leaves the dispatches that are under way with their identifiers. -/
theorem Engine.Steps.named {host : ProcessHost} {engine next : Engine} {choice : EngineChoice}
    (stepped : engine.Steps host choice next) (sound : engine.Sound)
    (named : ∀ entry ∈ engine.tasks, entry.Named) : ∀ entry ∈ next.tasks, entry.Named := by
  -- A dispatch gets its name when it is resolved, and keeps it.
  intro entry member
  cases stepped.tasks with
  | same tasks =>
    rw [tasks] at member
    exact named entry member
  | spawned request =>
    simp only [spawn, carryOut_tasks] at member
    rcases List.mem_append.mp member with old | new
    · exact named entry old
    · rw [List.mem_singleton.mp new]
      -- A dispatch that waits for the binding manager has no name yet.
      rcases engine.beginDispatch_resolves request with waits | resolves
      · rw [waits]
        exact fun _ waiting => absurd rfl waiting
      · exact .resolved _ _ resolves.reached
  | ticked loop looped _ _ _ tasks =>
    rw [tasks] at member
    rcases List.mem_append.mp member with old | new
    · exact named entry old
    · rw [List.mem_singleton.mp new]
      exact fun dispatch => absurd rfl dispatch
  | advanced task answer moved resumed _ found went =>
    simp only [advance, carryOut_tasks] at member
    rcases List.mem_or_eq_of_mem_set member with old | new
    · exact named entry old
    · rw [new]
      have mine := List.mem_of_getElem? found
      by_cases resolving : moved.stage = .resolving
      · obtain ⟨request, _, _, same⟩ := resumeTask_resolving (sound moved mine) resolving went
        rw [same]
        obtain done | ⟨binding, noted, holding, resolved⟩ := engine.resumeResolving_cases request
        · rw [done]
          exact fun _ _ unfinished => absurd rfl unfinished
        · rw [resolved]
          exact .resolved _ _ ((engine.dispatchResolved_resolves _ _).after holding).reached
      · -- A task that goes on had its identifier before.
        have continues :=
          engine.resumeTask_continues (sound moved mine).fits resolving went
        intro dispatch _ _
        have before := named moved mine dispatch resolving (engine.resumeTask_finished went)
        simpa [EngineTask.moveTo, continues.keeps.1] using before

end Hotki

import Hotki.Base.Run
import Hotki.Engine.Gesture

/-! What every step of the engine's tasks keeps: the stages a task can be in and what it has
reached. -/

namespace Hotki

open Base

/-- The kind of key event a task dispatches, if it is a dispatch. -/
def TaskRole.kind : TaskRole → Option EventKind
  | .dispatch request => some request.kind
  | .tick _ => none

/-- Whether a task is a dispatch of a kind for an identifier. -/
def EngineTask.Serves (entry : EngineTask) (kind : EventKind) (ident : String) : Prop :=
  entry.role.kind = some kind ∧ entry.identifier = some ident

/-- Whether an operation belongs to a dispatch that has only just been resolved. -/
def Operation.resolves : Operation → Bool
  | .hold _ _ | .letGo _ | .onKeyDown _ | .onKeyUp => true
  | _ => false

/-- Whether an operation only notes which binding is held. -/
def Operation.notes : Operation → Bool
  | .hold _ _ | .letGo _ => true
  | _ => false

/-- Whether an operation makes a relay or a repeat loop outlast the step it is part of. -/
def Operation.begins : Operation → Bool
  | .applyRelay run _ _ => decide (run ≠ .oneShot)
  | .startLoop _ => true
  | _ => false

/-- Whether an operation neither belongs to a resolution nor begins anything. -/
def Operation.quiet (operation : Operation) : Bool := !operation.resolves && !operation.begins

/-- Operations that are all quiet on evaluation are so one by one. -/
theorem Operation.quiet_of_all {operations : List Operation}
    (quiet : operations.all Operation.quiet = true) :
    ∀ operation ∈ operations, operation.resolves = false ∧ operation.begins = false := by
  intro operation member
  have checked := List.all_eq_true.mp quiet operation member
  simpa [Operation.quiet] using checked

/-- What is done for an effect before the task goes on. -/
def EffectOutcome.operations : EffectOutcome → List Operation
  | .applied operations | .terminal operations | .failed operations => operations
  | .holding _ => []
  | .reloaded _ operations => operations

/-- Whether a task in a stage has run the stops of a key-up, provided it is one. -/
def TaskStage.isReleased : TaskStage → Bool
  | .notifying _ | .finished => true
  | _ => false

/-- Whether a task of a role can be in a stage. -/
def TaskStage.fits : TaskRole → TaskStage → Bool
  | .dispatch ⟨_, .keyUp, _⟩, .resolving | .dispatch ⟨_, .keyUp, _⟩, .releasing _ _ => true
  | .dispatch ⟨_, .keyUp, _⟩, stage => stage.isReleased
  | .dispatch ⟨_, .keyDown, _⟩, .releasing _ _ | .dispatch ⟨_, .keyDown, _⟩, .notifying _ => false
  | .dispatch ⟨_, .keyDown, _⟩, .ticking | .dispatch ⟨_, .keyDown, _⟩, .stopping _ => false
  | .dispatch ⟨_, .keyDown, _⟩, _ => true
  | .tick _, .ticking | .tick _, .applying _ | .tick _, .clearing _ _ => true
  | .tick _, .stopping _ | .tick _, .finished => true
  | .tick _, _ => false

namespace Engine

section Performing

variable (task : Nat) (ident : String) (operations : List Operation) (engine : Engine)

/-- Operations leave the tasks where they are and are not counted as dispatches. -/
theorem performed_frame :
    (operations.foldl (perform task ident) engine).tasks = engine.tasks ∧
      (operations.foldl (perform task ident) engine).entries = engine.entries := by
  induction operations generalizing engine with
  | nil => exact ⟨rfl, rfl⟩
  | cons operation rest ih => exact ih (perform task ident engine operation)

/-- Operations act on the relayer one after the other. -/
theorem performed_relay :
    (operations.foldl (perform task ident) engine).relay =
      operations.foldl (Operation.onRelay ident) engine.relay :=
  (List.foldl_hom Engine.relay fun _ _ => rfl).symm

/-- Operations act on the action repeat loops one after the other. -/
theorem performed_loops :
    (operations.foldl (perform task ident) engine).actionRepeater =
      operations.foldl (Operation.onLoops task ident) engine.actionRepeater :=
  (List.foldl_hom Engine.actionRepeater fun _ _ => rfl).symm

end Performing

variable (engine : Engine) (task : Nat) (entry : EngineTask) (resumed : Resumption)
  (tasks : List EngineTask)

/-- Carrying out a task's operations puts it among the others. -/
@[simp] theorem carryOut_tasks : (engine.carryOut task entry resumed tasks).tasks = tasks :=
  (performed_frame _ _ _ _).1

/-- Carrying out counts a dispatch that reaches the key tracker. -/
@[simp] theorem carryOut_entries :
    (engine.carryOut task entry resumed tasks).entries =
      if resumed.reached.isSome then engine.entries + 1 else engine.entries :=
  (performed_frame _ _ _ _).2

/-- Carrying out acts on the relayer under the task's identifier. -/
@[simp] theorem carryOut_relay :
    (engine.carryOut task entry resumed tasks).relay =
      resumed.operations.foldl (Operation.onRelay (entry.identifier.getD "")) engine.relay :=
  performed_relay _ _ _ _

/-- Carrying out acts on the loops under the task's identifier. -/
@[simp] theorem carryOut_loops :
    (engine.carryOut task entry resumed tasks).actionRepeater =
      resumed.operations.foldl (Operation.onLoops task (entry.identifier.getD ""))
        engine.actionRepeater :=
  performed_loops _ _ _ _

end Engine

/-- A dispatch that is resolved starts as its kind demands, after noting what it holds. -/
theorem Engine.beginDispatch_cases (engine : Engine) (request : DispatchRequest) :
    engine.beginDispatch request = { stage := .resolving } ∨
      ∃ binding noted, (∀ operation ∈ noted, operation.notes) ∧
        engine.beginDispatch request = (engine.dispatchResolved request binding).after noted := by
  -- The chord may be unbound, and a key-up notes what it lets go.
  unfold beginDispatch
  split
  · exact .inl rfl
  · rename_i binding _
    right
    split
    · rename_i id _ _
      exact ⟨binding, [.letGo id], List.forall_mem_singleton.mpr rfl, rfl⟩
    · exact ⟨binding, [], by simp, rfl⟩

/-- A resolved dispatch starts as its kind demands, and an unknown one is over. -/
theorem Engine.resumeResolving_cases (engine : Engine) (request : DispatchRequest) :
    engine.resumeResolving request = { stage := .finished } ∨
      ∃ binding noted, (∀ operation ∈ noted, operation.notes) ∧
        engine.resumeResolving request = (engine.dispatchResolved request binding).after noted := by
  -- A physical key is resolved by its id, and an injected one by its identifier.
  unfold resumeResolving
  split
  · rename_i id _
    split
    · exact .inl rfl
    · rename_i binding _
      right
      split
      · exact ⟨binding, [.hold id binding], List.forall_mem_singleton.mpr rfl, rfl⟩
      · exact ⟨binding, [], by simp, rfl⟩
  -- An injected key needs only the chord of its identifier.
  · rename_i ident _
    split
    · exact .inl rfl
    · rename_i chord _
      exact .inr ⟨⟨ident, chord⟩, [], by simp, rfl⟩

/-- What is known of a dispatch in the step in which it reaches the key tracker. -/
structure Resumption.Resolves (request : DispatchRequest) (resumed : Resumption) : Prop where
  reached : resumed.reached.isSome
  fits : resumed.stage.fits (.dispatch request)
  waits : resumed.stage ≠ .resolving
  begins : ∀ operation ∈ resumed.operations, operation.begins = false
  stops : request.kind = .keyUp → .stopLoop ∈ resumed.operations
  ends : request.kind = .keyUp → resumed.stage.isReleased → .endRelay ∈ resumed.operations

/-- A resolved dispatch reaches the key tracker, and a key-up runs its stops. -/
theorem Engine.dispatchResolved_resolves (engine : Engine) (request : DispatchRequest)
    (binding : HeldBinding) :
    (engine.dispatchResolved request binding).Resolves request := by
  obtain ⟨origin, kind, repeated⟩ := request
  unfold dispatchResolved
  split
  · rename_i down _
    simp only at down
    subst down
    exact ⟨rfl, rfl, by simp, by simp, by simp, by simp⟩
  · rename_i down _
    simp only at down
    subst down
    exact ⟨rfl, rfl, by simp, by simp [Operation.begins], by simp, by simp⟩
  · rename_i up
    simp only at up
    subst up
    -- A key-up either awaits the loop it stopped or releases the rest at once.
    dsimp only
    split
    · exact ⟨rfl, rfl, by simp, by simp [Operation.begins], by simp, by simp [TaskStage.isReleased]⟩
    · refine ⟨rfl, ?_, ?_, ?_, ?_, ?_⟩
      · simp only [releaseRest, Resumption.after]
        split <;> rfl
      · simp only [releaseRest, Resumption.after]
        split <;> simp
      · simp [releaseRest, Resumption.after, Operation.begins]
      · simp [releaseRest, Resumption.after]
      · simp [releaseRest, Resumption.after]

/-- Noting what is held beforehand changes none of it. -/
theorem Resumption.Resolves.after {request : DispatchRequest} {resumed : Resumption}
    (resolves : resumed.Resolves request) {noted : List Operation}
    (holding : ∀ operation ∈ noted, operation.notes) :
    (resumed.after noted).Resolves request where
  -- Holding and letting go clear nothing and begin nothing.
  reached := resolves.reached
  fits := resolves.fits
  waits := resolves.waits
  begins operation member := by
    rcases List.mem_append.mp member with early | late
    · have marked := holding operation early
      cases operation <;> first | rfl | cases marked
    · exact resolves.begins operation late
  stops up := List.mem_append_right _ (resolves.stops up)
  ends up released := List.mem_append_right _ (resolves.ends up released)

/-- What an effect does is quiet, but for the relay that a held action's first run begins. -/
theorem applyEffect_operations {host : ProcessHost} {run : EffectRun} {effect : Effect}
    {answer : TaskAnswer} {outcome : EffectOutcome}
    (applied : applyEffect host run effect answer = some outcome) :
    ∀ operation ∈ outcome.operations, operation.resolves = false ∧
      (operation.begins → run = .repeatedFirst ∧
        ∃ operations, outcome = .applied operations) := by
  -- Whatever is quiet is settled by evaluation.
  have quietly : ∀ found : EffectOutcome, found.operations.all Operation.quiet = true →
      ∀ operation ∈ found.operations, operation.resolves = false ∧
        (operation.begins → run = .repeatedFirst ∧
          ∃ operations, found = .applied operations) := by
    intro found quiet operation member
    obtain ⟨resolved, begun⟩ := Operation.quiet_of_all quiet operation member
    exact ⟨resolved, fun beginning => absurd begun (by simp [beginning])⟩
  unfold applyEffect at applied
  split at applied
  · split at applied <;> cases applied <;> exact quietly _ rfl
  · split at applied <;> cases applied
    exact quietly _ rfl
  · -- A relay effect does one thing at most.
    unfold applyRelay at applied
    split at applied <;> cases applied <;> first
      | exact quietly _ rfl
      | exact List.forall_mem_singleton.mpr ⟨rfl, fun _ => ⟨rfl, _, rfl⟩⟩
  · unfold applyAction at applied
    split at applied <;> cases applied <;> exact quietly _ rfl
  all_goals cases applied
  all_goals exact quietly _ rfl

/-- Only a one-shot queue invokes a held action. -/
theorem applyEffect_holding {host : ProcessHost} {run : EffectRun} {effect : Effect}
    {answer : TaskAnswer} {held : HeldAction}
    (applied : applyEffect host run effect answer = some (.holding held)) : run = .oneShot := by
  -- A held action is invoked by no other effect than its own.
  unfold applyEffect at applied
  split at applied
  · split at applied
    · assumption
    · cases applied
  · split at applied <;> cases applied
  · unfold applyRelay at applied
    split at applied <;> cases applied
  · unfold applyAction at applied
    split at applied <;> cases applied
  all_goals cases applied

/-- What is known of a task that goes on without beginning anything. -/
structure Resumption.Follows (role : TaskRole) (resumed : Resumption) : Prop where
  reached : resumed.reached = none
  fits : resumed.stage.fits role
  waits : resumed.stage ≠ .resolving
  quiet : ∀ operation ∈ resumed.operations, operation.resolves = false ∧ operation.begins = false

/-- Quiet operations may be put before such a continuation. -/
theorem Resumption.Follows.after {role : TaskRole} {resumed : Resumption}
    (follows : resumed.Follows role) {operations : List Operation}
    (quiet : ∀ operation ∈ operations, operation.resolves = false ∧ operation.begins = false) :
    (resumed.after operations).Follows role where
  reached := follows.reached
  fits := follows.fits
  waits := follows.waits
  quiet _ member := (List.mem_append.mp member).elim (quiet _) (follows.quiet _)

section Following

variable (engine : Engine) {role : TaskRole} (ident : String)

/-- A task whose queue is over goes on quietly. -/
theorem Engine.queueOver_follows (notUp : role.kind ≠ some .keyUp) (stop : Bool) :
    (engine.queueOver role ident stop).Follows role := by
  -- What comes after the queue depends on what started it, a key or a tick.
  cases role with
  | dispatch request =>
    obtain ⟨origin, kind, repeated⟩ := request
    cases kind with
    | keyUp => exact absurd rfl notUp
    | keyDown => exact ⟨rfl, rfl, by simp [queueOver], by simp [queueOver]⟩
  | tick loop =>
    simp only [queueOver]
    split
    · split
      · exact ⟨rfl, rfl, by simp, Operation.quiet_of_all rfl⟩
      · exact ⟨rfl, rfl, by simp, Operation.quiet_of_all rfl⟩
    · exact ⟨rfl, rfl, by simp, Operation.quiet_of_all rfl⟩

/-- A task whose queue failed goes on quietly. -/
theorem Engine.queueFailed_follows (notUp : role.kind ≠ some .keyUp) :
    (engine.queueFailed role ident).Follows role := by
  cases role with
  | dispatch request =>
    obtain ⟨origin, kind, repeated⟩ := request
    cases kind with
    | keyUp => exact absurd rfl notUp
    | keyDown => exact ⟨rfl, rfl, by simp [queueFailed], by simp [queueFailed]⟩
  | tick loop => exact engine.queueOver_follows ident notUp true

/-- A task that has cleared everything goes on quietly. -/
theorem Engine.afterClearing_follows (notUp : role.kind ≠ some .keyUp) (reloading : Bool) :
    (engine.afterClearing role ident reloading).Follows role := by
  unfold afterClearing
  split
  · exact engine.queueOver_follows ident notUp true
  · refine ⟨rfl, ?_, by simp, by simp⟩
    obtain ⟨origin, kind, repeated⟩ | loop := role
    · cases kind <;> rfl
    · rfl

/-- A task whose refresh changed bindings goes on quietly. -/
theorem Engine.bindingsChanged_follows (notUp : role.kind ≠ some .keyUp) (reloading : Bool) :
    (engine.bindingsChanged role ident reloading).Follows role := by
  -- Either no loop is to be awaited, or the task first waits for those it cancelled.
  unfold bindingsChanged
  split
  · apply (engine.afterClearing_follows ident notUp reloading).after
    exact Operation.quiet_of_all rfl
  · refine ⟨rfl, ?_, by simp, Operation.quiet_of_all rfl⟩
    obtain ⟨origin, kind, repeated⟩ | loop := role
    · cases kind with
      | keyUp => exact absurd rfl notUp
      | keyDown => rfl
    · rfl

end Following

/-- What is known of a task in any step after the one in which it was resolved. -/
structure EngineTask.Continues (entry : EngineTask) (resumed : Resumption) : Prop where
  reached : resumed.reached = none
  fits : resumed.stage.fits entry.role
  waits : resumed.stage ≠ .resolving
  resolves : ∀ operation ∈ resumed.operations, operation.resolves = false
  ends : entry.role.kind = some .keyUp → ¬ entry.stage.isReleased →
    .endRelay ∈ resumed.operations ∧ ∀ operation ∈ resumed.operations, operation.begins = false

/-- After an effect that begins nothing a task goes on quietly. -/
theorem Engine.afterEffect_follows (engine : Engine) {role : TaskRole} (ident : String)
    (notUp : role.kind ≠ some .keyUp) {next : TaskStage} {held : HeldAction → Option TaskStage}
    (nextFits : next.fits role ∧ next ≠ .resolving)
    {outcome : EffectOutcome}
    (heldFits : ∀ action stage, outcome = .holding action → held action = some stage →
      stage.fits role ∧ stage ≠ .resolving)
    (quiet : ∀ operation ∈ outcome.operations,
      operation.resolves = false ∧ operation.begins = false)
    {resumed : Resumption}
    (went : engine.afterEffect role ident next held outcome = some resumed) :
    resumed.Follows role := by
  cases outcome with
  | applied operations =>
    cases went
    exact ⟨rfl, nextFits.1, nextFits.2, quiet⟩
  | terminal operations =>
    cases went
    exact (engine.queueOver_follows ident notUp true).after quiet
  | failed operations =>
    cases went
    exact (engine.queueFailed_follows ident notUp).after quiet
  | holding action =>
    obtain ⟨stage, found, same⟩ := Option.map_eq_some_iff.mp went
    subst same
    obtain ⟨stageFits, waits⟩ := heldFits action stage rfl found
    exact ⟨rfl, stageFits, waits, by simp⟩
  | reloaded changed operations =>
    cases went
    split
    · exact (engine.bindingsChanged_follows ident notUp true).after quiet
    · exact (engine.queueOver_follows ident notUp true).after quiet

/-- The ways in which a resolved task goes on. -/
inductive Engine.Continues (engine : Engine) (entry : EngineTask) : Resumption → Prop where
  /-- A key-up whose loop has ended releases the rest. -/
  | release (loop : Nat) (notified : Option Chord) :
      entry.role.kind = some .keyUp → entry.stage = .releasing loop notified →
      engine.actionRepeater.hasEnded loop → Continues engine entry (releaseRest notified)
  /-- A key-up is over once the HUD was told. -/
  | notified (chord : Chord) :
      entry.role.kind = some .keyUp → entry.stage = .notifying chord →
      Continues engine entry { stage := .finished }
  /-- Another task goes on quietly. -/
  | quiet {resumed : Resumption} : entry.role.kind ≠ some .keyUp → resumed.Follows entry.role →
      Continues engine entry resumed
  /-- A held action's first run begins a relay. -/
  | first (effect : Effect) (queue : List Effect) (held : HeldAction) (rest : List Effect)
      (operations : List Operation) :
      entry.role.kind = some .keyDown → entry.stage = .applyingFirst (effect :: queue) held rest →
      (∀ operation ∈ operations, operation.resolves = false) →
      Continues engine entry { stage := .applyingFirst queue held rest, operations }
  /-- A held action's loop starts, its key being down. -/
  | loop (held : HeldAction) (rest : List Effect) :
      entry.role.kind = some .keyDown → entry.stage = .applyingFirst [] held rest →
      KeyStateTracker.isDown engine.keyTracker (entry.identifier.getD "") →
      Continues engine entry { stage := .applying rest, operations := [.startLoop held] }

section Resuming

variable (engine : Engine) {host : ProcessHost} {stage : TaskStage} {identifier : Option String}
  {number : Option Nat} {answer : TaskAnswer} {resumed : Resumption}

/-- A key-up goes on once its loop has ended, and is over once the HUD was told. -/
theorem Engine.resumeTask_up (request : DispatchRequest) (up : request.kind = .keyUp)
    (fits : stage.fits (.dispatch request)) (resolved : stage ≠ .resolving)
    (went : engine.resumeTask host ⟨.dispatch request, stage, identifier, number⟩ answer =
      some resumed) :
    engine.Continues ⟨.dispatch request, stage, identifier, number⟩ resumed := by
  obtain ⟨origin, kind, repeated⟩ := request
  cases up
  unfold resumeTask at went
  dsimp only at went
  split at went
  -- All other stages belong to other tasks.
  any_goals first | cases went; done | cases fits; done | exact absurd rfl resolved
  · rename_i loop notified
    split at went
    · rename_i done
      cases went
      exact .release loop notified rfl rfl done
    · cases went
  · cases went
    exact .notified _ rfl rfl
  · cases went
    exact .notified _ rfl rfl

/-- A tick goes on quietly to the end of its queue. -/
theorem Engine.resumeTask_tick (loop : Nat) (fits : stage.fits (.tick loop))
    (went : engine.resumeTask host ⟨.tick loop, stage, identifier, number⟩ answer =
      some resumed) :
    resumed.Follows (.tick loop) := by
  have notUp : (TaskRole.tick loop).kind ≠ some .keyUp := by simp [TaskRole.kind]
  -- One case for each stage a tick can stand at; the others do not fit its role.
  unfold resumeTask at went
  dsimp only at went
  split at went
  any_goals first | cases went; done | cases fits; done
  · cases went
    exact engine.queueOver_follows _ notUp false
  · -- An effect of a tick begins nothing.
    obtain ⟨outcome, applied, went⟩ := Option.bind_eq_some_iff.mp went
    apply engine.afterEffect_follows _ notUp ⟨rfl, by simp⟩ _ _ went
    · intro action stage same
      subst same
      cases applyEffect_holding applied
    · intro operation member
      obtain ⟨apart, first⟩ := applyEffect_operations applied operation member
      refine ⟨apart, ?_⟩
      cases begun : operation.begins with
      | false => rfl
      | true => cases (first begun).1
  · cases went
    exact ⟨rfl, rfl, by simp, by simp⟩
  · cases went
    exact engine.queueOver_follows _ notUp true
  · cases went
    exact engine.queueFailed_follows _ notUp
  -- A refresh that found changed bindings clears the loops, and begins none.
  · split at went
    · cases went
      apply (engine.afterClearing_follows _ notUp _).after
      exact Operation.quiet_of_all rfl
    · cases went
  · split at went
    · cases went
      exact ⟨rfl, rfl, by simp, by simp⟩
    · cases went

/-- A key-down goes on quietly, but for what a held action begins. -/
theorem Engine.resumeTask_down (request : DispatchRequest) (down : request.kind = .keyDown)
    (fits : stage.fits (.dispatch request)) (resolved : stage ≠ .resolving)
    (went : engine.resumeTask host ⟨.dispatch request, stage, identifier, number⟩ answer =
      some resumed) :
    engine.Continues ⟨.dispatch request, stage, identifier, number⟩ resumed := by
  obtain ⟨origin, kind, repeated⟩ := request
  cases down
  have notUp : (TaskRole.dispatch ⟨origin, .keyDown, repeated⟩).kind ≠ some .keyUp := by
    simp [TaskRole.kind]
  -- One case for each stage of a key-down; the others do not fit its role.
  unfold resumeTask at went
  dsimp only at went
  split at went
  any_goals first | cases went; done | cases fits; done | exact absurd rfl resolved
  · cases went
    exact .quiet notUp ⟨rfl, rfl, by simp, by simp⟩
  · cases went
    refine .quiet notUp ⟨rfl, rfl, by simp, ?_⟩
    simp only [handleRepeat]
    split
    · split <;> exact Operation.quiet_of_all rfl
    · exact Operation.quiet_of_all rfl
  · cases went
    refine .quiet notUp ⟨rfl, ?_, ?_, ?_⟩
    · simp only [handleKeyEvent]
      split <;> rfl
    · simp only [handleKeyEvent]
      split <;> simp
    · simp only [handleKeyEvent]
      split <;> exact Operation.quiet_of_all rfl
  · cases went
    exact .quiet notUp (engine.queueOver_follows _ notUp false)
  · -- An effect of a one-shot queue begins nothing, though it may invoke a held action.
    obtain ⟨outcome, applied, went⟩ := Option.bind_eq_some_iff.mp went
    refine .quiet notUp (engine.afterEffect_follows _ notUp ⟨rfl, by simp⟩ ?_ ?_ went)
    · intro action stage _ called
      cases called
      exact ⟨rfl, by simp⟩
    · intro operation member
      obtain ⟨apart, first⟩ := applyEffect_operations applied operation member
      refine ⟨apart, ?_⟩
      cases begun : operation.begins with
      | false => rfl
      | true => cases (first begun).1
  · cases went
    exact .quiet notUp ⟨rfl, rfl, by simp, by simp⟩
  · cases went
    exact .quiet notUp (engine.queueOver_follows _ notUp true)
  · cases went
    exact .quiet notUp (engine.queueFailed_follows _ notUp)
  · cases went
    split
    · rename_i isDown
      -- The loop starts only while the key is still down.
      exact .loop _ _ rfl rfl isDown
    · exact .quiet notUp ⟨rfl, rfl, by simp, by simp⟩
  · -- An effect of a first run either begins a relay or is as quiet as any other.
    obtain ⟨outcome, applied, went⟩ := Option.bind_eq_some_iff.mp went
    have performed := applyEffect_operations applied
    by_cases begun : ∃ operations, outcome = .applied operations
    · obtain ⟨operations, same⟩ := begun
      subst same
      cases went
      exact .first _ _ _ _ _ rfl rfl fun operation member => (performed operation member).1
    · refine .quiet notUp (engine.afterEffect_follows _ notUp ⟨rfl, by simp⟩ ?_ ?_ went)
      · intro action stage _ called
        cases called
      · intro operation member
        obtain ⟨apart, first⟩ := performed operation member
        refine ⟨apart, ?_⟩
        cases beginning : operation.begins with
        | false => rfl
        | true => exact absurd (first beginning).2 begun
  · cases went
    exact .quiet notUp (engine.bindingsChanged_follows _ notUp false)
  · cases went
    exact .quiet notUp ⟨rfl, rfl, by simp, by simp⟩
  · cases went
    exact .quiet notUp ⟨rfl, rfl, by simp, by simp⟩
  · split at went
    · cases went
      refine .quiet notUp ((engine.afterClearing_follows _ notUp _).after ?_)
      exact Operation.quiet_of_all rfl
    · cases went

/-- A resolved task goes on in one of the ways there are. -/
theorem Engine.resumeTask_continues {entry : EngineTask} (fits : entry.stage.fits entry.role)
    (resolved : entry.stage ≠ .resolving)
    (went : engine.resumeTask host entry answer = some resumed) :
    engine.Continues entry resumed := by
  obtain ⟨role, stage, identifier, number⟩ := entry
  cases role with
  | tick loop => exact .quiet (by simp [TaskRole.kind]) (engine.resumeTask_tick loop fits went)
  | dispatch request =>
    cases kind : request.kind with
    | keyUp => exact engine.resumeTask_up request kind fits resolved went
    | keyDown => exact engine.resumeTask_down request kind fits resolved went

end Resuming

/-- What holds of every task: a stage that suits it, no identifier before it is resolved, and a
number exactly if it is a dispatch with an identifier. -/
structure EngineTask.Sound (entry : EngineTask) : Prop where
  fits : entry.stage.fits entry.role
  unresolved : entry.stage = .resolving → entry.identifier = none
  numbered : entry.entry ≠ none → entry.identifier ≠ none
  counted : entry.role.kind ≠ none → entry.identifier ≠ none → entry.entry ≠ none

/-- A key-up that was released can still be so. -/
theorem TaskStage.fits_of_released {role : TaskRole} (up : role.kind = some .keyUp)
    {stage : TaskStage} (released : stage.isReleased) : stage.fits role := by
  cases role with
  | tick loop => cases up
  | dispatch request =>
    obtain ⟨origin, kind, repeated⟩ := request
    cases up
    cases stage <;> first | rfl | cases released

/-- A key-down can be applying effects of either queue. -/
theorem TaskStage.fits_of_applying {role : TaskRole} (down : role.kind = some .keyDown)
    (queue rest : List Effect) (held : HeldAction) :
    (TaskStage.applying queue).fits role ∧ (TaskStage.applyingFirst queue held rest).fits role := by
  cases role with
  | tick loop => cases down
  | dispatch request =>
    obtain ⟨origin, kind, repeated⟩ := request
    cases down
    exact ⟨rfl, rfl⟩

/-- Once its loop has ended a key-up counts as released. -/
theorem Engine.releaseRest_released (notified : Option Chord) :
    (releaseRest notified).stage.isReleased := by
  cases notified <;> rfl

/-- Going on reaches nothing more and leads to another stage that suits the task. -/
theorem Engine.Continues.keeps {engine : Engine} {entry : EngineTask} {resumed : Resumption}
    (continues : engine.Continues entry resumed) :
    resumed.reached = none ∧ resumed.stage.fits entry.role ∧ resumed.stage ≠ .resolving := by
  cases continues with
  | release loop notified up =>
    have released := releaseRest_released notified
    refine ⟨rfl, TaskStage.fits_of_released up released, ?_⟩
    intro same
    rw [same] at released
    cases released
  | notified chord up => exact ⟨rfl, TaskStage.fits_of_released up rfl, by simp⟩
  | quiet notUp follows => exact ⟨follows.reached, follows.fits, follows.waits⟩
  | first effect queue held rest operations down =>
    exact ⟨rfl, (TaskStage.fits_of_applying down queue rest held).2, by simp⟩
  | loop held rest down => exact ⟨rfl, (TaskStage.fits_of_applying down rest rest held).1, by simp⟩

/-- The ways in which the step of a task can go: just resolved, unknown, or resolved before. -/
theorem Engine.resumeTask_cases (engine : Engine) {host : ProcessHost} {entry : EngineTask}
    {answer : TaskAnswer} {resumed : Resumption} (sound : entry.Sound)
    (went : engine.resumeTask host entry answer = some resumed) :
    (∃ request, entry.role = .dispatch request ∧ entry.identifier = none ∧
      resumed.Resolves request) ∨
    (entry.identifier = none ∧ resumed = { stage := .finished }) ∨
    engine.Continues entry resumed := by
  -- A task without a binding is either resolved in this step or over.
  by_cases resolving : entry.stage = .resolving
  · have unknown := sound.unresolved resolving
    obtain ⟨role, stage, identifier, number⟩ := entry
    cases resolving
    cases role with
    | tick loop => cases sound.fits
    | dispatch request =>
      cases answer <;> try cases went
      obtain done | ⟨binding, noted, holding, same⟩ := engine.resumeResolving_cases request
      · exact .inr (.inl ⟨unknown, done⟩)
      · left
        rw [same]
        exact ⟨request, rfl, unknown, (engine.dispatchResolved_resolves _ _).after holding⟩
  · exact .inr (.inr (engine.resumeTask_continues sound.fits resolving went))

/-- A started dispatch awaits the binding manager or is resolved at once. -/
theorem Engine.beginDispatch_resolves (engine : Engine) (request : DispatchRequest) :
    engine.beginDispatch request = { stage := .resolving } ∨
      (engine.beginDispatch request).Resolves request := by
  obtain waits | ⟨binding, noted, holding, same⟩ := engine.beginDispatch_cases request
  · exact .inl waits
  · right
    rw [same]
    exact (engine.dispatchResolved_resolves _ _).after holding

/-- A task that has an identifier keeps it. -/
theorem Engine.resumeTask_reached (engine : Engine) {host : ProcessHost} {entry : EngineTask}
    {answer : TaskAnswer} {resumed : Resumption} (sound : entry.Sound)
    (went : engine.resumeTask host entry answer = some resumed)
    (known : entry.identifier ≠ none) : resumed.reached = none := by
  rcases engine.resumeTask_cases sound went with ⟨_, _, unknown, _⟩ | ⟨unknown, _⟩ | continues
  · exact absurd unknown known
  · exact absurd unknown known
  · exact continues.keeps.1

/-- A step of a task moves it on with what it finds. -/
theorem Engine.step_resume {host : ProcessHost} {engine next : Engine} {task : Nat}
    {answer : TaskAnswer} (stepped : engine.step host (.resume task answer) = some next) :
    ∃ entry resumed, engine.tasks[task]? = some entry ∧
      engine.resumeTask host entry answer = some resumed ∧
      next = engine.advance task entry resumed := by
  obtain ⟨entry, found, rest⟩ := Option.bind_eq_some_iff.mp stepped
  obtain ⟨resumed, went, same⟩ := Option.bind_eq_some_iff.mp rest
  exact ⟨entry, resumed, found, went, (Option.some.inj same).symm⟩

/-- A tick of a loop spawns a task unless one is still running. -/
theorem Engine.tickLoop_cases {engine next : Engine} {loop : Nat}
    (ticked : engine.tickLoop loop = some next) :
    ∃ entry, engine.actionRepeater.tasks[loop]? = some entry ∧ entry.ended = false ∧
      (next = engine ∨
        next = { engine with
          actionRepeater := engine.actionRepeater.update loop fun entry =>
            { entry with callback := { entry.callback with running := true } }
          tasks := engine.tasks ++ [⟨.tick loop, .ticking, some entry.id, none⟩] }) := by
  -- The loop is live, and its last task may not have ended.
  obtain ⟨entry, found, rest⟩ := Option.bind_eq_some_iff.mp ticked
  refine ⟨entry, found, ?_⟩
  split at rest
  · cases rest
  · rename_i live
    refine ⟨by simpa using live, ?_⟩
    split at rest
    · exact .inl (Option.some.inj rest).symm
    · exact .inr (Option.some.inj rest).symm

/-- Every task of an engine is sound. -/
def Engine.Sound (engine : Engine) : Prop := ∀ entry ∈ engine.tasks, entry.Sound

/-- A task that keeps what it has reached is as sound as its new stage. -/
theorem EngineTask.Sound.kept {entry : EngineTask} (sound : entry.Sound) (entries : Nat)
    {resumed : Resumption} (reached : resumed.reached = none)
    (fits : resumed.stage.fits entry.role) (waits : resumed.stage ≠ .resolving) :
    (entry.moveTo entries resumed).Sound where
  fits := fits
  unresolved resolving := absurd resolving waits
  numbered := by simpa [EngineTask.moveTo, reached] using sound.numbered
  counted := by simpa [EngineTask.moveTo, reached] using sound.counted

/-- A dispatch that is resolved is sound. -/
theorem EngineTask.Sound.resolved {entry : EngineTask} {request : DispatchRequest}
    (role : entry.role = .dispatch request) (entries : Nat) {resumed : Resumption}
    (resolves : resumed.Resolves request) : (entry.moveTo entries resumed).Sound := by
  obtain ⟨ident, reached⟩ := Option.isSome_iff_exists.mp resolves.reached
  refine ⟨?_, fun resolving => absurd resolving resolves.waits, ?_, ?_⟩
  · simp only [EngineTask.moveTo, role]
    exact resolves.fits
  · simp [EngineTask.moveTo, reached]
  · simp [EngineTask.moveTo, reached]

/-- A task is sound after each of its steps. -/
theorem EngineTask.Sound.advance {engine : Engine} {host : ProcessHost} {entry : EngineTask}
    {answer : TaskAnswer} {resumed : Resumption} (sound : entry.Sound)
    (went : engine.resumeTask host entry answer = some resumed) :
    (entry.moveTo engine.entries resumed).Sound := by
  -- A task that is resolved becomes sound, and one that goes on stays so.
  rcases engine.resumeTask_cases sound went with
    ⟨request, role, _, resolves⟩ | ⟨_, done⟩ | continues
  · exact .resolved role _ resolves
  · subst done
    refine sound.kept _ rfl ?_ (by simp)
    obtain ⟨⟨origin, kind, repeated⟩ | loop, _⟩ := entry
    · cases kind <;> rfl
    · rfl
  · obtain ⟨reached, fits, waits⟩ := continues.keeps
    exact sound.kept _ reached fits waits

/-- The ways in which a step can treat the tasks. -/
inductive Engine.TasksStep (host : ProcessHost) (engine : Engine) (choice : EngineChoice) :
    Engine → Prop where
  /-- The tasks and their count stay. -/
  | same {next : Engine} : next.tasks = engine.tasks → next.entries = engine.entries →
      TasksStep host engine choice next
  /-- A dispatch is started. -/
  | spawned (request : DispatchRequest) : choice = .call request →
      TasksStep host engine choice (engine.spawn request)
  /-- A tick is started. -/
  | ticked {next : Engine} (loop : Nat) (entry : TickerTask ActionLoop) : choice = .tick loop →
      engine.actionRepeater.tasks[loop]? = some entry → entry.ended = false →
      next.tasks = engine.tasks ++ [⟨.tick loop, .ticking, some entry.id, none⟩] →
      next.entries = engine.entries → TasksStep host engine choice next
  /-- A task moves on. -/
  | advanced (task : Nat) (answer : TaskAnswer) (entry : EngineTask) (resumed : Resumption) :
      choice = .resume task answer → engine.tasks[task]? = some entry →
      engine.resumeTask host entry answer = some resumed →
      TasksStep host engine choice (engine.advance task entry resumed)

/-- Every step treats the tasks in one of these ways. -/
theorem Engine.Steps.tasks {host : ProcessHost} {engine next : Engine} {choice : EngineChoice}
    (stepped : engine.Steps host choice next) : engine.TasksStep host choice next := by
  -- One case for each choice; only calls and ticks add a task, and only a resumption moves one.
  cases choice with
  | call request =>
    cases stepped
    exact .spawned request rfl
  | resume task answer =>
    obtain ⟨entry, resumed, found, went, same⟩ := step_resume stepped
    subst same
    exact .advanced task answer entry resumed rfl found went
  | tick loop =>
    obtain ⟨entry, found, live, same | same⟩ := tickLoop_cases stepped
    · subst same
      exact .same rfl rfl
    · subst same
      exact .ticked loop entry rfl found live rfl rfl
  | loopEnd loop =>
    obtain ⟨_, _, same⟩ := Option.map_eq_some_iff.mp stepped
    subst same
    exact .same rfl rfl
  | processEnd run =>
    obtain ⟨_, _, same⟩ := Option.map_eq_some_iff.mp stepped
    subst same
    exact .same rfl rfl
  | register bindings =>
    cases stepped
    exact .same rfl rfl
  | stopRepeats =>
    cases stepped
    exact .same rfl rfl
  | releaseRelays =>
    cases stepped
    exact .same rfl rfl

/-- Every step leaves every task sound. -/
theorem Engine.Steps.sound {host : ProcessHost} {engine next : Engine} {choice : EngineChoice}
    (stepped : engine.Steps host choice next) (sound : engine.Sound) : next.Sound := by
  -- Old tasks are as they were, and a new one is sound as it starts.
  intro entry member
  cases stepped.tasks with
  | same tasks =>
    rw [tasks] at member
    exact sound entry member
  | spawned request =>
    simp only [spawn, carryOut_tasks, List.mem_append, List.mem_singleton] at member
    rcases member with old | rfl
    · exact sound entry old
    · rcases engine.beginDispatch_resolves request with waits | resolves
      · rw [waits]
        refine ⟨?_, fun _ => rfl, fun numbered => absurd rfl numbered,
          fun _ known => absurd rfl known⟩
        obtain ⟨origin, kind, repeated⟩ := request
        cases kind <;> rfl
      · exact .resolved rfl _ resolves
  | ticked loop looped _ _ _ tasks =>
    rw [tasks] at member
    rcases List.mem_append.mp member with old | new
    · exact sound entry old
    · cases List.mem_singleton.mp new
      exact ⟨rfl, by simp, fun _ => by simp, fun kind => absurd rfl kind⟩
  | advanced task answer moved resumed _ found went =>
    simp only [advance, carryOut_tasks] at member
    rcases List.mem_or_eq_of_mem_set member with old | rfl
    · exact sound entry old
    · exact (sound moved (List.mem_of_getElem? found)).advance went

/-- A task at a later time: for the same, keeping what it has reached, and finished for good. -/
structure TaskKept (before after : EngineTask) : Prop where
  role : after.role = before.role
  identifier : before.identifier ≠ none → after.identifier = before.identifier
  entry : before.entry ≠ none → after.entry = before.entry
  finished : before.stage = .finished → after.stage = .finished

/-- A task that nothing happens to is kept. -/
theorem TaskKept.refl (entry : EngineTask) : TaskKept entry entry :=
  ⟨rfl, fun _ => rfl, fun _ => rfl, id⟩

/-- A finished task does not move. -/
theorem Engine.resumeTask_finished (engine : Engine) {host : ProcessHost} {entry : EngineTask}
    {answer : TaskAnswer} {resumed : Resumption}
    (went : engine.resumeTask host entry answer = some resumed) : entry.stage ≠ .finished := by
  intro finished
  unfold resumeTask at went
  rw [finished] at went
  cases went

/-- A task that moves is kept. -/
theorem TaskKept.advance {engine : Engine} {host : ProcessHost} {entry : EngineTask}
    {answer : TaskAnswer} {resumed : Resumption} (sound : entry.Sound)
    (went : engine.resumeTask host entry answer = some resumed) :
    TaskKept entry (entry.moveTo engine.entries resumed) where
  role := rfl
  identifier known := by
    simp [EngineTask.moveTo, engine.resumeTask_reached sound went known]
  entry numbered := by
    simp [EngineTask.moveTo, engine.resumeTask_reached sound went (sound.numbered numbered)]
  finished done := absurd done (engine.resumeTask_finished went)

/-- Every task stays where it is, and is kept. -/
theorem Engine.Steps.task_kept {host : ProcessHost} {engine next : Engine} {choice : EngineChoice}
    (stepped : engine.Steps host choice next) (sound : engine.Sound) {task : Nat}
    {before : EngineTask} (found : engine.tasks[task]? = some before) :
    ∃ after, next.tasks[task]? = some after ∧ TaskKept before after := by
  -- Positions never change: new tasks come last, and a move keeps the task at its place.
  have within := (List.getElem?_eq_some_iff.mp found).1
  cases stepped.tasks with
  | same tasks => exact ⟨before, by rw [tasks, found], .refl before⟩
  | spawned request =>
    refine ⟨before, ?_, .refl before⟩
    simp only [spawn, carryOut_tasks]
    rw [List.getElem?_append_left within, found]
  | ticked loop entry _ _ _ tasks =>
    refine ⟨before, ?_, .refl before⟩
    rw [tasks, List.getElem?_append_left within, found]
  | advanced moved answer entry resumed _ foundMoved went =>
    simp only [advance, carryOut_tasks]
    by_cases same : task = moved
    · subst same
      cases found.symm.trans foundMoved
      refine ⟨before.moveTo engine.entries resumed, List.getElem?_set_self within, ?_⟩
      exact .advance (sound before (List.mem_of_getElem? found)) went
    · exact ⟨before, by rw [List.getElem?_set_ne (Ne.symm same), found], .refl before⟩

/-- A task with a number had it before, or is the one that reaches the key tracker in the step. -/
theorem Engine.Steps.numbered {host : ProcessHost} {engine next : Engine} {choice : EngineChoice}
    (stepped : engine.Steps host choice next) (sound : engine.Sound) {task number : Nat}
    {after : EngineTask} (found : next.tasks[task]? = some after)
    (numbered : after.entry = some number) :
    (number = engine.entries ∧ next.entries = engine.entries + 1 ∧
      ∀ before, engine.tasks[task]? = some before → before.stage ≠ .finished) ∨
      ∃ before, engine.tasks[task]? = some before ∧ before.entry = some number ∧
        before.identifier = after.identifier ∧ TaskKept before after := by
  -- Numbers are given in one place, when a dispatch reaches the key tracker.
  cases stepped.tasks with
  | same tasks =>
    rw [tasks] at found
    exact .inr ⟨after, found, numbered, rfl, .refl after⟩
  | spawned request =>
    simp only [spawn, carryOut_tasks, carryOut_entries] at found ⊢
    rcases Nat.lt_or_ge task engine.tasks.length with old | fresh
    · rw [List.getElem?_append_left old] at found
      exact .inr ⟨after, found, numbered, rfl, .refl after⟩
    · rw [List.getElem?_append_right fresh] at found
      obtain ⟨_, same⟩ := List.getElem?_eq_some_iff.mp found
      rw [List.getElem_singleton] at same
      subst same
      simp only [EngineTask.moveTo, Option.or_none, Option.map_eq_some_iff] at numbered
      -- A dispatch that is resolved at once gets its number where it is started.
      obtain ⟨ident, reached, same⟩ := numbered
      refine .inl ⟨same.symm, by simp [reached], fun before foundBefore => ?_⟩
      rw [List.getElem?_eq_none fresh] at foundBefore
      cases foundBefore
  | ticked loop looped _ _ _ tasks =>
    rw [tasks] at found
    rcases Nat.lt_or_ge task engine.tasks.length with old | fresh
    · rw [List.getElem?_append_left old] at found
      exact .inr ⟨after, found, numbered, rfl, .refl after⟩
    · rw [List.getElem?_append_right fresh] at found
      obtain ⟨_, same⟩ := List.getElem?_eq_some_iff.mp found
      rw [List.getElem_singleton] at same
      subst same
      cases numbered
  | advanced moved answer entry resumed _ foundMoved went =>
    simp only [advance, carryOut_tasks, carryOut_entries] at found ⊢
    by_cases same : task = moved
    · subst same
      rw [List.getElem?_set_self (List.getElem?_eq_some_iff.mp foundMoved).1] at found
      cases found
      -- Otherwise it gets the number in the step that resolves it.
      cases reached : resumed.reached with
      | some ident =>
        simp only [EngineTask.moveTo, reached, Option.map_some, Option.some_or,
          Option.some.injEq] at numbered
        refine .inl ⟨numbered.symm, rfl, fun before foundBefore => ?_⟩
        cases foundMoved.symm.trans foundBefore
        exact engine.resumeTask_finished went
      | none =>
        refine .inr ⟨entry, foundMoved, ?_, ?_,
          .advance (sound entry (List.mem_of_getElem? foundMoved)) went⟩
        · simpa [EngineTask.moveTo, reached] using numbered
        · simp [EngineTask.moveTo, reached]
    · rw [List.getElem?_set_ne (Ne.symm same)] at found
      exact .inr ⟨after, found, numbered, rfl, .refl after⟩

/-- Dispatches are only ever added to the count. -/
theorem Engine.Steps.entries_le {host : ProcessHost} {engine next : Engine}
    {choice : EngineChoice} (stepped : engine.Steps host choice next) :
    engine.entries ≤ next.entries := by
  -- The count rises with a number given, and never falls.
  cases stepped.tasks with
  | same _ entries => exact entries.ge
  | spawned request =>
    simp only [spawn, carryOut_entries]
    split <;> omega
  | ticked _ _ _ _ _ _ entries => exact entries.ge
  | advanced =>
    simp only [advance, carryOut_entries]
    split <;> omega

/-- A tick was there before, or is started by a loop that has not ended. -/
theorem Engine.Steps.ticks {host : ProcessHost} {engine next : Engine} {choice : EngineChoice}
    (stepped : engine.Steps host choice next) (sound : engine.Sound) {task index : Nat}
    {after : EngineTask} (found : next.tasks[task]? = some after)
    (role : after.role = .tick index) :
    (∃ before, engine.tasks[task]? = some before ∧ TaskKept before after) ∨
      ∃ loop, engine.actionRepeater.tasks[index]? = some loop ∧ loop.ended = false := by
  -- A task's role never changes, so a tick is an old one or the one just spawned.
  cases stepped.tasks with
  | same tasks =>
    rw [tasks] at found
    exact .inl ⟨after, found, .refl after⟩
  | spawned request =>
    simp only [spawn, carryOut_tasks] at found
    rcases Nat.lt_or_ge task engine.tasks.length with old | fresh
    · rw [List.getElem?_append_left old] at found
      exact .inl ⟨after, found, .refl after⟩
    · rw [List.getElem?_append_right fresh] at found
      obtain ⟨_, same⟩ := List.getElem?_eq_some_iff.mp found
      rw [List.getElem_singleton] at same
      subst same
      cases role
  | ticked loop looped _ foundLoop live tasks =>
    rw [tasks] at found
    rcases Nat.lt_or_ge task engine.tasks.length with old | fresh
    · rw [List.getElem?_append_left old] at found
      exact .inl ⟨after, found, .refl after⟩
    · rw [List.getElem?_append_right fresh] at found
      obtain ⟨_, same⟩ := List.getElem?_eq_some_iff.mp found
      rw [List.getElem_singleton] at same
      subst same
      cases role
      exact .inr ⟨looped, foundLoop, live⟩
  | advanced moved answer entry resumed _ foundMoved went =>
    simp only [advance, carryOut_tasks] at found
    by_cases same : task = moved
    · subst same
      rw [List.getElem?_set_self (List.getElem?_eq_some_iff.mp foundMoved).1] at found
      cases found
      exact .inl ⟨entry, foundMoved,
        .advance (sound entry (List.mem_of_getElem? foundMoved)) went⟩
    · rw [List.getElem?_set_ne (Ne.symm same)] at found
      exact .inl ⟨after, found, .refl after⟩

end Hotki

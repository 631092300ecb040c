import Hotki.Proofs.Engine.RelayTarget

/-! The processes of an effect queue: when all of them are started, and when one of them cancels
another. -/

namespace Hotki

open Base

/-- The process an effect of a queue starts, if it starts one. -/
def Effect.process (host : ProcessHost) : Effect → Option ProcessSpec
  | .exec action => action.process host
  | _ => none

/-- Whether an effect that finds an answer is the last one applied: it is terminal, or fails. -/
def Effect.isLast (run : EffectRun) (answer : TaskAnswer) : Effect → Bool
  | .untilKeyUp _ _ => decide (run ≠ .oneShot)
  | .exec (.relay spec) =>
    (Chord.parse spec.chord).isNone || answer = .destination none || answer = .failed
  | .exec .reloadConfig => true
  | _ => decide (answer = .failed)

namespace TaskStage

/-- What is left of the queue of a dispatch, the effect it is at included. -/
def remaining : TaskStage → List Effect
  | .applying queue => queue
  | .calling _ rest | .applyingFirst _ _ rest => rest
  | _ => []

/-- Whether a dispatch is still at its queue. -/
def isQueued : TaskStage → Bool
  | .applying _ | .calling _ _ | .applyingFirst _ _ _ => true
  | _ => false

/-- Whether a dispatch has yet to come to a queue. -/
def isEarly : TaskStage → Bool
  | .resolving | .checkingSelector _ | .handling _ _ => true
  | _ => false

/-- The process that the effect at hand starts, be it of the queue or of a held action. -/
def starting (host : ProcessHost) : TaskStage → Option ProcessSpec
  | .applying (effect :: _) | .applyingFirst (effect :: _) _ _ => effect.process host
  | _ => none

/-- The effects that a dispatch will never apply because of what it finds. -/
def skipped (answer : TaskAnswer) : TaskStage → List Effect
  | .applying (effect :: rest) => if effect.isLast .oneShot answer then rest else []
  | .calling _ rest => if answer = .script none ∨ answer = .failed then rest else []
  | .applyingFirst (effect :: _) _ rest =>
    if effect.isLast .repeatedFirst answer then rest else []
  | _ => []

end TaskStage

namespace Operation

/-- Whether an operation starts a process. -/
def startsProcess : Operation → Bool
  | .startProcess _ _ => true
  | _ => false

/-- The process that an operation starts for an effect of a queue itself. -/
def queuedProcess : Operation → Option ProcessSpec
  | .startProcess .oneShot process => some process
  | _ => none

/-- Operations that start no process start none for a queue. -/
theorem queuedProcess_of_none {operations : List Operation}
    (none : ∀ operation ∈ operations, operation.startsProcess = false) :
    operations.filterMap queuedProcess = [] := by
  rw [List.filterMap_eq_nil_iff]
  intro operation member
  have starts := none operation member
  cases operation <;> first | rfl | cases starts

end Operation

namespace Repeater

variable {repeater : Repeater}

/-- Aborting cancels the run registered under its id and leaves the others. -/
theorem abortRun_runs (repeater : Repeater) (id : String) (run : Nat) :
    (repeater.abortRun id).runs[run]? = repeater.runs[run]?.map fun state =>
      if repeater.processStates.lookup id = some run then { state with cancelled := true }
      else state := by
  unfold abortRun
  split
  · rename_i aborted found
    simp [update, List.getElem?_modify, found]
  · rename_i absent
    simp [absent]

/-- Aborting changes no process. -/
theorem abortRun_processes (repeater : Repeater) (id : String) :
    (repeater.abortRun id).runs.map ProcessRunState.process =
      repeater.runs.map ProcessRunState.process := by
  apply List.ext_getElem?
  intro run
  rw [List.getElem?_map, List.getElem?_map, abortRun_runs, Option.map_map]
  congr 1
  funext state
  rw [Function.comp_apply]
  split <;> rfl

/-- Aborting leaves as many runs. -/
theorem abortRun_length (repeater : Repeater) (id : String) :
    (repeater.abortRun id).runs.length = repeater.runs.length := by
  have lengths := congrArg List.length (abortRun_processes repeater id)
  rwa [List.length_map, List.length_map] at lengths

/-- A start adds its process to the runs. -/
theorem start_processes (repeater : Repeater) (id : String) (process : ProcessSpec)
    (repeats : Bool) : (repeater.start id process repeats).runs.map ProcessRunState.process =
      repeater.runs.map ProcessRunState.process ++ [process] := by
  unfold start
  dsimp only
  rw [List.map_append, abortRun_processes]
  rfl

/-- A start cancels the run registered under its id and leaves the others. -/
theorem start_runs (repeater : Repeater) (id : String) (process : ProcessSpec) (repeats : Bool)
    {run : Nat} (within : run < repeater.runs.length) :
    (repeater.start id process repeats).runs[run]? = repeater.runs[run]?.map fun state =>
      if repeater.processStates.lookup id = some run then { state with cancelled := true }
      else state := by
  unfold start
  dsimp only
  rw [List.getElem?_append_left (by rwa [abortRun_length]), abortRun_runs]

/-- A start registers its run under its id and leaves what is registered under others. -/
theorem start_registered (repeater : Repeater) (id other : String) (process : ProcessSpec)
    (repeats : Bool) : (repeater.start id process repeats).processStates.lookup other =
      if other = id then some repeater.runs.length else repeater.processStates.lookup other := by
  unfold start
  dsimp only
  rw [HashMap.lookup_insert_ite, abortRun_length]
  split
  · rfl
  · -- Only what was registered under the same id is erased.
    rename_i differs
    unfold abortRun
    split
    · exact (HashMap.lookup_erase_ite _ _ _).trans (if_neg differs)
    · rfl

/-- The new run of a start is not cancelled. -/
theorem start_fresh (repeater : Repeater) (id : String) (process : ProcessSpec) (repeats : Bool) :
    (repeater.start id process repeats).runs[repeater.runs.length]? =
      some { id, process, cancelOnRelease := repeats } := by
  unfold start
  dsimp only
  rw [List.getElem?_append_right (by rw [abortRun_length]), abortRun_length, Nat.sub_self]
  rfl

/-- Stopping repeats registers nothing anew. -/
theorem stopRepeats_registered {id : String} {run : Nat}
    (registered : repeater.stopRepeats.processStates.lookup id = some run) :
    repeater.processStates.lookup id = some run := by
  -- The induction is on the entries, each of which may be erased.
  have erased : ∀ (entries : List (Sigma fun _ : String => Nat)) (held : List Nat)
      (states : HashMap String Nat),
      (entries.foldl (fun states entry => if entry.2 ∈ held then states.erase entry.1 else states)
        states).lookup id = some run → states.lookup id = some run := by
    intro entries held
    induction entries with
    | nil => exact fun _ found => found
    | cons entry rest ih =>
      intro states found
      have before := ih _ found
      dsimp only at before
      split at before
      · rw [HashMap.lookup_erase_ite] at before
        split at before
        · cases before
        · exact before
      · exact before
  exact erased _ _ _ registered

/-- Stopping registers nothing anew. -/
theorem stop_registered {id other : String} {run : Nat}
    (registered : (repeater.stop id).processStates.lookup other = some run) :
    repeater.processStates.lookup other = some run := by
  unfold stop at registered
  dsimp only at registered
  split at registered
  · simp only [update, HashMap.lookup_erase_ite] at registered
    split at registered
    · cases registered
    · exact registered
  · exact registered

/-- Stopping changes nothing about the runs of a one-shot repeater. -/
theorem OneShot.stop_runs (oneShot : repeater.OneShot) (id : String) :
    (repeater.stop id).runs = repeater.runs := by
  unfold Repeater.stop
  simp only [oneShot.unstopped]
  split
  · -- Only a process that release cancels is cancelled.
    apply List.ext_getElem?
    intro run
    simp only [Repeater.update, List.getElem?_modify]
    cases found : repeater.runs[run]? with
    | none => rfl
    | some state =>
      have once := oneShot.runs state (List.mem_of_getElem? found)
      obtain ⟨_, _, _, cancelled, _⟩ := state
      cases once
      simp
  · rfl

/-- Stopping repeats changes nothing about the runs of a one-shot repeater. -/
theorem OneShot.stopRepeats_runs (oneShot : repeater.OneShot) :
    repeater.stopRepeats.runs = repeater.runs := by
  apply List.ext_getElem?
  intro run
  simp only [Repeater.stopRepeats, List.getElem?_mapIdx]
  cases found : repeater.runs[run]? with
  | none => rfl
  | some state =>
    -- A run that is stopped would be one that release cancels.
    have once := oneShot.runs state (List.mem_of_getElem? found)
    simp [found, once]

end Repeater

/-- What an effect that was applied leads to: it was the last one and started nothing, it called a
held action, or it was applied and started its process. -/
inductive Effect.Leads (host : ProcessHost) (run : EffectRun) (answer : TaskAnswer)
    (effect : Effect) : EffectOutcome → Prop where
  | last {outcome : EffectOutcome} : effect.isLast run answer = true → effect.process host = none →
      (∀ operation ∈ outcome.operations, operation.startsProcess = false) →
      (∀ held, outcome ≠ .holding held) → (∀ operations, outcome ≠ .applied operations) →
      Leads host run answer effect outcome
  | holding (held : HeldAction) : effect.isLast run answer = false → effect.process host = none →
      Leads host run answer effect (.holding held)
  | applied {operations : List Operation} : effect.isLast run answer = false →
      effect.process host = none →
      (∀ operation ∈ operations, operation.startsProcess = false) →
      Leads host run answer effect (.applied operations)
  | started (process : ProcessSpec) : effect.isLast run answer = false →
      effect.process host = some process →
      Leads host run answer effect (.applied [.forbidRepeat, .startProcess run process])

/-- A relay leads to one of these. -/
theorem applyRelay_leads {host : ProcessHost} {run : EffectRun} {spec : RelaySpec}
    {answer : TaskAnswer} {outcome : EffectOutcome}
    (applied : applyRelay spec run answer = some outcome) :
    (Effect.exec (.relay spec)).Leads host run answer outcome := by
  unfold applyRelay at applied
  have isLast : (Effect.exec (.relay spec)).isLast run answer =
    ((Chord.parse spec.chord).isNone || answer = .destination none || answer = .failed) := rfl
  cases parsed : Chord.parse spec.chord with
  | none =>
    -- A chord that cannot be read ends the queue, whether or not it is reported.
    rw [parsed] at applied isLast
    split at applied <;> try contradiction
    all_goals cases applied
    all_goals exact .last isLast rfl (by simp [EffectOutcome.operations]) (by simp) (by simp)
  | some chord =>
    rw [parsed] at applied isLast
    split at applied <;> try contradiction
    all_goals cases applied
    all_goals first
      | exact .applied isLast rfl (List.forall_mem_singleton.mpr rfl)
      | exact .last isLast rfl (by simp [EffectOutcome.operations]) (by simp) (by simp)

/-- A primitive action leads to one of these. -/
theorem applyAction_leads {host : ProcessHost} {run : EffectRun} {action : Action}
    (notRelay : ∀ spec, action ≠ .relay spec) {answer : TaskAnswer} {outcome : EffectOutcome}
    (applied : applyAction host run action answer = some outcome) :
    (Effect.exec action).Leads host run answer outcome := by
  -- An action with a process ends no queue.
  have goesOn : ∀ (action : Action) (process : ProcessSpec), action.process host = some process →
      (Effect.exec action).isLast run .granted = false := by
    intro action process starts
    cases action <;> first | rfl | cases starts
  unfold applyAction at applied
  split at applied
  · rename_i process starts
    cases applied
    exact .started process (goesOn _ process starts) starts
  all_goals cases applied
  all_goals first
    | exact .applied rfl rfl (List.forall_mem_singleton.mpr rfl)
    | exact .last rfl rfl (List.forall_mem_singleton.mpr rfl) (by simp) (by simp)

/-- Whatever an effect leads to is one of these. -/
theorem applyEffect_leads {host : ProcessHost} {run : EffectRun} {effect : Effect}
    {answer : TaskAnswer} {outcome : EffectOutcome}
    (applied : applyEffect host run effect answer = some outcome) :
    effect.Leads host run answer outcome := by
  unfold applyEffect at applied
  split at applied
  -- A held action is invoked by a one-shot queue alone.
  · split at applied
    · rename_i oneShot
      cases applied
      exact .holding _ (by simp [Effect.isLast, oneShot]) rfl
    · rename_i nested
      cases applied
      exact .last (by simpa [Effect.isLast] using nested) rfl (by simp [EffectOutcome.operations])
        (by simp) (by simp)
  · split at applied
    · cases applied
    · rename_i nested
      cases applied
      exact .last (by simpa [Effect.isLast] using nested) rfl (by simp [EffectOutcome.operations])
        (by simp) (by simp)
  · exact applyRelay_leads applied
  · rename_i notRelay
    exact applyAction_leads notRelay applied
  all_goals cases applied
  all_goals first
    | exact .applied rfl rfl (by simp)
    | exact .last rfl rfl (by simp [EffectOutcome.operations]) (by simp) (by simp)

/-- What is known of a dispatch that goes on past its queue. -/
structure Resumption.Leaves (resumed : Resumption) : Prop where
  reached : resumed.reached = none
  past : resumed.stage.isPast = true
  idle : ∀ operation ∈ resumed.operations, operation.startsProcess = false

/-- What is put before it may start no process either. -/
theorem Resumption.Leaves.after {resumed : Resumption} (leaves : resumed.Leaves)
    {operations : List Operation}
    (idle : ∀ operation ∈ operations, operation.startsProcess = false) :
    (resumed.after operations).Leaves where
  reached := leaves.reached
  past := leaves.past
  idle _ member := (List.mem_append.mp member).elim (idle _) (leaves.idle _)

/-- A dispatch past its queue has nothing left of it. -/
theorem TaskStage.remaining_of_past {stage : TaskStage} (past : stage.isPast = true) :
    stage.remaining = [] ∧ stage.isQueued = false := by
  cases stage <;> first | exact ⟨rfl, rfl⟩ | cases past

section Leaving

variable (engine : Engine) (request : DispatchRequest) (ident : String)

/-- A dispatch whose queue is over, or has failed, leaves it. -/
theorem Engine.queueOver_leaves (stop : Bool) :
    (engine.queueOver (.dispatch request) ident stop).Leaves ∧
      (engine.queueFailed (.dispatch request) ident).Leaves :=
  ⟨⟨rfl, rfl, by simp [queueOver]⟩, ⟨rfl, rfl, by simp [queueFailed]⟩⟩

/-- So does one that has cleared everything. -/
theorem Engine.afterClearing_leaves (reloading : Bool) :
    (engine.afterClearing (.dispatch request) ident reloading).Leaves := by
  unfold afterClearing
  split
  · exact (engine.queueOver_leaves request ident true).1
  · exact ⟨rfl, rfl, by simp⟩

/-- So does one whose bindings changed. -/
theorem Engine.bindingsChanged_leaves (reloading : Bool) :
    (engine.bindingsChanged (.dispatch request) ident reloading).Leaves := by
  unfold bindingsChanged
  split
  · exact (engine.afterClearing_leaves request ident reloading).after
      (by simp [Operation.startsProcess])
  · exact ⟨rfl, rfl, by simp [Operation.startsProcess]⟩

end Leaving

/-- What one step of a dispatch makes of its queue. -/
structure Resumption.Consumes (host : ProcessHost) (stage : TaskStage) (answer : TaskAnswer)
    (resumed : Resumption) : Prop where
  reached : resumed.reached = none
  within : resumed.stage.isQueued = true ∨ resumed.stage.isPast = true
  /-- Only a dispatch that skips nothing stays at its queue. -/
  stays : resumed.stage.isQueued = true → stage.isQueued = true ∧ stage.skipped answer = []
  /-- What was left is started now, left still, or skipped. -/
  split : stage.remaining.filterMap (Effect.process host) =
    resumed.operations.filterMap Operation.queuedProcess ++
      (resumed.stage.remaining.filterMap (Effect.process host) ++
        (stage.skipped answer).filterMap (Effect.process host))
  starts : ∀ process, stage.starting host = some process →
    ∃ run, resumed.operations = [.forbidRepeat, .startProcess run process]
  idle : stage.starting host = none →
    ∀ operation ∈ resumed.operations, operation.startsProcess = false

/-- A dispatch that leaves its queue, skipping what is left but for an effect without a process. -/
theorem Resumption.Leaves.consumes {host : ProcessHost} {stage : TaskStage} {answer : TaskAnswer}
    {resumed : Resumption} (leaves : resumed.Leaves)
    (skips : stage.remaining.filterMap (Effect.process host) =
      (stage.skipped answer).filterMap (Effect.process host))
    (plain : stage.starting host = none) : resumed.Consumes host stage answer := by
  obtain ⟨remaining, queued⟩ := TaskStage.remaining_of_past leaves.past
  refine ⟨leaves.reached, .inr leaves.past, fun stays => ?_, ?_, fun process starts => ?_,
    fun _ => leaves.idle⟩
  · rw [queued] at stays
    cases stays
  · rw [remaining, Operation.queuedProcess_of_none leaves.idle, skips]
    rfl
  · rw [plain] at starts
    cases starts

/-- An effect of a queue, or of a held action's first run, is consumed in a step. -/
theorem Engine.afterEffect_consumes (engine : Engine) {host : ProcessHost}
    (request : DispatchRequest) (ident : String) {run : EffectRun} {effect : Effect}
    {answer : TaskAnswer} {outcome : EffectOutcome} (leads : effect.Leads host run answer outcome)
    {stage next : TaskStage} {held : HeldAction → Option TaskStage} {resumed : Resumption}
    (went : engine.afterEffect (.dispatch request) ident next held outcome = some resumed)
    (queued : stage.isQueued = true) (starting : stage.starting host = effect.process host)
    (skipped : stage.skipped answer = if effect.isLast run answer then next.remaining else [])
    (nextQueued : next.isQueued = true)
    (first : stage.remaining.filterMap (Effect.process host) =
      ((if run = .oneShot then effect.process host else none).toList ++
        next.remaining.filterMap (Effect.process host)))
    (holds : ∀ action held', held action = some held' → held'.isQueued = true ∧
      held'.remaining = next.remaining) :
    resumed.Consumes host stage answer := by
  cases leads with
  | last isLast plain idle notHeld notApplied =>
    have leaves : resumed.Leaves := by
      cases outcome with
      | applied operations => exact absurd rfl (notApplied operations)
      | holding held => exact absurd rfl (notHeld held)
      | terminal operations =>
        cases went
        exact (engine.queueOver_leaves request ident true).1.after idle
      | failed operations =>
        cases went
        exact (engine.queueOver_leaves request ident true).2.after idle
      | reloaded changed operations =>
        cases went
        split
        · exact (engine.bindingsChanged_leaves request ident true).after idle
        · exact (engine.queueOver_leaves request ident true).1.after idle
    apply leaves.consumes _ (starting.trans plain)
    rw [first, plain, skipped, if_pos isLast]
    simp
  | holding action goesOn plain =>
    obtain ⟨stage', found, same⟩ := Option.map_eq_some_iff.mp went
    subst same
    obtain ⟨stays, remaining⟩ := holds action stage' found
    rw [if_neg (by simp [goesOn])] at skipped
    refine ⟨rfl, .inl stays, fun _ => ⟨queued, skipped⟩, ?_, fun process starts => ?_, by simp⟩
    · rw [first, plain, skipped]
      simp [remaining]
    · rw [starting, plain] at starts
      cases starts
  | applied goesOn plain idle =>
    cases went
    rw [if_neg (by simp [goesOn])] at skipped
    refine ⟨rfl, .inl nextQueued, fun _ => ⟨queued, skipped⟩, ?_, fun process starts => ?_,
      fun _ => idle⟩
    · rw [first, plain, skipped, Operation.queuedProcess_of_none idle]
      simp
    · rw [starting, plain] at starts
      cases starts
  | started process goesOn starts =>
    cases went
    rw [if_neg (by simp [goesOn])] at skipped
    refine ⟨rfl, .inl nextQueued, fun _ => ⟨queued, skipped⟩, ?_, fun other same => ⟨run, ?_⟩,
      fun plain => ?_⟩
    · rw [first, starts, skipped]
      cases run <;> simp [List.filterMap, Operation.queuedProcess]
    · rw [starting, starts] at same
      cases same
      rfl
    · rw [starting, starts] at plain
      cases plain

/-- Every step of a dispatch at its queue, or past it, consumes the queue so. -/
theorem Engine.resumeTask_consumes (engine : Engine) {host : ProcessHost} {entry : EngineTask}
    {request : DispatchRequest} (role : entry.role = .dispatch request) {answer : TaskAnswer}
    {resumed : Resumption} (went : engine.resumeTask host entry answer = some resumed)
    (within : entry.stage.isQueued = true ∨ entry.stage.isPast = true) :
    resumed.Consumes host entry.stage answer := by
  obtain ⟨_, stage, identifier, number⟩ := entry
  cases role
  unfold resumeTask at went
  dsimp only at went within ⊢
  split at went
  -- Other stages come before the queue, or belong to other tasks.
  any_goals first
    | (cases went; done)
    | (simp [TaskStage.isQueued, TaskStage.isPast] at within; done)
  · cases went
    exact (engine.queueOver_leaves request _ false).1.consumes rfl rfl
  · -- An effect of the queue itself.
    obtain ⟨outcome, applied, went⟩ := Option.bind_eq_some_iff.mp went
    refine engine.afterEffect_consumes request _ (applyEffect_leads applied) went rfl rfl rfl rfl ?_
      (fun action stage same => ?_)
    · cases starts : Effect.process host _ <;>
        simp [TaskStage.remaining, starts, TaskRole.run]
    · cases same
      exact ⟨rfl, rfl⟩
  · cases went
    exact ⟨rfl, .inl rfl, fun _ => ⟨rfl, rfl⟩, by simp [TaskStage.remaining, TaskStage.skipped],
      by simp [TaskStage.starting], by simp⟩
  · cases went
    exact (engine.queueOver_leaves request _ true).1.consumes rfl rfl
  · cases went
    exact (engine.queueOver_leaves request _ true).2.consumes rfl rfl
  · cases went
    refine ⟨rfl, .inl rfl, fun _ => ⟨rfl, rfl⟩, ?_, by simp [TaskStage.starting], fun _ => ?_⟩
    · split <;> simp [TaskStage.remaining, TaskStage.skipped, Operation.queuedProcess]
    · split <;> simp [Operation.startsProcess]
  · -- An effect of the held action's first run.
    obtain ⟨outcome, applied, went⟩ := Option.bind_eq_some_iff.mp went
    exact engine.afterEffect_consumes request _ (applyEffect_leads applied) went rfl rfl rfl rfl
      (by simp [TaskStage.remaining]) (by simp)
  · cases went
    exact (engine.bindingsChanged_leaves request _ false).consumes rfl rfl
  · cases went
    exact Resumption.Leaves.consumes ⟨rfl, rfl, by simp⟩ rfl rfl
  · cases went
    exact Resumption.Leaves.consumes ⟨rfl, rfl, by simp⟩ rfl rfl
  · split at went
    · cases went
      exact ((engine.afterClearing_leaves request _ _).after
        (by simp [Operation.startsProcess])).consumes rfl rfl
    · cases went
  · split at went
    · cases went
      -- What a released key stops starts nothing.
      refine Resumption.Leaves.consumes ⟨rfl, ?_, ?_⟩ rfl rfl
      · simp only [releaseRest]
        split <;> rfl
      · simp [releaseRest, Operation.startsProcess]
    · cases went
  · cases went
    exact Resumption.Leaves.consumes ⟨rfl, rfl, by simp⟩ rfl rfl
  · cases went
    exact Resumption.Leaves.consumes ⟨rfl, rfl, by simp⟩ rfl rfl
  · split at went
    · cases went
      exact Resumption.Leaves.consumes ⟨rfl, rfl, by simp⟩ rfl rfl
    · cases went

namespace Engine

/-- The processes that a task has started for the effects of its own queue, in order. -/
def startedFor (engine : Engine) (task : Nat) : List ProcessSpec :=
  ((engine.repeater.runs.map ProcessRunState.process).zip engine.processBy).filterMap
    fun (process, origin) => if origin = (task, .oneShot) then some process else none

/-- A run is of a process that a task started for an effect of its own queue. -/
def IsRunFor (engine : Engine) (task run : Nat) : Prop :=
  engine.processBy[run]? = some (task, .oneShot)

/-- A step of a task leaves effects of its queue unapplied that start processes. -/
def SkipsProcess (host : ProcessHost) (task : Nat) (engine : Engine) (choice : EngineChoice) :
    Prop :=
  ∃ answer entry, choice = .resume task answer ∧ engine.tasks[task]? = some entry ∧
    (entry.stage.skipped answer).filterMap (Effect.process host) ≠ []

/-- A step of a task starts a process while one is registered that it started for its queue. -/
def ReplacesOwn (host : ProcessHost) (task : Nat) (engine : Engine) (choice : EngineChoice) :
    Prop :=
  ∃ answer entry run, choice = .resume task answer ∧ engine.tasks[task]? = some entry ∧
    (entry.stage.starting host).isSome ∧
    engine.repeater.processStates.lookup (entry.identifier.getD "") = some run ∧
    engine.IsRunFor task run

/-- A step of a task cancels a process that it started for its queue. -/
def CancelsOwn (host : ProcessHost) (task : Nat) (engine : Engine) (choice : EngineChoice) :
    Prop :=
  ∃ answer next run before after, choice = .resume task answer ∧
    engine.Steps host choice next ∧ engine.IsRunFor task run ∧
    engine.repeater.runs[run]? = some before ∧ before.cancelled = false ∧
    next.repeater.runs[run]? = some after ∧ after.cancelled = true

/-- A task has got past its queue. -/
def IsPastQueue (engine : Engine) (task : Nat) : Prop :=
  ∃ entry, engine.tasks[task]? = some entry ∧ entry.stage.isPast = true

/-- What holds of the process runs in every state. -/
structure Recorded (engine : Engine) : Prop where
  lengths : engine.processBy.length = engine.repeater.runs.length
  oneShot : engine.repeater.OneShot
  /-- What is registered was started under its id and was not cancelled. -/
  live : ∀ id run, engine.repeater.processStates.lookup id = some run →
    ∃ state, engine.repeater.runs[run]? = some state ∧ state.id = id ∧ state.cancelled = false

section Performing

variable {engine : Engine} (task : Nat) (ident : String)

/-- What is started for a queue depends on the processes and on who started them. -/
theorem startedFor_of_same {next : Engine}
    (processes : next.repeater.runs.map ProcessRunState.process =
      engine.repeater.runs.map ProcessRunState.process)
    (origins : next.processBy = engine.processBy) :
    next.startedFor task = engine.startedFor task := by
  unfold startedFor
  rw [processes, origins]

/-- An operation that starts no process leaves the runs of a one-shot repeater. -/
theorem perform_runs (recorded : engine.Recorded) {operation : Operation}
    (starts : operation.startsProcess = false) :
    (perform task ident engine operation).repeater.runs = engine.repeater.runs := by
  cases operation with
  | startProcess run process => cases starts
  | stopProcess => exact recorded.oneShot.stop_runs ident
  | stopProcessRepeats => exact recorded.oneShot.stopRepeats_runs
  | _ => rfl

/-- An operation that starts no process leaves who started each of them. -/
theorem perform_processBy {operation : Operation} (starts : operation.startsProcess = false) :
    (perform task ident engine operation).processBy = engine.processBy := by
  cases operation with
  | startProcess run process => cases starts
  | _ => rfl

/-- An operation that starts no process registers none anew. -/
theorem perform_registered {operation : Operation} (starts : operation.startsProcess = false)
    {id : String} {run : Nat} (registered :
      (perform task ident engine operation).repeater.processStates.lookup id = some run) :
    engine.repeater.processStates.lookup id = some run := by
  cases operation with
  | startProcess run process => cases starts
  | stopProcess => exact Repeater.stop_registered registered
  | stopProcessRepeats => exact Repeater.stopRepeats_registered registered
  | _ => exact registered

/-- Every operation keeps the record. -/
theorem Recorded.perform (recorded : engine.Recorded) (operation : Operation) :
    (perform task ident engine operation).Recorded := by
  have oneShot : (Engine.perform task ident engine operation).repeater.OneShot :=
    recorded.oneShot.performed ident [operation]
  cases starts : operation.startsProcess with
  | false =>
    have runs := perform_runs task ident recorded starts
    refine ⟨?_, oneShot, fun id run registered => ?_⟩
    · rw [perform_processBy task ident starts, runs, recorded.lengths]
    · rw [runs]
      exact recorded.live id run (perform_registered task ident starts registered)
  | true =>
    cases operation with
    | startProcess policy process =>
      refine ⟨?_, oneShot, fun id run registered => ?_⟩
      · have processes := congrArg List.length
          (engine.repeater.start_processes ident process false)
        simp only [List.length_map, List.length_append, List.length_singleton] at processes
        simp only [Engine.perform, Operation.onProcessBy, Operation.onRepeater, processes,
          List.length_append, List.length_singleton, recorded.lengths]
      · simp only [Engine.perform, Operation.onRepeater] at registered ⊢
        rw [Repeater.start_registered] at registered
        split at registered
        · rename_i same
          cases registered
          exact ⟨_, engine.repeater.start_fresh ident process false, same.symm, rfl⟩
        · -- What is registered under another id is another run than the one that is cancelled.
          rename_i differs
          obtain ⟨state, found, named, fresh⟩ := recorded.live id run registered
          have within := (List.getElem?_eq_some_iff.mp found).1
          refine ⟨state, ?_, named, fresh⟩
          rw [Repeater.start_runs _ _ _ _ within, found, Option.map_some, if_neg]
          intro aborted
          obtain ⟨other, foundOther, namedOther, _⟩ := recorded.live ident run aborted
          cases found.symm.trans foundOther
          exact differs (named.symm.trans namedOther)
    | _ => cases starts

/-- Operations keep the record. -/
theorem Recorded.performed (recorded : engine.Recorded) (operations : List Operation) :
    (operations.foldl (Engine.perform task ident) engine).Recorded := by
  induction operations generalizing engine with
  | nil => exact recorded
  | cons operation rest ih => exact ih (recorded.perform task ident operation)

/-- Operations that start no process leave the runs, and who started them. -/
theorem performed_runs (recorded : engine.Recorded) {operations : List Operation}
    (none : ∀ operation ∈ operations, operation.startsProcess = false) :
    (operations.foldl (Engine.perform task ident) engine).repeater.runs = engine.repeater.runs ∧
      (operations.foldl (Engine.perform task ident) engine).processBy = engine.processBy := by
  induction operations generalizing engine with
  | nil => exact ⟨rfl, rfl⟩
  | cons operation rest ih =>
    obtain ⟨first, others⟩ := List.forall_mem_cons.mp none
    obtain ⟨runs, origins⟩ := ih (recorded.perform task ident operation) others
    exact ⟨runs.trans (perform_runs task ident recorded first),
      origins.trans (perform_processBy task ident first)⟩

/-- What an operation starts for a queue is started last. -/
theorem perform_startedFor (recorded : engine.Recorded) (operation : Operation) (other : Nat) :
    (Engine.perform task ident engine operation).startedFor other = engine.startedFor other ++
      if task = other then operation.queuedProcess.toList else [] := by
  cases starts : operation.startsProcess with
  | false =>
    have none : operation.queuedProcess = none := by
      cases operation <;> first | rfl | cases starts
    rw [startedFor_of_same other (by rw [perform_runs task ident recorded starts])
      (perform_processBy task ident starts), none]
    simp
  | true =>
    cases operation with
    | startProcess policy process =>
      unfold startedFor
      simp only [Engine.perform, Operation.onProcessBy, Operation.onRepeater,
        Repeater.start_processes]
      rw [List.zip_append (by rw [List.length_map, recorded.lengths]), List.filterMap_append]
      congr 1
      by_cases same : task = other
      · subst same
        cases policy <;> simp [Operation.queuedProcess]
      · simp [same]
    | _ => cases starts

/-- What operations start for a queue is started last, in their order. -/
theorem performed_startedFor (recorded : engine.Recorded) (operations : List Operation)
    (other : Nat) :
    (operations.foldl (Engine.perform task ident) engine).startedFor other =
      engine.startedFor other ++
        if task = other then operations.filterMap Operation.queuedProcess else [] := by
  induction operations generalizing engine with
  | nil => simp
  | cons operation rest ih =>
    rw [List.foldl_cons, ih (recorded.perform task ident operation),
      perform_startedFor task ident recorded, List.append_assoc]
    congr 1
    by_cases same : task = other
    · cases found : operation.queuedProcess <;> simp [same, found]
    · simp [same]

end Performing

variable {host : ProcessHost} {engine next : Engine} {choice : EngineChoice}

/-- Carrying out keeps the record. -/
theorem Recorded.carryOut (recorded : engine.Recorded) (task : Nat) (entry : EngineTask)
    (resumed : Resumption) (tasks : List EngineTask) :
    (engine.carryOut task entry resumed tasks).Recorded := by
  -- Placing the task changes nothing of the record.
  have placed : { engine with
      tasks
      entries := if resumed.reached.isSome then engine.entries + 1 else engine.entries }.Recorded :=
    ⟨recorded.lengths, recorded.oneShot, recorded.live⟩
  exact placed.performed task _ _

/-- Carrying out starts for a queue what the operations of its task do. -/
theorem carryOut_startedFor (recorded : engine.Recorded) (task : Nat) (entry : EngineTask)
    (resumed : Resumption) (tasks : List EngineTask) (other : Nat) :
    (engine.carryOut task entry resumed tasks).startedFor other = engine.startedFor other ++
      if task = other then resumed.operations.filterMap Operation.queuedProcess else [] := by
  have placed : { engine with
      tasks
      entries := if resumed.reached.isSome then engine.entries + 1 else engine.entries }.Recorded :=
    ⟨recorded.lengths, recorded.oneShot, recorded.live⟩
  exact performed_startedFor task _ placed resumed.operations other

/-- Carrying out operations that start no process leaves the runs of a one-shot repeater. -/
theorem carryOut_runs (recorded : engine.Recorded) (task : Nat) (entry : EngineTask)
    {resumed : Resumption} (tasks : List EngineTask)
    (idle : ∀ operation ∈ resumed.operations, operation.startsProcess = false) :
    (engine.carryOut task entry resumed tasks).repeater.runs = engine.repeater.runs := by
  have placed : { engine with
      tasks
      entries := if resumed.reached.isSome then engine.entries + 1 else engine.entries }.Recorded :=
    ⟨recorded.lengths, recorded.oneShot, recorded.live⟩
  exact (performed_runs task _ placed idle).1

/-- The return of a run keeps the processes and the record of what is registered. -/
theorem Recorded.processEnd (recorded : engine.Recorded) {repeater : Repeater} {run : Nat}
    (finished : engine.repeater.finish run = some repeater) :
    { engine with repeater }.Recorded ∧ repeater.runs.map ProcessRunState.process =
      engine.repeater.runs.map ProcessRunState.process := by
  have oneShot := recorded.oneShot.finish finished
  obtain ⟨state, _, rest⟩ := Option.bind_eq_some_iff.mp finished
  split at rest
  · cases rest
  · -- The run is finished, and nothing new is registered.
    have runs : repeater.runs =
        (engine.repeater.update run fun state => { state with finished := true }).runs := by
      cases rest
      split <;> rfl
    have registered : ∀ id other, repeater.processStates.lookup id = some other →
        engine.repeater.processStates.lookup id = some other := by
      intro id other found
      cases rest
      split at found
      · rw [HashMap.lookup_erase_ite] at found
        split at found
        · cases found
        · exact found
      · exact found
    have kept : ∀ other : Nat, repeater.runs[other]? = engine.repeater.runs[other]?.map fun state =>
        if run = other then { state with finished := true } else state := by
      intro other
      rw [runs]
      simp [Repeater.update, List.getElem?_modify]
    have processes : repeater.runs.map ProcessRunState.process =
        engine.repeater.runs.map ProcessRunState.process := by
      apply List.ext_getElem?
      intro other
      rw [List.getElem?_map, List.getElem?_map, kept, Option.map_map]
      congr 1
      funext state
      rw [Function.comp_apply]
      split <;> rfl
    refine ⟨⟨?_, oneShot, fun id other found => ?_⟩, processes⟩
    · have lengths := congrArg List.length processes
      rw [List.length_map, List.length_map] at lengths
      exact recorded.lengths.trans lengths.symm
    · obtain ⟨before, foundBefore, named, fresh⟩ :=
        recorded.live id other (registered id other found)
      have after := kept other
      rw [foundBefore, Option.map_some] at after
      refine ⟨_, after, ?_⟩
      split
      · exact ⟨named, fresh⟩
      · exact ⟨named, fresh⟩

/-- Every step keeps the record. -/
theorem Steps.recorded (stepped : engine.Steps host choice next) (recorded : engine.Recorded) :
    next.Recorded := by
  cases choice with
  | call request =>
    cases stepped
    exact recorded.carryOut _ _ _ _
  | resume task answer =>
    obtain ⟨entry, resumed, _, _, same⟩ := step_resume stepped
    subst same
    exact recorded.carryOut _ _ _ _
  | tick loop =>
    obtain ⟨entry, _, _, same | same⟩ := tickLoop_cases stepped
    · subst same
      exact recorded
    · subst same
      exact ⟨recorded.lengths, recorded.oneShot, recorded.live⟩
  | loopEnd loop =>
    obtain ⟨_, _, same⟩ := Option.map_eq_some_iff.mp stepped
    subst same
    exact ⟨recorded.lengths, recorded.oneShot, recorded.live⟩
  | processEnd run =>
    obtain ⟨_, finished, same⟩ := Option.map_eq_some_iff.mp stepped
    subst same
    exact (recorded.processEnd finished).1
  | register bindings =>
    cases stepped
    exact ⟨recorded.lengths, recorded.oneShot, recorded.live⟩
  | stopRepeats =>
    cases stepped
    have runs := recorded.oneShot.stopRepeats_runs
    refine ⟨?_, recorded.oneShot.stopRepeats, fun id run registered => ?_⟩
    · exact recorded.lengths.trans (congrArg List.length runs).symm
    · rw [runs]
      exact recorded.live id run (Repeater.stopRepeats_registered registered)
  | releaseRelays =>
    cases stepped
    exact ⟨recorded.lengths, recorded.oneShot, recorded.live⟩

/-- A dispatch that reaches the key tracker starts no process. -/
theorem dispatchResolved_idle (engine : Engine) (request : DispatchRequest)
    (binding : HeldBinding) :
    ∀ operation ∈ (engine.dispatchResolved request binding).operations,
      operation.startsProcess = false := by
  unfold dispatchResolved
  dsimp only
  split
  · simp
  · simp [Operation.startsProcess]
  · split
    · simp [Operation.startsProcess]
    · simp [releaseRest, Resumption.after, Operation.startsProcess]

/-- What is noted beforehand starts no process either. -/
theorem noted_idle {noted : List Operation} (notes : ∀ operation ∈ noted, operation.notes = true) :
    ∀ operation ∈ noted, operation.startsProcess = false := by
  intro operation member
  have marked := notes operation member
  cases operation <;> first | rfl | cases marked

/-- A dispatch starts no process where it begins. -/
theorem beginDispatch_idle (engine : Engine) (request : DispatchRequest) :
    ∀ operation ∈ (engine.beginDispatch request).operations, operation.startsProcess = false := by
  obtain waits | ⟨binding, noted, notes, same⟩ := engine.beginDispatch_cases request
  · rw [waits]
    simp
  · rw [same]
    intro operation member
    exact (List.mem_append.mp member).elim (noted_idle notes operation)
      (engine.dispatchResolved_idle request binding operation)

/-- In a step either a task moves and starts what its operations do, or it stays as it is and
nothing is started for its queue. -/
theorem Steps.started (stepped : engine.Steps host choice next) (recorded : engine.Recorded)
    (task : Nat) :
    (∃ answer entry resumed, choice = .resume task answer ∧ engine.tasks[task]? = some entry ∧
      engine.resumeTask host entry answer = some resumed ∧
      next.tasks[task]? = some (entry.moveTo engine.entries resumed) ∧
      next.startedFor task = engine.startedFor task ++
        resumed.operations.filterMap Operation.queuedProcess) ∨
    ((∀ answer, choice ≠ .resume task answer) ∧
      (task < engine.tasks.length → next.tasks[task]? = engine.tasks[task]?) ∧
      next.startedFor task = engine.startedFor task) := by
  cases choice with
  | call request =>
    cases stepped
    refine .inr ⟨by simp, fun within => ?_, ?_⟩
    · simp only [spawn, carryOut_tasks]
      exact List.getElem?_append_left within
    · -- The new dispatch starts no process where it begins.
      simp only [spawn]
      rw [carryOut_startedFor recorded,
        Operation.queuedProcess_of_none (engine.beginDispatch_idle request)]
      simp
  | resume moved answer =>
    obtain ⟨entry, resumed, found, went, same⟩ := step_resume stepped
    subst same
    by_cases moves : moved = task
    · subst moves
      refine .inl ⟨answer, entry, resumed, rfl, found, went, ?_, ?_⟩
      · simp only [advance, carryOut_tasks]
        exact List.getElem?_set_self (List.getElem?_eq_some_iff.mp found).1
      · simp only [advance]
        rw [carryOut_startedFor recorded, if_pos rfl]
    · refine .inr ⟨fun _ same => moves (EngineChoice.resume.inj same).1, fun _ => ?_, ?_⟩
      · simp only [advance, carryOut_tasks]
        exact List.getElem?_set_ne moves
      · simp only [advance]
        rw [carryOut_startedFor recorded, if_neg moves, List.append_nil]
  | tick loop =>
    refine .inr ⟨by simp, ?_⟩
    obtain ⟨entry, _, _, same | same⟩ := tickLoop_cases stepped
    · subst same
      exact ⟨fun _ => rfl, rfl⟩
    · subst same
      exact ⟨List.getElem?_append_left, rfl⟩
  | loopEnd loop =>
    obtain ⟨_, _, same⟩ := Option.map_eq_some_iff.mp stepped
    subst same
    exact .inr ⟨by simp, fun _ => rfl, rfl⟩
  | processEnd run =>
    obtain ⟨_, finished, same⟩ := Option.map_eq_some_iff.mp stepped
    subst same
    exact .inr ⟨by simp, fun _ => rfl,
      startedFor_of_same task (recorded.processEnd finished).2 rfl⟩
  | register bindings =>
    cases stepped
    exact .inr ⟨by simp, fun _ => rfl, rfl⟩
  | stopRepeats =>
    cases stepped
    exact .inr ⟨by simp, fun _ => rfl,
      startedFor_of_same task (by rw [recorded.oneShot.stopRepeats_runs]) rfl⟩
  | releaseRelays =>
    cases stepped
    exact .inr ⟨by simp, fun _ => rfl, rfl⟩

/-- What a key-down goes through before, at and after its queue. -/
theorem stage_of_down {entry : EngineTask} (fits : entry.stage.fits entry.role)
    (down : entry.role.kind = some .keyDown) :
    entry.stage.isEarly = true ∨ entry.stage.isQueued = true ∨ entry.stage.isPast = true := by
  obtain ⟨⟨origin, kind, repeated⟩ | loop, stage, identifier, number⟩ := entry
  · cases down
    cases stage <;> first
      | exact .inl rfl
      | exact .inr (.inl rfl)
      | exact .inr (.inr rfl)
      | cases fits
  · cases down

/-- Only a key-down is on its way to a queue once it is resolved. -/
theorem down_of_early {role : TaskRole} {stage : TaskStage} (early : stage.isEarly = true)
    (fits : stage.fits role) (resolved : stage ≠ .resolving) : role.kind = some .keyDown := by
  obtain ⟨origin, kind, repeated⟩ | loop := role
  · cases kind with
    | keyDown => rfl
    | keyUp =>
      cases stage <;> first
        | cases early; done
        | cases fits; done
        | exact absurd rfl resolved
  · cases stage <;> first | cases early; done | cases fits

/-- A task on its way to a queue after a step was so before it. -/
theorem resumeTask_early (engine : Engine) {entry : EngineTask} (sound : entry.Sound)
    {answer : TaskAnswer} {resumed : Resumption}
    (went : engine.resumeTask host entry answer = some resumed)
    (early : resumed.stage.isEarly = true) : entry.stage.isEarly = true := by
  by_contra late
  have resolved : entry.stage ≠ .resolving := by
    intro same
    rw [same] at late
    exact late rfl
  obtain ⟨_, fits, waits⟩ := (engine.resumeTask_continues sound.fits resolved went).keeps
  have down := down_of_early early fits waits
  -- A key-down that is not on its way any more stays at its queue or past it.
  have within := (stage_of_down sound.fits down).resolve_left late
  cases role : entry.role with
  | tick loop =>
    rw [role] at down
    cases down
  | dispatch request =>
    have after := (engine.resumeTask_consumes role went within).within
    revert early after
    cases resumed.stage <;> simp [TaskStage.isEarly, TaskStage.isQueued, TaskStage.isPast]

/-- A task on its way to a queue starts no process. -/
theorem resumeTask_early_idle (engine : Engine) {entry : EngineTask} {answer : TaskAnswer}
    {resumed : Resumption} (went : engine.resumeTask host entry answer = some resumed)
    (early : entry.stage.isEarly = true) :
    ∀ operation ∈ resumed.operations, operation.startsProcess = false := by
  obtain ⟨role, stage, identifier, number⟩ := entry
  unfold resumeTask at went
  dsimp only at went
  cases stage with
  | resolving =>
    cases role <;> cases answer <;> try cases went
    rename_i request
    -- The dispatch is resolved, or unknown.
    obtain done | ⟨binding, noted, notes, same⟩ := engine.resumeResolving_cases request
    · rw [done]
      simp
    · rw [same]
      intro operation member
      exact (List.mem_append.mp member).elim (noted_idle notes operation)
        (engine.dispatchResolved_idle request binding operation)
  | checkingSelector chord =>
    cases answer <;> try cases went
    rename_i isOpen
    cases isOpen <;> cases went
    · simp only [handleRepeat]
      split
      · split <;> simp [Operation.startsProcess]
      · simp
    · simp
  | handling chord feedback =>
    cases answer <;> try cases went
    simp only [handleKeyEvent]
    split <;> simp [Operation.startsProcess]
  | _ => cases early

/-- No task has started a process for a queue that it has yet to come to. -/
def Unstarted (engine : Engine) : Prop :=
  ∀ task, (∀ entry, engine.tasks[task]? = some entry → entry.stage.isEarly = true) →
    engine.startedFor task = []

/-- Every step keeps it so. -/
theorem Steps.unstarted (stepped : engine.Steps host choice next) (sound : engine.Sound)
    (recorded : engine.Recorded) (unstarted : engine.Unstarted) : next.Unstarted := by
  intro task early
  rcases stepped.started recorded task with
    ⟨answer, entry, resumed, _, found, went, after, started⟩ | ⟨_, same, started⟩
  · have before := engine.resumeTask_early (sound entry (List.mem_of_getElem? found)) went
      (early _ after)
    rw [started, unstarted task fun other foundOther => by
      cases found.symm.trans foundOther
      exact before]
    exact Operation.queuedProcess_of_none (engine.resumeTask_early_idle went before)
  · rw [started]
    refine unstarted task fun entry found => early entry ?_
    exact (same (List.getElem?_eq_some_iff.mp found).1).trans found

/-- A step has one outcome. -/
theorem Steps.functional {left right : Engine} (one : engine.Steps host choice left)
    (other : engine.Steps host choice right) : left = right :=
  Option.some.inj (one.symm.trans other)

/-- A dispatch at its queue, or past it, after the choices made since it was handed the queue. -/
structure AtQueue (host : ProcessHost) (queue : List Effect) (task : Nat) (first : Engine)
    (past : List EngineChoice) (engine : Engine) : Prop where
  run : Run (Steps host) first past engine
  recorded : engine.Recorded
  /-- The processes of the queue are started, still to come, or lost. -/
  split : ∃ entry request lost, engine.tasks[task]? = some entry ∧
    entry.role = .dispatch request ∧
    (entry.stage.isQueued = true ∨ entry.stage.isPast = true) ∧
    queue.filterMap (Effect.process host) = engine.startedFor task ++
      (entry.stage.remaining.filterMap (Effect.process host) ++ lost) ∧
    (entry.stage.isQueued = true → lost = []) ∧
    (lost ≠ [] ↔ Run.Occurs (Steps host) first past (SkipsProcess host task))

variable {queue : List Effect} {task : Nat} {first : Engine} {past : List EngineChoice}

/-- Every step of whoever moves leaves the dispatch at its queue or past it. -/
theorem AtQueue.step (at_queue : AtQueue host queue task first past engine)
    (stepped : engine.Steps host choice next) :
    AtQueue host queue task first (past ++ [choice]) next := by
  obtain ⟨run, recorded, entry, request, lost, found, role, within, split, keeps, skips⟩ := at_queue
  refine ⟨run.append (.cons stepped (.nil _)), stepped.recorded recorded, ?_⟩
  have occurs : Run.Occurs (Steps host) first (past ++ [choice]) (SkipsProcess host task) ↔
      Run.Occurs (Steps host) first past (SkipsProcess host task) ∨
        SkipsProcess host task engine choice :=
    @Run.occurs_snoc _ _ (Steps host) first engine
      (fun one other => Steps.functional one other) past choice run _
  rcases stepped.started recorded task with
    ⟨answer, moved, resumed, rfl, foundMoved, went, after, started⟩ | ⟨other, same, started⟩
  · -- The dispatch itself moves, and consumes its queue.
    cases found.symm.trans foundMoved
    have consumes := engine.resumeTask_consumes role went within
    refine ⟨_, request, (entry.stage.skipped answer).filterMap (Effect.process host) ++ lost, after,
      role, consumes.within, ?_, fun queued => ?_, ?_⟩
    · rw [split, started, consumes.split]
      simp [EngineTask.moveTo]
    · obtain ⟨before, skipped⟩ := consumes.stays queued
      rw [skipped, keeps before]
      rfl
    · have now : SkipsProcess host task engine (.resume task answer) ↔
          (entry.stage.skipped answer).filterMap (Effect.process host) ≠ [] := by
        constructor
        · rintro ⟨_, _, same, foundAgain, skipped⟩
          cases same
          cases found.symm.trans foundAgain
          exact skipped
        · exact fun skipped => ⟨answer, entry, rfl, found, skipped⟩
      rw [occurs, ← skips, now]
      simp only [ne_eq, List.append_eq_nil_iff]
      tauto
  · -- Another task moves, which starts nothing for this queue.
    refine ⟨entry, request, lost, ?_, role, within, by rw [started, split], keeps, ?_⟩
    · exact (same (List.getElem?_eq_some_iff.mp found).1).trans found
    · rw [occurs, skips]
      constructor
      · exact .inl
      · rintro (before | ⟨answer, _, same, _⟩)
        · exact before
        · exact absurd same (other answer)

/-- A dispatch that starts a process in a step starts it under its identifier. -/
theorem advance_repeater {entry : EngineTask} {resumed : Resumption} {run : EffectRun}
    {process : ProcessSpec} (reached : resumed.reached = none)
    (operations : resumed.operations = [.forbidRepeat, .startProcess run process]) :
    (engine.advance task entry resumed).repeater =
      engine.repeater.start (entry.identifier.getD "") process false := by
  simp only [advance]
  rw [carryOut_repeater, operations]
  simp [EngineTask.moveTo, reached, Operation.onRepeater]

/-- A dispatch cancels a process of its queue in a step exactly if it starts a process while one
that it started for its queue is registered. -/
theorem AtQueue.cancels_iff (at_queue : AtQueue host queue task first past engine)
    (stepped : engine.Steps host choice next) :
    CancelsOwn host task engine choice ↔ ReplacesOwn host task engine choice := by
  obtain ⟨_, recorded, entry, request, _, found, role, within, _⟩ := at_queue
  constructor
  · rintro ⟨answer, next, run, before, after, rfl, stepped, own, foundBefore, alive, foundAfter,
      cancelled⟩
    obtain ⟨moved, resumed, foundMoved, went, rfl⟩ := step_resume stepped
    cases found.symm.trans foundMoved
    have consumes := engine.resumeTask_consumes role went within
    cases starts : entry.stage.starting host with
    | none =>
      -- Without a start nothing is cancelled.
      simp only [advance] at foundAfter
      rw [carryOut_runs recorded _ _ _ (consumes.idle starts), foundBefore] at foundAfter
      cases foundAfter
      rw [alive] at cancelled
      cases cancelled
    | some process =>
      obtain ⟨policy, operations⟩ := consumes.starts process starts
      refine ⟨answer, entry, run, rfl, found, by rw [starts]; rfl, ?_, own⟩
      by_contra other
      rw [advance_repeater consumes.reached operations, Repeater.start_runs _ _ _ _
        (List.getElem?_eq_some_iff.mp foundBefore).1, foundBefore, Option.map_some,
        if_neg other] at foundAfter
      cases foundAfter
      rw [alive] at cancelled
      cases cancelled
  · rintro ⟨answer, moved, run, rfl, foundMoved, starts, registered, own⟩
    cases found.symm.trans foundMoved
    obtain ⟨process, starts⟩ := Option.isSome_iff_exists.mp starts
    obtain ⟨again, resumed, foundAgain, went, same⟩ := step_resume stepped
    cases found.symm.trans foundAgain
    have consumes := engine.resumeTask_consumes role went within
    obtain ⟨policy, operations⟩ := consumes.starts process starts
    -- What is registered is not cancelled yet.
    obtain ⟨state, foundState, _, alive⟩ := recorded.live _ run registered
    refine ⟨answer, next, run, state, { state with cancelled := true }, rfl, stepped, own,
      foundState, alive, ?_, rfl⟩
    rw [same, advance_repeater consumes.reached operations, Repeater.start_runs _ _ _ _
      (List.getElem?_eq_some_iff.mp foundState).1, foundState, Option.map_some, if_pos registered]

/-- What holds before a dispatch comes to its queue. -/
structure Fresh (engine : Engine) : Prop where
  sound : engine.Sound
  recorded : engine.Recorded
  unstarted : engine.Unstarted

/-- Every step keeps it. -/
theorem Fresh.step (fresh : engine.Fresh) (stepped : engine.Steps host choice next) : next.Fresh :=
  ⟨stepped.sound fresh.sound, stepped.recorded fresh.recorded,
    stepped.unstarted fresh.sound fresh.recorded fresh.unstarted⟩

/-- It holds before any dispatch. -/
theorem build_fresh (relayEnabled : Bool) : (build relayEnabled).Fresh where
  sound entry member := by cases member
  recorded := ⟨rfl, ⟨rfl, fun run member => by cases member⟩, fun id run found => by cases found⟩
  unstarted task early := rfl

/-- No effect awaits what a key sets off. -/
theorem applyEffect_handled (run : EffectRun) (effect : Effect) (notified : Bool)
    (outcome : KeyOutcome) : applyEffect host run effect (.handled notified outcome) = none := by
  cases effect with
  | exec action =>
    cases action with
    | relay spec =>
      simp only [applyEffect, applyRelay]
      cases Chord.parse spec.chord <;> cases run <;> cases spec.target <;> rfl
    | _ => rfl
  | _ => rfl

/-- Only a dispatch that handles its key awaits what the key sets off. -/
theorem resumeTask_handled {entry : EngineTask} {notified : Bool} {outcome : KeyOutcome}
    {resumed : Resumption}
    (went : engine.resumeTask host entry (.handled notified outcome) = some resumed) :
    ∃ chord feedback, entry.stage = .handling chord feedback ∧
      resumed = handleKeyEvent chord (feedback && notified) outcome := by
  obtain ⟨role, stage, identifier, number⟩ := entry
  cases stage with
  | handling chord feedback =>
    cases went
    exact ⟨chord, feedback, rfl, rfl⟩
  | applying queue =>
    cases queue with
    | nil => cases role <;> cases went
    | cons effect rest =>
      simp only [resumeTask, applyEffect_handled, Option.bind_none] at went
      cases went
  | applyingFirst queue held rest =>
    cases queue with
    | nil => cases role <;> cases went
    | cons effect rest =>
      simp only [resumeTask, applyEffect_handled, Option.bind_none] at went
      cases went
  | _ => cases role <;> cases went

/-- A dispatch that is handed a queue is at it, and has started nothing. -/
theorem Fresh.handed (fresh : engine.Fresh) {notified : Bool}
    (handing : engine.Steps host (.resume task (.handled notified (.queued queue))) first) :
    AtQueue host queue task first [] first := by
  have recorded := handing.recorded fresh.recorded
  refine ⟨.nil first, recorded, ?_⟩
  rcases handing.started fresh.recorded task with
    ⟨answer, entry, resumed, same, found, went, after, started⟩ | ⟨other, _⟩
  · cases same
    obtain ⟨chord, feedback, handling, rfl⟩ := resumeTask_handled went
    have sound := fresh.sound entry (List.mem_of_getElem? found)
    -- Only a key-down handles its key.
    have down : entry.role.kind = some .keyDown :=
      down_of_early (by rw [handling]; rfl) sound.fits (by rw [handling]; simp)
    have before : engine.startedFor task = [] := fresh.unstarted task fun other foundOther => by
      cases found.symm.trans foundOther
      rw [handling]
      rfl
    have idle : (handleKeyEvent chord (feedback && notified)
        (.queued queue)).operations.filterMap Operation.queuedProcess = [] :=
      Operation.queuedProcess_of_none (engine.resumeTask_early_idle went (by rw [handling]; rfl))
    rw [before, idle] at started
    cases role : entry.role with
    | tick loop =>
      rw [role] at down
      cases down
    | dispatch request =>
      refine ⟨_, request, [], after, role, .inl rfl, ?_, fun _ => rfl, ?_⟩
      · rw [started]
        simp [EngineTask.moveTo, handleKeyEvent, TaskStage.remaining]
      · exact ⟨fun lost => absurd rfl lost, fun occurs => absurd occurs Run.not_occurs_nil⟩
  · exact absurd rfl (other _)

/--
When the processes of an effect queue are all started, and left alone.

However the tasks interleave, what a dispatch has started for its queue is an initial part of the
processes of the queue, in its order; and once it has got past the queue, it has started all of them
and has never cancelled one of them, exactly if no effect that ended the queue or failed came before
another with a process, and none started a process while an earlier one of the queue was registered.
-/
theorem queued_processes_started (host : ProcessHost) (relayEnabled : Bool)
    {before after : List EngineChoice} {start first engine : Engine} {task : Nat} {notified : Bool}
    {queue : List Effect} (run : Run (Steps host) (build relayEnabled) before start)
    (handing : start.Steps host (.resume task (.handled notified (.queued queue))) first)
    (further : Run (Steps host) first after engine) :
    engine.startedFor task <+: queue.filterMap (Effect.process host) ∧
    (engine.IsPastQueue task →
      ((engine.startedFor task = queue.filterMap (Effect.process host) ∧
          ¬ Run.Occurs (Steps host) first after (CancelsOwn host task)) ↔
        ¬ Run.Occurs (Steps host) first after (SkipsProcess host task) ∧
          ¬ Run.Occurs (Steps host) first after (ReplacesOwn host task))) := by
  have fresh : start.Fresh := run.invariant Fresh (fun stepped fresh => fresh.step stepped)
    (build_fresh relayEnabled)
  have at_queue : ∀ {past : List EngineChoice} {middle : Engine},
      Run (Steps host) first past middle → AtQueue host queue task first past middle := by
    intro past middle run
    exact run.trace_invariant (AtQueue host queue task first)
      (fun stepped at_queue => at_queue.step stepped) [] (fresh.handed handing)
  obtain ⟨_, _, entry, request, lost, found, _, _, split, _, skips⟩ := at_queue further
  refine ⟨⟨_, split.symm⟩, ?_⟩
  rintro ⟨entry', found', past⟩
  cases found.symm.trans found'
  -- Past the queue nothing is left of it but what was lost.
  rw [(TaskStage.remaining_of_past past).1, List.filterMap_nil, List.nil_append] at split
  have all : engine.startedFor task = queue.filterMap (Effect.process host) ↔
      ¬ Run.Occurs (Steps host) first after (SkipsProcess host task) := by
    rw [← skips, split]
    simp
  have cancels : Run.Occurs (Steps host) first after (CancelsOwn host task) ↔
      Run.Occurs (Steps host) first after (ReplacesOwn host task) :=
    @Run.occurs_congr _ _ (Steps host) first engine (fun one other => Steps.functional one other)
      after further _ _ fun run stepped => (at_queue run).cancels_iff stepped
  rw [all, cancels]

/-- A key that is pressed, up to what it sets off. -/
private def pressedOnce : List EngineChoice := [
  .register (HashMap.collect [(1, ⟨"a", ⟨∅, .a⟩⟩)]),
  .call ⟨.injected "a", .keyDown, false⟩, .resume 0 .granted]

/-- A queue of two processes with a notice between them. -/
private def twoProcesses : List Effect := [
  .exec (.shell ⟨"echo one", .ignore, .warn⟩), .notify .info "Test" "middle",
  .exec (.shell ⟨"echo two", .ignore, .warn⟩)]

/-- The key is handed the queue. -/
private def handedQueue : EngineChoice := .resume 0 (.handled false (.queued twoProcesses))

/-- What is seen of the first task: whether it is past its queue, and has started both processes. -/
private def seenQueue (engine : Engine) : Option Bool × Bool :=
  (engine.tasks[0]?.map fun entry => entry.stage.isPast,
    decide (engine.startedFor 0 = twoProcesses.filterMap (Effect.process plainHost)))

/-- A task that is seen past its queue is past it. -/
private theorem pastQueue_of_seen {engine : Engine} {all : Bool}
    (seen : engine.seenQueue = (some true, all)) : engine.IsPastQueue 0 ∧
      decide (engine.startedFor 0 = twoProcesses.filterMap (Effect.process plainHost)) = all := by
  obtain ⟨entry, found, past⟩ := Option.map_eq_some_iff.mp (Prod.mk.inj seen).1
  exact ⟨⟨entry, found, past⟩, (Prod.mk.inj seen).2⟩

/-- The first process of the queue returns before the second is started, and both are started. -/
theorem queued_processes_started_apart :
    ∃ before after start first engine, Run (Steps plainHost) (build true) before start ∧
      start.Steps plainHost handedQueue first ∧ Run (Steps plainHost) first after engine ∧
      engine.IsPastQueue 0 ∧
      (engine.startedFor 0 = twoProcesses.filterMap (Effect.process plainHost) ∧
        ¬ Run.Occurs (Steps plainHost) first after (CancelsOwn plainHost 0) ↔
        ¬ Run.Occurs (Steps plainHost) first after (SkipsProcess plainHost 0) ∧
          ¬ Run.Occurs (Steps plainHost) first after (ReplacesOwn plainHost 0)) ∧
      engine.startedFor 0 = twoProcesses.filterMap (Effect.process plainHost) := by
  obtain ⟨engine, seen, run⟩ := Run.of_foldlM (step plainHost) (build true)
    (pressedOnce ++ handedQueue :: [.resume 0 .granted, .processEnd 0, .resume 0 .granted,
      .resume 0 .granted, .resume 0 .granted])
    seenQueue (some true, true) (by decide +kernel)
  obtain ⟨start, pressed, rest⟩ := run.split
  cases rest with
  | cons handing further =>
    obtain ⟨past, started⟩ := pastQueue_of_seen seen
    exact ⟨_, _, start, _, engine, pressed, handing, further, past,
      (queued_processes_started plainHost true pressed handing further).2 past,
      of_decide_eq_true started⟩

/-- The second process of a queue cancels the first where that still runs, and a notice that the UI
channel does not take keeps it from being started. -/
theorem queued_processes_started_defeated :
    (∃ before after start first engine, Run (Steps plainHost) (build true) before start ∧
      start.Steps plainHost handedQueue first ∧ Run (Steps plainHost) first after engine ∧
      engine.IsPastQueue 0 ∧
      engine.startedFor 0 = twoProcesses.filterMap (Effect.process plainHost) ∧
      Run.Occurs (Steps plainHost) first after (CancelsOwn plainHost 0)) ∧
    ∃ before after start first engine, Run (Steps plainHost) (build true) before start ∧
      start.Steps plainHost handedQueue first ∧ Run (Steps plainHost) first after engine ∧
      engine.IsPastQueue 0 ∧
      engine.startedFor 0 ≠ twoProcesses.filterMap (Effect.process plainHost) := by
  constructor
  · -- The second process is started right after the first and the notice.
    obtain ⟨middle, seen, run⟩ := Run.of_foldlM (step plainHost) (build true)
      (pressedOnce ++ handedQueue :: [.resume 0 .granted, .resume 0 .granted])
      (fun engine => (decide (engine.processBy[0]? = some (0, EffectRun.oneShot)),
        engine.repeater.runs[0]?.map ProcessRunState.cancelled,
        (engine.step plainHost (.resume 0 .granted)).bind fun next =>
          (next.step plainHost (.resume 0 .granted)).map fun last =>
            (next.repeater.runs[0]?.map ProcessRunState.cancelled, seenQueue last)))
      (true, some false, some (some true, some true, true)) (by decide +kernel)
    simp only [Prod.mk.injEq] at seen
    obtain ⟨own, running, moves⟩ := seen
    have owned : middle.IsRunFor 0 0 := by
      rw [decide_eq_true_iff] at own
      exact own
    obtain ⟨next, stepped, ends⟩ := Option.bind_eq_some_iff.mp moves
    obtain ⟨engine, last, seen⟩ := Option.map_eq_some_iff.mp ends
    obtain ⟨cancelled, seen⟩ := Prod.mk.inj seen
    obtain ⟨past, started⟩ := pastQueue_of_seen seen
    obtain ⟨before, foundBefore, alive⟩ := Option.map_eq_some_iff.mp running
    obtain ⟨after, foundAfter, dead⟩ := Option.map_eq_some_iff.mp cancelled
    obtain ⟨start, pressed, rest⟩ := run.split
    cases rest with
    | cons handing further =>
      exact ⟨_, _, start, _, engine, pressed, handing,
        further.append (.cons stepped (.cons last (.nil _))), past,
        of_decide_eq_true started,
        ⟨_, _, _, middle, rfl, further, .granted, next, 0, before, after, rfl, stepped, owned,
          foundBefore, alive, foundAfter, dead⟩⟩
  · -- The error of the notice ends the dispatch, which has started the first process only.
    obtain ⟨engine, seen, run⟩ := Run.of_foldlM (step plainHost) (build true)
      (pressedOnce ++ handedQueue :: [.resume 0 .granted, .resume 0 .failed])
      seenQueue (some true, false) (by decide +kernel)
    obtain ⟨past, started⟩ := pastQueue_of_seen seen
    obtain ⟨start, pressed, rest⟩ := run.split
    cases rest with
    | cons handing further =>
      exact ⟨_, _, start, _, engine, pressed, handing, further, past, of_decide_eq_false started⟩

end Engine

end Hotki

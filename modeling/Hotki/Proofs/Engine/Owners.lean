import Hotki.Proofs.Engine.Isolation
import Hotki.Proofs.Engine.KeyEffects

/-! Which dispatch is behind the key state, the relay and the loops of an identifier. -/

namespace Hotki

open Base

/-- Whether an operation applies a relay. -/
def Operation.relays : Operation → Bool
  | .applyRelay _ _ _ => true
  | _ => false

/-- Whether an operation makes its task the one behind a key state, a relay or a loop. -/
def Operation.claims : Operation → Bool
  | .onKeyDown _ | .applyRelay _ _ _ | .startLoop _ => true
  | _ => false

namespace Engine

variable {host : ProcessHost} {engine : Engine} {answer : TaskAnswer}

/-- An effect of a tick applies no relay: it repeats the one that stands. -/
theorem applyEffect_tick {effect : Effect} {outcome : EffectOutcome}
    (applied : applyEffect host .repeatedTick effect answer = some outcome) :
    ∀ operation ∈ outcome.operations, operation.relays = false := by
  -- One case for each effect, and for each answer it may find.
  unfold applyEffect at applied
  split at applied
  · cases applied
    simp [EffectOutcome.operations]
  · cases applied
    simp [EffectOutcome.operations]
  · unfold applyRelay at applied
    dsimp only at applied
    split at applied <;> cases applied <;> simp_all [EffectOutcome.operations, Operation.relays]
  · unfold applyAction at applied
    split at applied <;> cases applied <;> simp [EffectOutcome.operations, Operation.relays]
  all_goals first
    | (cases applied; simp [EffectOutcome.operations])
    | cases applied

/-- The end of a queue applies no relay. -/
theorem queueOver_relays (role : TaskRole) (ident : String) (stop : Bool) :
    ∀ operation ∈ (engine.queueOver role ident stop).operations, operation.relays = false := by
  -- A tick that stops its loop clears its flag first.
  unfold queueOver
  split
  · simp
  · split
    · split <;> simp [Operation.relays]
    · simp [Operation.relays]

/-- Operations that apply no relay may be put before others. -/
theorem after_relays {resumed : Resumption} {operations : List Operation}
    (own : ∀ operation ∈ resumed.operations, operation.relays = false)
    (first : ∀ operation ∈ operations, operation.relays = false) :
    ∀ operation ∈ (resumed.after operations).operations, operation.relays = false :=
  fun operation member => (List.mem_append.mp member).elim (first operation) (own operation)

/-- What follows changed bindings applies no relay. -/
theorem afterClearing_relays (role : TaskRole) (ident : String) (reloading : Bool) :
    ∀ operation ∈ (engine.afterClearing role ident reloading).operations,
      operation.relays = false := by
  unfold afterClearing
  split
  · exact queueOver_relays role ident true
  · simp

/-- Changed bindings apply no relay. -/
theorem bindingsChanged_relays (role : TaskRole) (ident : String) (reloading : Bool) :
    ∀ operation ∈ (engine.bindingsChanged role ident reloading).operations,
      operation.relays = false := by
  unfold bindingsChanged
  split
  · exact after_relays (afterClearing_relays role ident reloading) (by simp [Operation.relays])
  · simp [Operation.relays]

/-- A tick applies no relay. -/
theorem resumeTask_tick_relays {loop : Nat} {stage : TaskStage} {identifier : Option String}
    {number : Option Nat} {resumed : Resumption} (fits : stage.fits (.tick loop))
    (went : engine.resumeTask host ⟨.tick loop, stage, identifier, number⟩ answer = some resumed) :
    ∀ operation ∈ resumed.operations, operation.relays = false := by
  -- One case for each stage a tick can stand at, as for its other operations.
  unfold resumeTask at went
  dsimp only at went
  split at went
  any_goals first | cases went; done | cases fits; done
  · cases went
    exact queueOver_relays _ _ false
  · obtain ⟨outcome, applied, went⟩ := Option.bind_eq_some_iff.mp went
    have quiet := applyEffect_tick applied
    -- The queue goes on, or it is over in one of the ways an effect can end it.
    cases outcome with
    | applied operations =>
      cases went
      exact quiet
    | terminal operations =>
      cases went
      exact after_relays (queueOver_relays _ _ true) quiet
    | failed operations =>
      cases went
      exact after_relays (queueOver_relays _ _ true) quiet
    | holding action => cases applyEffect_holding applied
    | reloaded changed operations =>
      cases went
      refine after_relays ?_ quiet
      split
      · exact bindingsChanged_relays _ _ true
      · exact queueOver_relays _ _ true
  · cases went
    simp
  · cases went
    exact queueOver_relays _ _ true
  · cases went
    exact queueOver_relays _ _ true
  · split at went
    · cases went
      exact after_relays (afterClearing_relays _ _ _) (by simp [Operation.relays])
    · cases went
  · split at went
    · cases went
      simp
    · cases went

/-- What puts a task behind something is done by a dispatch under its identifier. -/
theorem resumeTask_claims {entry : EngineTask} {resumed : Resumption} (sound : entry.Sound)
    (named : entry.Named) (went : engine.resumeTask host entry answer = some resumed)
    {operation : Operation} (member : operation ∈ resumed.operations)
    (claims : operation.claims = true) :
    entry.role.kind ≠ none ∧ (entry.moveTo engine.entries resumed).identifier ≠ none := by
  by_cases resolving : entry.stage = .resolving
  · -- It is resolved in this step, or over.
    obtain ⟨request, role, _, rfl⟩ := resumeTask_resolving sound resolving went
    refine ⟨by simp [role, TaskRole.kind], ?_⟩
    obtain done | ⟨binding, noted, holding, same⟩ := engine.resumeResolving_cases request
    · rw [done] at member
      cases member
    · rw [same]
      simp [EngineTask.moveTo, Resumption.after, engine.dispatchResolved_reached]
  · have continues := engine.resumeTask_continues sound.fits resolving went
    have dispatches : entry.role.kind ≠ none := by
      intro ticks
      obtain ⟨role, stage, identifier, number⟩ := entry
      cases role with
      | dispatch request => cases ticks
      | tick loop =>
        -- A tick begins nothing, and repeats at most the relay that stands.
        have quiet := (engine.resumeTask_tick loop sound.fits went).quiet operation member
        have still := resumeTask_tick_relays sound.fits went operation member
        cases operation <;> first
          | cases claims; done
          | cases quiet.1; done
          | cases quiet.2
          | cases still
    -- A dispatch that is under way has had its identifier since it was resolved.
    have known := named dispatches resolving (engine.resumeTask_finished went)
    exact ⟨dispatches, by simpa [EngineTask.moveTo, continues.keeps.1] using known⟩

/-- What puts a task behind something when it is started is done under its identifier. -/
theorem beginDispatch_claims {request : DispatchRequest} {operation : Operation}
    (member : operation ∈ (engine.beginDispatch request).operations) :
    (engine.beginDispatch request).reached ≠ none := by
  rcases engine.beginDispatch_resolves request with waits | resolves
  · rw [waits] at member
    cases member
  · exact Option.isSome_iff_ne_none.mp resolves.reached

/-- Whether a task is behind the key state, the relay or a loop of an identifier. -/
inductive Owns (engine : Engine) (ident : String) (task : Nat) : Prop where
  | down : engine.downBy.lookup ident = some task → Owns engine ident task
  | relay : engine.relayBy.lookup ident = some task → Owns engine ident task
  | loop (index : Nat) (loop : TickerTask ActionLoop) :
      engine.actionRepeater.tasks[index]? = some loop → loop.id = ident →
      loop.callback.starter = task → Owns engine ident task

/-- Carrying out puts at most its task behind a key state or a relay, under its identifier. -/
theorem performed_owns (task : Nat) (ident : String) (operations : List Operation)
    (engine : Engine) (other : String) (owner : Nat) :
    ((operations.foldl (perform task ident) engine).downBy.lookup other = some owner →
      engine.downBy.lookup other = some owner ∨
        other = ident ∧ owner = task ∧ ∃ operation ∈ operations, operation.claims = true) ∧
    ((operations.foldl (perform task ident) engine).relayBy.lookup other = some owner →
      engine.relayBy.lookup other = some owner ∨
        other = ident ∧ owner = task ∧ ∃ operation ∈ operations, operation.claims = true) := by
  -- The induction is on the operations.
  induction operations generalizing engine with
  | nil => exact ⟨.inl, .inl⟩
  | cons operation rest ih =>
    have before := ih (perform task ident engine operation)
    have first : ((perform task ident engine operation).downBy.lookup other = some owner →
        engine.downBy.lookup other = some owner ∨
          other = ident ∧ owner = task ∧ operation.claims = true) ∧
        ((perform task ident engine operation).relayBy.lookup other = some owner →
          engine.relayBy.lookup other = some owner ∨
            other = ident ∧ owner = task ∧ operation.claims = true) := by
      cases operation with
      -- A key that is down already stays with the task that pressed it.
      | onKeyDown chord =>
        refine ⟨fun owned => ?_, .inl⟩
        simp only [perform, Operation.onDownBy] at owned
        split at owned
        · exact .inl owned
        · rw [HashMap.lookup_insert_ite] at owned
          split at owned
          · rename_i same
            exact .inr ⟨same, (Option.some.inj owned).symm, rfl⟩
          · exact .inl owned
      | applyRelay run chord destination =>
        refine ⟨.inl, fun owned => ?_⟩
        simp only [perform, Operation.onRelayBy, HashMap.lookup_insert_ite] at owned
        split at owned
        · rename_i same
          exact .inr ⟨same, (Option.some.inj owned).symm, rfl⟩
        · exact .inl owned
      | _ => exact ⟨.inl, .inl⟩
    constructor
    · intro owned
      rcases before.1 owned with old | ⟨same, mine, later, member, claims⟩
      · rcases first.1 old with older | ⟨same, mine, claims⟩
        · exact .inl older
        · exact .inr ⟨same, mine, operation, by simp, claims⟩
      · exact .inr ⟨same, mine, later, by simp [member], claims⟩
    · intro owned
      rcases before.2 owned with old | ⟨same, mine, later, member, claims⟩
      · rcases first.2 old with older | ⟨same, mine, claims⟩
        · exact .inl older
        · exact .inr ⟨same, mine, operation, by simp, claims⟩
      · exact .inr ⟨same, mine, later, by simp [member], claims⟩

/-- Whoever is behind something after a task went on was so before, or is that task. -/
theorem carryOut_owns (engine : Engine) (task : Nat) (entry : EngineTask) (resumed : Resumption)
    (tasks : List EngineTask) {ident : String} {owner : Nat}
    (owns : (engine.carryOut task entry resumed tasks).Owns ident owner) :
    engine.Owns ident owner ∨ ident = entry.identifier.getD "" ∧ owner = task ∧
      ∃ operation ∈ resumed.operations, operation.claims = true := by
  have performed := performed_owns task (entry.identifier.getD "") resumed.operations
    { engine with
      tasks, entries := if resumed.reached.isSome then engine.entries + 1 else engine.entries }
    ident owner
  -- Key states and relays change with the operations, and loops are only added by them.
  cases owns with
  | down owned => exact (performed.1 owned).imp_left .down
  | relay owned => exact (performed.2 owned).imp_left .relay
  | loop index loop found named started =>
    rw [carryOut_loops] at found
    rcases (Operation.onLoops_evolves task (entry.identifier.getD "") resumed.operations
      engine.actionRepeater).origin index loop found with
      ⟨before, foundBefore, kept⟩ | ⟨⟨held, member⟩, same, mine⟩
    · exact .inl (.loop index before foundBefore (kept.same.symm.trans named)
        (kept.starter.symm.trans started))
    · exact .inr ⟨named.symm.trans same, started.symm.trans mine, _, member, rfl⟩

/-- Whoever is behind something of an identifier is a dispatch that acts under it. -/
def Owned (engine : Engine) : Prop :=
  ∀ ident task, engine.Owns ident task → ∃ entry, engine.tasks[task]? = some entry ∧
    entry.identifier = some ident ∧ entry.role.kind ≠ none

/-- Nobody is behind anything in a new engine. -/
theorem build_owned (relayEnabled : Bool) : (build relayEnabled).Owned := by
  intro ident task owns
  cases owns with
  | down owned => cases owned
  | relay owned => cases owned
  | loop index loop found => cases found

/-- A step that carries nothing out puts nobody behind anything. -/
theorem Steps.owns {next : Engine} {choice : EngineChoice}
    (stepped : engine.Steps host choice next) (called : ∀ request, choice ≠ .call request)
    (resumed : ∀ task answer, choice ≠ .resume task answer) {ident : String} {task : Nat}
    (owns : next.Owns ident task) : engine.Owns ident task := by
  -- Timers, registrations and stops carry out nothing for a task.
  have same : next.downBy = engine.downBy ∧ next.relayBy = engine.relayBy := by
    cases choice with
    | call request => exact absurd rfl (called request)
    | resume task answer => exact absurd rfl (resumed task answer)
    | tick loop =>
      obtain ⟨_, _, _, rfl | rfl⟩ := tickLoop_cases stepped <;> exact ⟨rfl, rfl⟩
    | loopEnd loop =>
      obtain ⟨_, _, rfl⟩ := Option.map_eq_some_iff.mp stepped
      exact ⟨rfl, rfl⟩
    | processEnd run =>
      obtain ⟨_, _, rfl⟩ := Option.map_eq_some_iff.mp stepped
      exact ⟨rfl, rfl⟩
    | register bindings | stopRepeats | releaseRelays =>
      cases stepped
      exact ⟨rfl, rfl⟩
  cases owns with
  | down owned => exact .down (same.1 ▸ owned)
  | relay owned => exact .relay (same.2 ▸ owned)
  | loop index loop found named started =>
    -- Only a task that moves starts a loop.
    rcases stepped.loops.origin index loop found with
      ⟨before, read, kept⟩ | ⟨answer, _, _, moved, _⟩
    · exact .loop index before read (kept.same.symm.trans named) (kept.starter.symm.trans started)
    · exact absurd moved (resumed _ answer)

/-- Every step leaves dispatches behind what is owned. -/
theorem Owned.step {next : Engine} {choice : EngineChoice} (owned : engine.Owned)
    (sound : engine.Sound) (named : ∀ entry ∈ engine.tasks, entry.Named)
    (stepped : engine.Steps host choice next) : next.Owned := by
  intro ident task owns
  -- An owner of before is still the dispatch it was.
  have kept : engine.Owns ident task → ∃ entry, next.tasks[task]? = some entry ∧
      entry.identifier = some ident ∧ entry.role.kind ≠ none := by
    intro before
    obtain ⟨entry, found, identified, dispatches⟩ := owned ident task before
    obtain ⟨after, read, same⟩ := stepped.task_kept sound found
    exact ⟨after, read, (same.identifier (by simp [identified])).trans identified,
      by rw [same.role]; exact dispatches⟩
  have identified : ∀ {entry : EngineTask}, entry.identifier ≠ none →
      entry.identifier = some (entry.identifier.getD "") := by
    intro entry known
    obtain ⟨name, same⟩ := Option.ne_none_iff_exists'.mp known
    simp [same]
  -- A new owner is the task that is started or moves, which acts under its identifier.
  cases choice with
  | call request =>
    cases stepped
    rcases engine.carryOut_owns _ _ _ _ owns with before | ⟨same, mine, operation, member, _⟩
    · exact kept before
    · subst mine same
      refine ⟨_, by simp [spawn], identified ?_, by simp [EngineTask.moveTo, TaskRole.kind]⟩
      obtain ⟨name, reached⟩ := Option.ne_none_iff_exists'.mp (beginDispatch_claims member)
      simp [EngineTask.moveTo, reached]
  | resume moved answer =>
    obtain ⟨entry, resumed, found, went, rfl⟩ := step_resume stepped
    rcases engine.carryOut_owns _ _ _ _ owns with before | ⟨same, mine, operation, member, claims⟩
    · exact kept before
    · subst mine same
      have mover := List.mem_of_getElem? found
      obtain ⟨dispatches, known⟩ :=
        resumeTask_claims (sound entry mover) (named entry mover) went member claims
      refine ⟨_, ?_, identified known, dispatches⟩
      simp only [advance, carryOut_tasks]
      exact List.getElem?_set_self (List.getElem?_eq_some_iff.mp found).1
  | tick loop | loopEnd loop | processEnd run | register bindings | stopRepeats | releaseRelays =>
    exact kept (stepped.owns (by simp) (by simp) owns)

end Engine

end Hotki

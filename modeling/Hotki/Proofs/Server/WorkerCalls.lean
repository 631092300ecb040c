import Hotki.Proofs.Server.WorkerProgress
import Hotki.Server.WorkerRuntime

/-! Which generation is having which message dispatched, beside the lanes of the pool. -/

namespace Hotki

open Base

namespace Worker

/-- The message a worker is having the engine dispatch. -/
def calling (worker : Worker) : Option WorkerMessage :=
  match worker.stage with
  | .processing message _ => some message
  | _ => none

/-- The message a worker has ready to take up, if it is about to do so. -/
def upNext (worker : Worker) : Option WorkerMessage :=
  match worker.stage with
  | .receiving | .draining => worker.queue.head?
  | _ => none

/-- A worker takes up the message it has ready, has one dispatched, or neither. -/
theorem step_calling {handoffHeld shutdown : Bool} {worker next : Worker}
    {processed : Option WorkerMessage}
    (taken : worker.step handoffHeld shutdown = some (next, processed)) :
    worker.calling = none ∧ next.calling = worker.upNext ∧ processed = none ∨
      worker.calling = processed ∧ processed ≠ none ∧ next.calling = none := by
  -- One case for each stage: two of them take a message up, and one returns from a call.
  unfold step at taken
  cases stage : worker.stage with
  | processing message late =>
    simp only [stage] at taken
    cases taken
    exact .inr ⟨by simp [calling, stage], by simp, rfl⟩
  | receiving | draining =>
    simp only [stage] at taken
    split at taken <;> cases taken <;> simp_all [calling, upNext]
  | acquiring =>
    simp only [stage] at taken
    split at taken <;> cases taken
    exact .inl ⟨by simp [calling, stage], by simp [calling, upNext, stage], rfl⟩
  | looping =>
    simp only [stage] at taken
    cases taken
    refine .inl ⟨by simp [calling, stage], ?_, rfl⟩
    cases shutdown <;> simp [calling, upNext, stage]
  | counting forced late =>
    simp only [stage] at taken
    cases taken
    refine .inl ⟨by simp [calling, stage], ?_, rfl⟩
    cases forced <;> cases late <;> simp [calling, upNext, stage, WorkerStage.resumed]
  | clearing late =>
    simp only [stage] at taken
    cases taken
    refine .inl ⟨by simp [calling, stage], ?_, rfl⟩
    cases late <;> simp [calling, upNext, stage, WorkerStage.resumed]
  | starting | closing | removing =>
    simp only [stage] at taken
    cases taken
    exact .inl ⟨by simp [calling, stage], by simp [calling, upNext, stage], rfl⟩
  | finished =>
    simp only [stage] at taken
    cases taken

end Worker

namespace WorkerPool

variable {pool next : WorkerPool} {choice : PoolChoice} {label : PoolLabel} {capacity : Nat}

/-- Whether a generation is having the engine dispatch a message. -/
def Calls (pool : WorkerPool) (generation : Nat) (message : WorkerMessage) : Prop :=
  (pool.tasks[generation]?).bind Worker.calling = some message

/-- The message a generation has ready to take up, if it is about to do so. -/
def upNext (pool : WorkerPool) (generation : Nat) : Option WorkerMessage :=
  (pool.tasks[generation]?).bind Worker.upNext

/-- What is known of a generation in a call. -/
theorem calls_iff {generation : Nat} {message : WorkerMessage} :
    pool.Calls generation message ↔ ∃ worker late,
      pool.tasks[generation]? = some worker ∧ worker.stage = .processing message late := by
  unfold Calls
  rw [Option.bind_eq_some_iff]
  constructor
  · rintro ⟨worker, found, calling⟩
    unfold Worker.calling at calling
    split at calling
    · rename_i other late stage
      cases calling
      exact ⟨worker, late, found, stage⟩
    · cases calling
  · rintro ⟨worker, late, found, stage⟩
    exact ⟨worker, found, by simp [Worker.calling, stage]⟩

/-- The ways in which a step of the pool can treat the calls of the engine. -/
inductive CallStep (pool : WorkerPool) (choice : PoolChoice) (label : PoolLabel)
    (next : WorkerPool) : Prop where
  /-- A generation without a call takes up a message. -/
  | takes (generation : Nat) (message : WorkerMessage) :
      next.takenUp choice = some (generation, message) → label = .internal →
      choice = .worker generation → pool.upNext generation = some message →
      (∀ other, ¬ pool.Calls generation other) →
      (∀ current other, next.Calls current other ↔
        pool.Calls current other ∨ current = generation ∧ other = message) →
      CallStep pool choice label next
  /-- The call of a generation returns. -/
  | returns (generation : Nat) (message : WorkerMessage) :
      next.takenUp choice = none → label = .process generation message →
      pool.Calls generation message →
      (∀ current other, next.Calls current other ↔
        pool.Calls current other ∧ current ≠ generation) →
      CallStep pool choice label next
  /-- No call begins or returns. -/
  | stays : next.takenUp choice = none →
      (∀ generation message, label ≠ .process generation message) →
      (∀ current other, next.Calls current other ↔ pool.Calls current other) →
      CallStep pool choice label next

/-- A generation has at most one call. -/
theorem Calls.unique {generation : Nat} {message other : WorkerMessage}
    (calls : pool.Calls generation message) (also : pool.Calls generation other) :
    other = message :=
  Option.some.inj (also.symm.trans calls)

/-- A task that does not move by itself keeps its call, and one without a call gets none. -/
theorem Evolved.calls_of_other (evolved : pool.Evolved choice label next) {generation : Nat}
    (other : choice ≠ .worker generation) (message : WorkerMessage) :
    next.Calls generation message ↔ pool.Calls generation message := by
  -- Whoever else moves at most touches the task, or times out a worker without a call.
  have kept : ∀ {worker changed : Worker}, pool.Became choice label generation worker changed →
      ∀ late, changed.stage = .processing message late ↔
        worker.stage = .processing message late := by
    intro worker changed became late
    rcases became.how with ⟨_, touched | fired⟩ | ⟨same, _⟩
    · rw [touched.stage]
    · unfold Worker.timeOut at fired
      split at fired
      · rename_i idle
        cases fired
        simp [idle.1]
      · cases fired
    · exact absurd same other
  rw [calls_iff, calls_iff]
  constructor
  · rintro ⟨changed, late, read, stage⟩
    cases found : pool.tasks[generation]? with
    -- A generation spawned in the step still waits for its lock.
    | none =>
      have acquiring := (evolved.fresh read found).2.1
      rw [acquiring] at stage
      cases stage
    | some worker =>
      obtain ⟨changed', read', became⟩ := evolved.kept found
      cases read.symm.trans read'
      exact ⟨worker, late, rfl, (kept became late).mp stage⟩
  · rintro ⟨worker, late, found, stage⟩
    obtain ⟨changed, read, became⟩ := evolved.kept found
    exact ⟨changed, late, read, (kept became late).mpr stage⟩

/-- A step whose choice is no worker takes nothing up. -/
theorem takenUp_of_other (other : ∀ generation, choice ≠ .worker generation) :
    next.takenUp choice = none := by
  cases choice with
  | worker generation => exact absurd rfl (other generation)
  | _ => rfl

/-- What a generation has taken up is the call it has. -/
theorem takenUp_worker (next : WorkerPool) (generation : Nat) : next.takenUp (.worker generation) =
    ((next.tasks[generation]?).bind Worker.calling).map (Prod.mk generation) := by
  cases found : next.tasks[generation]? with
  | none => simp [takenUp, found]
  | some worker => cases stage : worker.stage <;> simp [takenUp, found, Worker.calling, stage]

/-- A step of a worker task treats the calls in one of these ways. -/
theorem workerStep_calls {generation : Nat} (chained : pool.Chained)
    (dispatching : pool.Dispatching)
    (taken : pool.step capacity (.worker generation) = some (next, label)) :
    pool.CallStep (.worker generation) label next := by
  have evolved := step_evolved chained dispatching taken
  -- Whoever does not move keeps its call, so only the moving generation is looked at.
  have others : ∀ current, current ≠ generation → ∀ message,
      next.Calls current message ↔ pool.Calls current message := by
    intro current different
    exact evolved.calls_of_other fun same => different (PoolChoice.worker.inj same).symm
  simp only [step, workerStep] at taken
  obtain ⟨worker, found, taken⟩ := Option.bind_eq_some_iff.mp taken
  obtain ⟨⟨changed, processed⟩, went, labelled⟩ := Option.bind_eq_some_iff.mp taken
  obtain ⟨changed', now, became⟩ := evolved.kept found
  have same : changed' = changed := by
    rcases became.how with ⟨other, _⟩ | ⟨_, processed', went', _⟩
    · exact absurd rfl other
    · cases went.symm.trans went'
      rfl
  subst same
  have before : (pool.tasks[generation]?).bind Worker.calling = worker.calling := by
    rw [found, Option.bind_some]
  have after : (next.tasks[generation]?).bind Worker.calling = changed'.calling := by
    rw [now, Option.bind_some]
  have takenUp := next.takenUp_worker generation
  rw [after] at takenUp
  rcases Worker.step_calling went with ⟨idle, calls, rfl⟩ | ⟨calls, processes, idle⟩
  · obtain rfl : label = .internal := by
      cases labelled
      rfl
    rw [calls] at after takenUp
    have free : ∀ message, ¬ pool.Calls generation message := by
      intro message call
      rw [Calls, before, idle] at call
      cases call
    cases ready : worker.upNext with
    | none =>
      rw [ready] at after takenUp
      refine .stays takenUp (by simp) fun current message => ?_
      by_cases same : current = generation
      · subst same
        refine iff_of_false (fun call => ?_) (free message)
        rw [Calls, after] at call
        cases call
      · exact others current same message
    | some message =>
      rw [ready] at after takenUp
      refine .takes generation message takenUp rfl rfl ?_ free fun current other => ?_
      · rw [upNext, found, Option.bind_some, ready]
      · by_cases same : current = generation
        · subst same
          rw [Calls, after, Option.some.injEq]
          simp [free other, eq_comm]
        · rw [others current same other]
          simp [same]
  · obtain ⟨message, rfl⟩ := Option.ne_none_iff_exists'.mp processes
    obtain rfl : label = .process generation message := by
      cases labelled
      rfl
    rw [idle] at after takenUp
    refine .returns generation message takenUp rfl (before.trans calls) fun current other => ?_
    by_cases same : current = generation
    · subst same
      refine iff_of_false (fun call => ?_) fun call => call.2 rfl
      rw [Calls, after] at call
      cases call
    · rw [others current same other]
      simp [same]

/-- Every step of the pool treats the calls in one of these ways. -/
theorem step_calls (chained : pool.Chained) (dispatching : pool.Dispatching)
    (taken : pool.step capacity choice = some (next, label)) : pool.CallStep choice label next := by
  by_cases moves : ∃ generation, choice = .worker generation
  · obtain ⟨generation, rfl⟩ := moves
    exact workerStep_calls chained dispatching taken
  · have evolved := step_evolved chained dispatching taken
    have other : ∀ generation, choice ≠ .worker generation := fun generation same =>
      moves ⟨generation, same⟩
    refine .stays (takenUp_of_other other) (fun generation message same => ?_)
      fun current message => evolved.calls_of_other (other current) message
    -- Only a worker's own step has the engine dispatch something.
    subst same
    cases choice with
    | worker generation => exact other generation rfl
    | dispatcher =>
      have none_ := dispatcherStep_processed taken message.id
      simp [PoolLabel.processed] at none_
    | arrive event =>
      simp only [step] at taken
      split at taken <;> cases taken
    | timeout generation =>
      simp only [step] at taken
      obtain ⟨_, _, taken⟩ := Option.bind_eq_some_iff.mp taken
      obtain ⟨_, _, taken⟩ := Option.bind_eq_some_iff.mp taken
      cases taken
    | shutdown => cases taken

end WorkerPool

end Hotki

import Mathlib.Data.List.Infix
import Hotki.Base.Fair
import Hotki.Proofs.Server.Workers

/-! Under a fair scheduler, every message a worker generation accepts is processed. -/

namespace Hotki

open Base

namespace Worker

variable {worker next : Worker} {processed : Option WorkerMessage} {held shutdown : Bool}

/-- A change that leaves a task where it stands, with no fewer messages. -/
structure Touched (worker next : Worker) : Prop where
  id : next.id = worker.id
  handoff : next.handoff = worker.handoff
  stage : next.stage = worker.stage
  closed : next.closed = worker.closed
  grown : worker.content ≠ [] → next.content ≠ []

/-- Changing nothing touches a task. -/
theorem Touched.refl (worker : Worker) : worker.Touched worker :=
  ⟨rfl, rfl, rfl, rfl, fun held => held⟩

/-- A change of the counters touches a task, and so does one more message. -/
theorem Touched.of_parts (id : next.id = worker.id) (handoff : next.handoff = worker.handoff)
    (stage : next.stage = worker.stage) (closed : next.closed = worker.closed)
    {more : List WorkerMessage} (queue : next.queue = worker.queue ++ more) :
    worker.Touched next := by
  refine ⟨id, handoff, stage, closed, ?_⟩
  unfold content
  rw [stage, queue]
  split <;> simp_all

end Worker

/-- How many steps a task at a stage takes at most until it processes a message it has. -/
def WorkerStage.distance : WorkerStage → Nat
  | .processing _ _ | .removing | .finished => 0
  | .receiving | .draining => 1
  | .closing => 2
  | .looping => 3
  | .clearing _ | .starting => 4
  | .counting _ _ => 5
  | .acquiring => 10

namespace Worker

variable {worker next : Worker} {processed : Option WorkerMessage} {held shutdown : Bool}

/-- A started task that has a message can move. -/
theorem step_ne_none (started : worker.stage ≠ .acquiring) (stage : worker.stage ≠ .finished)
    (receiving : worker.stage = .receiving → worker.queue ≠ []) :
    worker.step held shutdown ≠ none := by
  -- Every stage but the waiting ones has a step of its own.
  unfold step
  cases at_ : worker.stage with
  | acquiring => exact absurd at_ started
  | finished => exact absurd at_ stage
  | receiving =>
    cases queued : worker.queue with
    | nil => exact absurd queued (receiving at_)
    | cons message queue => simp
  | draining => cases worker.queue <;> simp
  | starting | looping | processing | counting | clearing | closing | removing => simp

/-- A started task with a message processes one, or comes nearer to it. -/
theorem step_nearer (taken : worker.step held shutdown = some (next, processed))
    {generation : Nat} (sound : worker.Sound generation) (started : worker.stage ≠ .acquiring) (content : worker.content ≠ []) :
    processed ≠ none ∨ next.stage ≠ .acquiring ∧ next.stage.distance < worker.stage.distance := by
  -- The distance to the next message falls with every stage that passes none.
  unfold step at taken
  cases at_ : worker.stage with
  | acquiring => exact absurd at_ started
  | starting | closing =>
    simp only [at_] at taken
    cases taken
    exact .inr ⟨by simp, by simp [WorkerStage.distance]⟩
  | looping =>
    simp only [at_] at taken
    cases taken
    cases shutdown <;> exact .inr ⟨by simp, by simp [WorkerStage.distance]⟩
  | receiving =>
    simp only [at_] at taken
    split at taken <;> cases taken
    exact .inr ⟨by simp, by simp [WorkerStage.distance]⟩
  | processing message draining =>
    simp only [at_] at taken
    cases taken
    exact .inl (by simp)
  | counting forcedRelease draining =>
    simp only [at_] at taken
    cases taken
    cases forcedRelease <;> cases draining <;> exact .inr ⟨by simp [WorkerStage.resumed], by simp [WorkerStage.distance, WorkerStage.resumed]⟩
  | clearing draining =>
    simp only [at_] at taken
    cases taken
    cases draining <;> exact .inr ⟨by simp [WorkerStage.resumed], by simp [WorkerStage.distance, WorkerStage.resumed]⟩
  | draining =>
    simp only [at_] at taken
    split at taken
    -- A worker that has messages does not find its queue empty.
    · rename_i empty
      rw [content_of_outside (by rw [at_]; rfl), empty] at content
      exact absurd rfl content
    · cases taken
      exact .inr ⟨by simp, by simp [WorkerStage.distance]⟩
  | removing =>
    simp only [at_] at taken
    cases taken
    rw [content_of_outside (by rw [at_]; rfl), sound.ended (.inl at_)] at content
    exact absurd rfl content
  | finished =>
    simp only [at_] at taken
    cases taken

/-- A sealed task processes a message, ends, or comes nearer to its end. -/
theorem step_sealed (taken : worker.step held shutdown = some (next, processed))
    (sealed : worker.stage.sealed = true) :
    processed ≠ none ∨ next.stage = .finished ∨
      next.stage.sealed = true ∧ next.stage ≠ .finished ∧
        next.stage.distance < worker.stage.distance := by
  -- A sealed task takes no message from outside, so its queue only shrinks.
  unfold step at taken
  cases at_ : worker.stage with
  | acquiring | starting | closing | looping | receiving =>
    rw [at_] at sealed
    cases sealed
  | processing message draining =>
    simp only [at_] at taken
    cases taken
    exact .inl (by simp)
  | counting forcedRelease draining =>
    rw [at_] at sealed
    simp only [at_] at taken
    cases taken
    cases draining <;> cases sealed
    cases forcedRelease <;> exact .inr (.inr ⟨rfl, by simp [WorkerStage.resumed], by simp [WorkerStage.distance, WorkerStage.resumed]⟩)
  | clearing draining =>
    rw [at_] at sealed
    simp only [at_] at taken
    cases taken
    cases draining <;> cases sealed
    exact .inr (.inr ⟨rfl, by simp [WorkerStage.resumed], by simp [WorkerStage.distance, WorkerStage.resumed]⟩)
  | draining =>
    simp only [at_] at taken
    split at taken <;> cases taken <;>
      exact .inr (.inr ⟨rfl, by simp, by simp [WorkerStage.distance]⟩)
  | removing =>
    simp only [at_] at taken
    cases taken
    exact .inr (.inl rfl)
  | finished =>
    simp only [at_] at taken
    cases taken

end Worker

namespace WorkerPool

variable {pool next : WorkerPool} {choice : PoolChoice} {label : PoolLabel}

/-- What a step of the pool makes of one task. -/
structure Became (pool : WorkerPool) (choice : PoolChoice) (label : PoolLabel) (generation : Nat)
    (worker next : Worker) : Prop where
  id : next.id = worker.id
  handoff : next.handoff = worker.handoff
  how : (choice ≠ .worker generation ∧ (worker.Touched next ∨ worker.timeOut = some next)) ∨
    choice = .worker generation ∧ ∃ processed,
      worker.step (pool.handoffHeld worker.handoff) pool.shutdown = some (next, processed) ∧
        label.processed worker.id = processed.toList

/-- What a step of the pool makes of its tasks and locks. -/
structure Evolved (pool : WorkerPool) (choice : PoolChoice) (label : PoolLabel)
    (next : WorkerPool) : Prop where
  kept : ∀ {generation : Nat} {worker : Worker}, pool.tasks[generation]? = some worker →
    ∃ changed, next.tasks[generation]? = some changed ∧
      pool.Became choice label generation worker changed
  /-- A new task waits for a lock of its id, or for one of its own. -/
  fresh : ∀ {generation : Nat} {worker : Worker}, next.tasks[generation]? = some worker →
    pool.tasks[generation]? = none → generation = pool.tasks.length ∧ worker.stage = .acquiring ∧
      (worker.handoff = pool.handoffs ∧ pool.handoffs < next.handoffs ∨
        ∃ other : Nat, ∃ task, pool.tasks[other]? = some task ∧ task.id = worker.id ∧
          task.handoff = worker.handoff)
  handoffs : pool.handoffs ≤ next.handoffs

/-- A task another party leaves alone became itself. -/
theorem Became.refl {generation : Nat} (other : choice ≠ .worker generation) (worker : Worker) :
    pool.Became choice label generation worker worker :=
  ⟨rfl, rfl, .inl ⟨other, .inl (.refl worker)⟩⟩

/-- A step that leaves the tasks alone. -/
theorem Evolved.of_same (other : ∀ generation, choice ≠ .worker generation)
    (tasks : next.tasks = pool.tasks) (handoffs : next.handoffs = pool.handoffs) :
    pool.Evolved choice label next where
  kept := fun {generation worker} found =>
    ⟨worker, by rw [tasks, found], .refl (other generation) worker⟩
  fresh := by
    intro generation worker read absent
    rw [tasks, absent] at read
    cases read
  handoffs := Nat.le_of_eq handoffs.symm

/-- A step that changes one task. -/
theorem Evolved.of_update {generation : Nat} {change : Worker → Worker} {worker : Worker}
    (found : pool.tasks[generation]? = some worker)
    (became : pool.Became choice label generation worker (change worker))
    (other : ∀ sibling, choice = .worker sibling → sibling = generation)
    (tasks : next.tasks = (pool.update generation change).tasks)
    (handoffs : next.handoffs = pool.handoffs) : pool.Evolved choice label next where
  -- The changed task became what the step made of it, and the others are as they were.
  kept := by
    intro sibling task read
    rw [tasks, getElem?_update, read]
    split
    · rename_i same
      subst same
      rw [found] at read
      cases read
      exact ⟨_, rfl, became⟩
    · rename_i apart
      exact ⟨task, rfl, .refl (fun chosen => apart (other sibling chosen).symm) task⟩
  fresh := by
    intro sibling task read absent
    rw [tasks, getElem?_update, absent] at read
    split at read <;> cases read
  handoffs := Nat.le_of_eq handoffs.symm

/-- A step of another party that spawns a task. -/
theorem Evolved.of_spawn (other : ∀ generation, choice ≠ .worker generation) (id : UInt32)
    (handoff : Option Nat)
    (inherited : ∀ lock, handoff = some lock → ∃ sibling : Nat, ∃ task,
      pool.tasks[sibling]? = some task ∧ task.id = id ∧ task.handoff = lock)
    (tasks : next.tasks = (pool.spawnWorker id handoff).tasks)
    (handoffs : next.handoffs = (pool.spawnWorker id handoff).handoffs) :
    pool.Evolved choice label next where
  -- The spawned task is the only new one.
  kept := by
    intro generation worker found
    rw [tasks]
    exact ⟨worker, getElem?_spawnWorker found, .refl (other generation) worker⟩
  fresh := by
    intro generation worker read absent
    rw [tasks] at read
    rcases spawnWorker_cases read with old | ⟨last, rfl⟩
    · rw [absent] at old
      cases old
    · refine ⟨last, rfl, ?_⟩
      cases handoff with
      | none => exact .inl ⟨rfl, by simp [handoffs, spawnWorker]⟩
      | some lock => exact .inr (inherited lock rfl)
  handoffs := by
    rw [handoffs]
    simp only [spawnWorker]
    split <;> omega

/-- A change of a task's counters, or one more message for it, by another party. -/
theorem Evolved.of_touch {generation : Nat} {change : Worker → Worker}
    (other : ∀ sibling, choice ≠ .worker sibling)
    (touched : ∀ worker : Worker, worker.Touched (change worker))
    (tasks : next.tasks = (pool.update generation change).tasks)
    (handoffs : next.handoffs = pool.handoffs) : pool.Evolved choice label next := by
  cases found : pool.tasks[generation]? with
  | none =>
    refine .of_same other (tasks.trans ?_) handoffs
    -- There is no such task to change.
    refine List.ext_getElem? fun index => ?_
    rw [getElem?_update]
    split
    · rename_i same
      rw [← same, found]
      rfl
    · rfl
  | some worker =>
    exact .of_update found ⟨(touched worker).id, (touched worker).handoff,
      .inl ⟨other generation, .inl (touched worker)⟩⟩
      (fun sibling chosen => absurd chosen (other sibling)) tasks handoffs

/-- The dispatcher leaves every task where it stands, and spawns under a lock of the same id. -/
theorem dispatcherStep_evolved {capacity : Nat} (dispatching : pool.Dispatching)
    (taken : pool.dispatcherStep capacity = some (next, label)) :
    pool.Evolved .dispatcher label next := by
  -- Counters and flags are not what the order of messages depends on.
  have touched : ∀ (change : Nat → Nat) (flag : Bool → Bool) (worker : Worker), worker.Touched
      { worker with pending := change worker.pending, releasePending := flag worker.releasePending } :=
    fun _ _ worker => @Worker.Touched.of_parts worker _ rfl rfl rfl rfl []
      (List.append_nil _).symm
  unfold dispatcherStep at taken
  cases stage : pool.dispatcher with
  | idle => simp [stage] at taken
  | lookingUp event retry =>
    simp only [stage] at taken
    split at taken <;> cases taken
    · exact .of_same nofun rfl rfl
    · exact .of_spawn nofun event.id none nofun rfl rfl
  | checkingClosed event retry current =>
    simp only [stage] at taken
    obtain ⟨task, found, taken⟩ := Option.bind_eq_some_iff.mp taken
    split at taken <;> cases taken <;> exact .of_same nofun rfl rfl
  | loadingPending event retry current =>
    simp only [stage] at taken
    obtain ⟨task, found, taken⟩ := Option.bind_eq_some_iff.mp taken
    split at taken
    · split at taken <;> cases taken <;> exact .of_same nofun rfl rfl
    · cases taken
      exact .of_same nofun rfl rfl
  | swappingRelease event retry current =>
    simp only [stage] at taken
    obtain ⟨task, found, taken⟩ := Option.bind_eq_some_iff.mp taken
    split at taken <;> cases taken
    · exact .of_same nofun rfl rfl
    · exact .of_touch nofun (touched id fun _ => true) rfl rfl
  | addingPending event retry current message =>
    simp only [stage] at taken
    cases taken
    exact .of_touch nofun (touched (· + 1) id) rfl rfl
  | sending event retry current message =>
    simp only [stage] at taken
    obtain ⟨task, found, taken⟩ := Option.bind_eq_some_iff.mp taken
    split at taken <;> cases taken
    · exact .of_same nofun rfl rfl
    · refine .of_touch nofun (fun worker => ?_) rfl rfl
      exact .of_parts rfl rfl rfl rfl rfl
  | subtractingPending event retry current message =>
    simp only [stage] at taken
    cases message <;> cases taken <;> exact .of_touch nofun (touched (· - 1) id) rfl rfl
  | clearingRelease event retry current =>
    simp only [stage] at taken
    cases taken
    exact .of_touch nofun (touched id fun _ => false) rfl rfl
  | replacing event current =>
    simp only [stage] at taken
    obtain ⟨closed, found, taken⟩ := Option.bind_eq_some_iff.mp taken
    cases taken
    -- The closed generation is one of the event's id.
    obtain ⟨newest, read, owner, _⟩ := (dispatching.held (by rw [stage]; rfl)).newest
    rw [found] at read
    cases read
    have spawned : ∀ {table : WorkerPool},
        table.tasks = (pool.spawnWorker event.id (some closed.handoff)).tasks →
        table.handoffs = (pool.spawnWorker event.id (some closed.handoff)).handoffs →
        pool.Evolved .dispatcher .internal table := by
      intro table tasks handoffs
      refine .of_spawn nofun event.id (some closed.handoff) (fun lock same => ?_) tasks handoffs
      cases same
      exact ⟨current, closed, found, owner, rfl⟩
    unfold replaceClosedGeneration
    split
    · exact spawned rfl rfl
    · split
      · exact spawned rfl rfl
      · exact .of_same nofun rfl rfl
  | removing event current =>
    simp only [stage] at taken
    cases taken
    refine .of_same nofun (removeGeneration_tasks pool event.id current).1 ?_
    simp only [removeGeneration]
    split <;> rfl

/-- Every step of the pool changes its tasks as described. -/
theorem step_evolved {capacity : Nat} (chained : pool.Chained) (dispatching : pool.Dispatching)
    (taken : pool.step capacity choice = some (next, label)) : pool.Evolved choice label next := by
  -- One case for each party that moves.
  cases choice with
  | arrive event =>
    simp only [step] at taken
    split at taken <;> cases taken
    exact .of_same (by simp) rfl rfl
  | dispatcher => exact dispatcherStep_evolved dispatching taken
  -- A worker's own step is the only one that processes.
  | worker generation =>
    simp only [step, workerStep] at taken
    obtain ⟨worker, found, taken⟩ := Option.bind_eq_some_iff.mp taken
    obtain ⟨⟨changed, processed⟩, stepped, taken⟩ := Option.bind_eq_some_iff.mp taken
    have moved := Worker.step_moved stepped
    simp only [Option.some.injEq, Prod.mk.injEq] at taken
    obtain ⟨rfl, rfl⟩ := taken
    have same : changed.id = worker.id ∧ changed.handoff = worker.handoff := by
      cases moved <;> exact ⟨rfl, rfl⟩
    refine @Evolved.of_update pool _ _ _ generation (fun _ => changed) worker found ⟨same.1, same.2,
      .inr ⟨rfl, processed, stepped, ?_⟩⟩ ?_ ?_ ?_
    · cases processed with
      | none => rfl
      | some message =>
        have owner : message.id = worker.id :=
          ((chained.sound found).owned message (by simp [moved.content])).1
        simp [PoolLabel.processed, owner]
    · intro sibling chosen
      cases chosen
      rfl
    · simp only [update, removeGeneration]
      split
      · split <;> rfl
      · rfl
    · simp only [update, removeGeneration]
      split
      · split <;> rfl
      · rfl
  | timeout generation =>
    simp only [step] at taken
    obtain ⟨worker, found, taken⟩ := Option.bind_eq_some_iff.mp taken
    obtain ⟨changed, fired, taken⟩ := Option.bind_eq_some_iff.mp taken
    cases taken
    have same : changed.id = worker.id ∧ changed.handoff = worker.handoff := by
      cases Worker.timeOut_moved fired <;> exact ⟨rfl, rfl⟩
    exact @Evolved.of_update pool _ _ _ generation (fun _ => changed) worker found
      ⟨same.1, same.2, .inl ⟨by simp, .inr fired⟩⟩ (by simp) rfl rfl
  | shutdown =>
    cases taken
    exact .of_same (by simp) rfl rfl

/-- The handoff locks: each was made, serves one id, and has one owner at a time. -/
structure Locked (pool : WorkerPool) : Prop where
  made : ∀ {generation : Nat} {worker : Worker}, pool.tasks[generation]? = some worker →
    worker.handoff < pool.handoffs
  family : ∀ {left right : Nat} {first second : Worker}, pool.tasks[left]? = some first →
    pool.tasks[right]? = some second → first.handoff = second.handoff → first.id = second.id
  exclusive : ∀ {left right : Nat} {first second : Worker}, pool.tasks[left]? = some first →
    pool.tasks[right]? = some second → first.handoff = second.handoff →
    first.holdsHandoff = true → second.holdsHandoff = true → left = right

/-- A lock is held when some task owns it. -/
theorem handoffHeld_iff (pool : WorkerPool) (handoff : Nat) :
    pool.handoffHeld handoff = true ↔ ∃ generation : Nat, ∃ worker : Worker,
      pool.tasks[generation]? = some worker ∧ worker.holdsHandoff = true ∧
        worker.handoff = handoff := by
  simp only [handoffHeld, List.any_eq_true, Bool.and_eq_true, beq_iff_eq]
  constructor
  · rintro ⟨worker, member, holds⟩
    obtain ⟨generation, found⟩ := List.getElem?_of_mem member
    exact ⟨generation, worker, found, holds⟩
  · rintro ⟨generation, worker, found, holds⟩
    exact ⟨worker, List.mem_of_getElem? found, holds⟩

/-- A task that owns its lock after a step owned it before, or took it while it was free. -/
theorem Became.holds {generation : Nat} {worker changed : Worker}
    (became : pool.Became choice label generation worker changed)
    (holds : changed.holdsHandoff = true) : worker.holdsHandoff = true ∨
      choice = .worker generation ∧ worker.stage = .acquiring ∧
        pool.handoffHeld worker.handoff = false := by
  -- A timeout and a touch leave the lock with its owner, and only acquiring takes one.
  rcases became.how with ⟨_, touched | fired⟩ | ⟨chosen, processed, stepped, _⟩
  · rw [Worker.holdsHandoff, touched.stage] at holds
    exact .inl holds
  · unfold Worker.timeOut at fired
    split at fired
    · rename_i idle
      exact .inl (by simp [Worker.holdsHandoff, idle.1])
    · cases fired
  · by_cases acquiring : worker.stage = .acquiring
    · refine .inr ⟨chosen, acquiring, ?_⟩
      by_contra held
      simp [Worker.step, acquiring, held] at stepped
    · refine .inl ?_
      have going : worker.stage ≠ .finished := by
        intro finished
        simp [Worker.step, finished] at stepped
      simp [Worker.holdsHandoff, acquiring, going]

/-- A task after a step has the id and the lock of one before, or it alone has a new lock. -/
theorem Evolved.ancestor (evolved : pool.Evolved choice label next) {generation : Nat}
    {changed : Worker} (read : next.tasks[generation]? = some changed) :
    (∃ other : Nat, ∃ worker, pool.tasks[other]? = some worker ∧ worker.id = changed.id ∧
      worker.handoff = changed.handoff) ∨
    generation = pool.tasks.length ∧ changed.handoff = pool.handoffs ∧
      pool.handoffs < next.handoffs := by
  -- A task was there before, or it was spawned in the step.
  cases found : pool.tasks[generation]? with
  | none =>
    obtain ⟨last, _, made | inherited⟩ := evolved.fresh read found
    · exact .inr ⟨last, made⟩
    · exact .inl inherited
  | some worker =>
    obtain ⟨other, present, became⟩ := evolved.kept found
    rw [read] at present
    cases present
    exact .inl ⟨generation, worker, found, became.id.symm, became.handoff.symm⟩

/-- An owner of a lock after a step owned it before, or took it while it was free. -/
theorem Evolved.holder (evolved : pool.Evolved choice label next) {generation : Nat}
    {changed : Worker} (read : next.tasks[generation]? = some changed)
    (holds : changed.holdsHandoff = true) : ∃ worker, pool.tasks[generation]? = some worker ∧
      worker.handoff = changed.handoff ∧ (worker.holdsHandoff = true ∨
        choice = .worker generation ∧ worker.stage = .acquiring ∧
          pool.handoffHeld worker.handoff = false) := by
  -- A spawned task waits for its lock, so an owner was there before.
  cases found : pool.tasks[generation]? with
  | none =>
    have waiting := (evolved.fresh read found).2.1
    simp [Worker.holdsHandoff, waiting] at holds
  | some worker =>
    obtain ⟨other, present, became⟩ := evolved.kept found
    rw [read] at present
    cases present
    exact ⟨worker, rfl, became.handoff.symm, became.holds holds⟩

/-- A step of the pool keeps its locks. -/
theorem Locked.evolved (locked : pool.Locked) (evolved : pool.Evolved choice label next) :
    next.Locked where
  made := by
    intro generation changed read
    have grown := evolved.handoffs
    rcases evolved.ancestor read with ⟨other, worker, found, _, same⟩ | ⟨_, made, more⟩
    · have bound := locked.made found
      omega
    · omega
  -- A lock is shared by generations of one id; a new lock has one owner.
  family := by
    intro left right first second readFirst readSecond same
    rcases evolved.ancestor readFirst with ⟨_, elder, foundFirst, id, lock⟩ | ⟨last, made, _⟩
    · rcases evolved.ancestor readSecond with ⟨_, other, foundSecond, id', lock'⟩ | ⟨_, made, _⟩
      · rw [← id, ← id']
        exact locked.family foundFirst foundSecond (lock.trans (same.trans lock'.symm))
      · have bound := locked.made foundFirst
        omega
    · rcases evolved.ancestor readSecond with ⟨_, other, foundSecond, _, lock'⟩ | ⟨last', _, _⟩
      · have bound := locked.made foundSecond
        omega
      · rw [last] at readFirst
        rw [last', readFirst] at readSecond
        cases readSecond
        rfl
  exclusive := by
    intro left right first second readFirst readSecond same holdsFirst holdsSecond
    obtain ⟨elder, foundFirst, lock, before⟩ := evolved.holder readFirst holdsFirst
    obtain ⟨other, foundSecond, lock', before'⟩ := evolved.holder readSecond holdsSecond
    have shared : elder.handoff = other.handoff := lock.trans (same.trans lock'.symm)
    -- A lock that one of them took was free, so the other cannot have owned it.
    rcases before with held | ⟨chosen, _, free⟩
    · rcases before' with held' | ⟨_, _, free⟩
      · exact locked.exclusive foundFirst foundSecond shared held held'
      · have owned := (handoffHeld_iff pool other.handoff).mpr ⟨left, elder, foundFirst, held, shared⟩
        rw [free] at owned
        cases owned
    · rcases before' with held' | ⟨chosen', _, _⟩
      · have owned := (handoffHeld_iff pool elder.handoff).mpr
          ⟨right, other, foundSecond, held', shared.symm⟩
        rw [free] at owned
        cases owned
      · rw [chosen] at chosen'
        exact PoolChoice.worker.inj chosen'

/-- The worker step that brings a message of an id nearer to being processed, and how near it is.

A waiting task is served by the owner of its lock first, then by itself. -/
inductive Serving (pool : WorkerPool) (id : UInt32) : Nat → PoolChoice → Prop where
  | started {generation : Nat} {worker : Worker} (found : pool.tasks[generation]? = some worker)
      (owner : worker.id = id) (content : worker.content ≠ [])
      (started : worker.stage ≠ .acquiring) :
      pool.Serving id worker.stage.distance (.worker generation)
  | free {generation : Nat} {worker : Worker} (found : pool.tasks[generation]? = some worker)
      (owner : worker.id = id) (content : worker.content ≠ [])
      (waiting : worker.stage = .acquiring) (free : pool.handoffHeld worker.handoff = false) :
      pool.Serving id 10 (.worker generation)
  | behind {generation predecessor : Nat} {worker holder : Worker}
      (found : pool.tasks[generation]? = some worker) (owner : worker.id = id)
      (content : worker.content ≠ []) (waiting : worker.stage = .acquiring)
      (ahead : pool.tasks[predecessor]? = some holder) (holds : holder.holdsHandoff = true)
      (shared : holder.handoff = worker.handoff) (sealed : holder.stage.sealed = true) :
      pool.Serving id (11 + holder.stage.distance) (.worker predecessor)

/-- What holds of every pool reached. -/
structure Orderly (pool : WorkerPool) : Prop where
  chained : pool.Chained
  dispatching : pool.Dispatching
  locked : pool.Locked

/-- An owner of the lock a task is waiting for is an older, closed generation of its id. -/
theorem Orderly.ahead (orderly : pool.Orderly) {generation predecessor : Nat}
    {worker holder : Worker} (found : pool.tasks[generation]? = some worker)
    (waiting : worker.stage = .acquiring) (ahead : pool.tasks[predecessor]? = some holder)
    (holds : holder.holdsHandoff = true) (shared : holder.handoff = worker.handoff) :
    holder.id = worker.id ∧ holder.stage.sealed = true := by
  -- The owner of the lock came before, as generations are numbered in turn.
  have sameId := orderly.locked.family ahead found shared
  refine ⟨sameId, ?_⟩
  rw [← (orderly.chained.sound ahead).closed]
  rcases Nat.lt_trichotomy predecessor generation with before | same | after
  · exact (orderly.chained.before before ahead found sameId).1
  · subst same
    rw [found] at ahead
    cases ahead
    simp [Worker.holdsHandoff, waiting] at holds
  · -- A younger generation exists only once this one has closed.
    have closed := (orderly.chained.before after found ahead sameId.symm).1
    exact absurd waiting (orderly.chained.started found closed)

/-- While an id has a message in its lane, some worker step serves it. -/
theorem Orderly.serving (orderly : pool.Orderly) {id : UInt32} (queued : pool.lane id ≠ []) :
    ∃ rank choice, pool.Serving id rank choice := by
  -- The message is in some worker's content, and that worker or the one ahead of it can move.
  obtain ⟨message, member⟩ := List.exists_mem_of_ne_nil _ queued
  obtain ⟨worker, present, inside⟩ := List.mem_flatMap.mp member
  obtain ⟨generation, found⟩ := List.getElem?_of_mem present
  split at inside
  · rename_i owner
    have content := List.ne_nil_of_mem inside
    by_cases waiting : worker.stage = .acquiring
    · cases held : pool.handoffHeld worker.handoff with
      | false => exact ⟨_, _, .free found owner content waiting held⟩
      | true =>
        obtain ⟨predecessor, holder, ahead, holds, shared⟩ := (handoffHeld_iff pool _).mp held
        exact ⟨_, _, .behind found owner content waiting ahead holds shared
          (orderly.ahead found waiting ahead holds shared).2⟩
    · exact ⟨_, _, .started found owner content waiting⟩
  · cases inside

/-- The step that serves an id is one a worker can take. -/
theorem Orderly.can_serve (orderly : pool.Orderly) (capacity : Nat) {id : UInt32} {rank : Nat}
    (serving : pool.Serving id rank choice) :
    (∃ generation, choice = .worker generation) ∧ pool.step capacity choice ≠ none := by
  -- A worker that can move moves the pool.
  have moves : ∀ {generation : Nat} {worker : Worker}, pool.tasks[generation]? = some worker →
      worker.step (pool.handoffHeld worker.handoff) pool.shutdown ≠ none →
      pool.step capacity (.worker generation) ≠ none := by
    intro generation worker found able stuck
    obtain ⟨moved, stepped⟩ := Option.ne_none_iff_exists'.mp able
    simp [step, workerStep, found, stepped] at stuck
  cases serving with
  | started found owner content started =>
    refine ⟨⟨_, rfl⟩, moves found (Worker.step_ne_none started ?_ ?_)⟩
    · intro finished
      rw [Worker.content_of_outside (by rw [finished]; rfl),
        (orderly.chained.sound found).ended (.inr finished)] at content
      exact content rfl
    · intro receiving
      rwa [Worker.content_of_outside (by rw [receiving]; rfl)] at content
  | free found owner content waiting free =>
    exact ⟨⟨_, rfl⟩, moves found (by simp [Worker.step, waiting, free])⟩
  | behind found owner content waiting ahead holds shared sealed =>
    refine ⟨⟨_, rfl⟩, moves ahead (Worker.step_ne_none ?_ ?_ ?_)⟩
    · intro acquiring
      simp [Worker.holdsHandoff, acquiring] at holds
    · intro finished
      simp [Worker.holdsHandoff, finished] at holds
    · intro receiving
      rw [receiving] at sealed
      cases sealed

/-- A waiting task with messages goes on waiting with them while another party moves. -/
theorem Became.waits {generation : Nat} {worker changed : Worker}
    (became : pool.Became choice label generation worker changed)
    (other : choice ≠ .worker generation) (waiting : worker.stage = .acquiring)
    (content : worker.content ≠ []) : changed.stage = .acquiring ∧ changed.content ≠ [] := by
  rcases became.how with ⟨_, touched | fired⟩ | ⟨chosen, _⟩
  · exact ⟨touched.stage.trans waiting, touched.grown content⟩
  · simp [Worker.timeOut, waiting] at fired
  · exact absurd chosen other

/-- Two generations of one id do not wait at the same time. -/
theorem Chained.one_waiting (chained : pool.Chained) {left right : Nat} {first second : Worker}
    (foundFirst : pool.tasks[left]? = some first) (foundSecond : pool.tasks[right]? = some second)
    (sameId : first.id = second.id) (waitingFirst : first.stage = .acquiring)
    (waitingSecond : second.stage = .acquiring) : left = right := by
  -- The older one would be closed, and so have started.
  rcases Nat.lt_trichotomy left right with before | same | after
  · have closed := (chained.before before foundFirst foundSecond sameId).1
    exact absurd waitingFirst (chained.started foundFirst closed)
  · exact same
  · have closed := (chained.before after foundSecond foundFirst sameId.symm).1
    exact absurd waitingSecond (chained.started foundSecond closed)

/-- Each step processes a message of the id, serves it, or leaves it served as it was. -/
theorem Serving.advance (orderly : pool.Orderly) (evolved : pool.Evolved choice label next)
    {id : UInt32} {rank : Nat} {due : PoolChoice} (serving : pool.Serving id rank due) :
    label.processed id ≠ [] ∨ (∃ lower < rank, ∃ other, next.Serving id lower other) ∨
      choice ≠ due ∧ next.Serving id rank due := by
  cases serving with
  -- The worker with the message is past its lock, and comes nearer with each of its steps.
  | @started generation worker found owner content started =>
    obtain ⟨changed, read, became⟩ := evolved.kept found
    have owner' : changed.id = id := became.id.trans owner
    rcases became.how with ⟨other, touched | fired⟩ | ⟨chosen, processed, stepped, shown⟩
    · refine .inr (.inr ⟨other, ?_⟩)
      rw [← touched.stage]
      exact .started read owner' (touched.grown content) (by rwa [touched.stage])
    · -- The idle timeout fires only without a message.
      unfold Worker.timeOut at fired
      split at fired
      · rename_i idle
        rw [Worker.content_of_outside (by rw [idle.1]; rfl)] at content
        exact absurd idle.2 content
      · cases fired
    · rw [owner] at shown
      have parts := (Worker.step_moved stepped).content
      rcases Worker.step_nearer stepped (orderly.chained.sound found) started content with
        done | ⟨going, nearer⟩
      · left
        rw [shown]
        simpa using done
      · cases processed with
        | some message =>
          left
          rw [shown]
          simp
        | none =>
          refine .inr (.inl ⟨_, nearer, _, .started read owner' ?_ going⟩)
          rwa [parts] at content
  -- Its lock is free, so its next step takes it.
  | @free generation worker found owner content waiting free =>
    obtain ⟨changed, read, became⟩ := evolved.kept found
    have owner' : changed.id = id := became.id.trans owner
    by_cases chosen : choice = .worker generation
    · rcases became.how with ⟨other, _⟩ | ⟨_, processed, stepped, shown⟩
      · exact absurd chosen other
      · simp only [Worker.step, waiting, free, Bool.false_eq_true, if_false, Option.some.injEq,
          Prod.mk.injEq] at stepped
        obtain ⟨rfl, rfl⟩ := stepped
        refine .inr (.inl ⟨_, ?_, _, .started read owner' ?_ (by simp)⟩)
        · simp [WorkerStage.distance]
        · rw [Worker.content_of_outside (by rw [waiting]; rfl)] at content
          exact content
    · obtain ⟨still, content'⟩ := became.waits chosen waiting content
      refine .inr (.inr ⟨chosen, .free read owner' content' still ?_⟩)
      -- Nobody else waits for this lock, so it stays free.
      by_contra held
      rw [Bool.not_eq_false, handoffHeld_iff] at held
      obtain ⟨sibling, taker, readTaker, holds, shared⟩ := held
      obtain ⟨elder, foundElder, same, before | ⟨took, waits, _⟩⟩ := evolved.holder readTaker holds
      · have owned := (handoffHeld_iff pool worker.handoff).mpr
          ⟨sibling, elder, foundElder, before, same.trans (shared.trans became.handoff)⟩
        rw [free] at owned
        cases owned
      · have sameId := orderly.locked.family foundElder found
          (same.trans (shared.trans became.handoff))
        have same := orderly.chained.one_waiting foundElder found sameId waits waiting
        exact chosen (same ▸ took)
  -- The generation before holds the lock, and comes nearer to letting go of it.
  | @behind generation predecessor worker holder found owner content waiting ahead holds shared
      sealed =>
    obtain ⟨changed, read, became⟩ := evolved.kept found
    obtain ⟨holder', readHolder, becameHolder⟩ := evolved.kept ahead
    have owner' : changed.id = id := became.id.trans owner
    have held : pool.handoffHeld worker.handoff = true :=
      (handoffHeld_iff pool worker.handoff).mpr ⟨predecessor, holder, ahead, holds, shared⟩
    have idle : choice ≠ .worker generation := by
      intro chosen
      rcases became.how with ⟨other, _⟩ | ⟨_, processed, stepped, _⟩
      · exact other chosen
      · simp [Worker.step, waiting, held] at stepped
    obtain ⟨still, content'⟩ := became.waits idle waiting content
    have shared' : holder'.handoff = changed.handoff := by
      rw [becameHolder.handoff, became.handoff, shared]
    rcases becameHolder.how with ⟨other, touched | fired⟩ | ⟨chosen, processed, stepped, shown⟩
    · refine .inr (.inr ⟨other, ?_⟩)
      rw [← touched.stage]
      refine .behind read owner' content' still readHolder ?_ shared' (by rwa [touched.stage])
      rwa [Worker.holdsHandoff, touched.stage]
    · unfold Worker.timeOut at fired
      split at fired
      · rename_i receiving
        rw [receiving.1] at sealed
        cases sealed
      · cases fired
    · have sameId : holder.id = id :=
        (orderly.ahead found waiting ahead holds shared).1.trans owner
      rcases Worker.step_sealed stepped sealed with done | finished | ⟨sealed', going, nearer⟩
      · left
        rw [← sameId, shown]
        simpa using done
      · -- The lock had one owner, which has let go of it.
        refine .inr (.inl ⟨10, by omega, _, .free read owner' content' still ?_⟩)
        by_contra heldStill
        rw [Bool.not_eq_false, handoffHeld_iff] at heldStill
        obtain ⟨sibling, taker, readTaker, holdsTaker, sharedTaker⟩ := heldStill
        obtain ⟨elder, foundElder, same, before | ⟨_, _, free⟩⟩ :=
          evolved.holder readTaker holdsTaker
        · have lock : elder.handoff = holder.handoff := by
            rw [same, sharedTaker, became.handoff, shared]
          cases orderly.locked.exclusive foundElder ahead lock before holds
          rw [readHolder] at readTaker
          cases readTaker
          simp [Worker.holdsHandoff, finished] at holdsTaker
        · rw [same, sharedTaker, became.handoff, held] at free
          cases free
      · refine .inr (.inl ⟨_, ?_, _, .behind read owner' content' still readHolder ?_ shared'
          sealed'⟩)
        · omega
        · have past : holder'.stage ≠ .acquiring := by
            intro acquiring
            rw [acquiring] at sealed'
            cases sealed'
          simp [Worker.holdsHandoff, past, going]

/-- A pool without workers is orderly. -/
theorem Orderly.start : Orderly {} :=
  ⟨InOrder.start.chained, InOrder.start.dispatching, ⟨by simp, by simp, by simp⟩⟩

/-- A step of the pool keeps it orderly. -/
theorem Orderly.step {capacity : Nat} (orderly : pool.Orderly)
    (taken : pool.step capacity choice = some (next, label)) : next.Orderly := by
  obtain ⟨chained, dispatching, _⟩ :=
    steps_keep orderly.chained orderly.dispatching ⟨choice, taken⟩
  have evolved := step_evolved orderly.chained orderly.dispatching taken
  exact ⟨chained, dispatching, orderly.locked.evolved evolved⟩

/-- Along a run the lanes account for what was accepted and not processed. -/
theorem InOrder.of_run {capacity : Nat} {labels : List PoolLabel}
    (run : Run (Steps capacity) {} labels pool) : InOrder labels pool := by
  -- The run is extended at its end, one label at a time.
  induction labels using List.reverseRecOn generalizing pool with
  | nil =>
    cases run
    exact .start
  | append_singleton before label ih =>
    obtain ⟨middle, earlier, taken⟩ := run.split_last
    exact (ih earlier).step taken

section Execution

variable {capacity : Nat} {execution : Execution (step capacity) {}}

/-- Every state of an execution is orderly. -/
theorem orderly_execution (execution : Execution (step capacity) {}) (time : Nat) :
    (execution.state time).Orderly := by
  induction time with
  | zero =>
    rw [execution.initial]
    exact .start
  | succ time ih => exact ih.step (execution.taken time)

/-- The workers' steps, each of which a fair scheduler takes some time. -/
def IsWorker (choice : PoolChoice) : Prop := ∃ generation, choice = .worker generation

/-- While an id has a message in its lane, one of its messages is going to be processed. -/
theorem processes_next (fair : execution.Fair IsWorker) {id : UInt32} {time : Nat}
    (queued : (execution.state time).lane id ≠ []) :
    ∃ later ≥ time, (execution.label later).processed id ≠ [] := by
  -- The rank falls with each step that serves the id, and no other step raises it.
  have orderly := orderly_execution execution time
  obtain ⟨rank, due, serving⟩ := orderly.serving queued
  refine execution.eventually fair (fun pool rank choice =>
    pool.Orderly ∧ pool.Serving id rank choice) (fun label => label.processed id ≠ []) ?_ ?_
    (And.intro orderly serving)
  · rintro pool rank choice ⟨orderly, serving⟩
    exact orderly.can_serve capacity serving
  · rintro pool rank due choice next label ⟨orderly, serving⟩ taken
    have evolved := step_evolved orderly.chained orderly.dispatching taken
    rcases serving.advance orderly evolved with done | ⟨lower, less, other, nearer⟩ | kept
    · exact .inl done
    · exact .inr (.inl ⟨lower, less, other, orderly.step taken, nearer⟩)
    · exact .inr (.inr ⟨kept.1, orderly.step taken, kept.2⟩)

/-- A fair execution goes on until it has processed as many messages as it had accepted. -/
theorem processes_more (fair : execution.Fair IsWorker) (id : UInt32) (time count : Nat)
    (bound : count ≤ (acceptedOf id (execution.labels time)).length) :
    ∃ later ≥ time, count ≤ (processedOf id (execution.labels later)).length := by
  -- The induction is on the count, each message being processed after those before it.
  induction count with
  | zero => exact ⟨time, Nat.le_refl _, Nat.zero_le _⟩
  | succ count ih =>
    obtain ⟨later, after, reached⟩ := ih (by omega)
    by_cases enough : count + 1 ≤ (processedOf id (execution.labels later)).length
    · exact ⟨later, after, enough⟩
    · -- An accepted message is still in the lane.
      have account := congrArg List.length (((InOrder.of_run (execution.run later)).lanes id))
      have accepted := ((execution.labels_prefix after).flatMap (PoolLabel.accepted id)).length_le
      have queued : (execution.state later).lane id ≠ [] := by
        intro empty
        rw [empty, List.append_nil] at account
        simp only [acceptedOf] at account bound
        omega
      obtain ⟨final, last, processed⟩ := processes_next fair queued
      have some_ := List.length_pos_iff.mpr processed
      refine ⟨final + 1, by omega, ?_⟩
      have grown := ((execution.labels_prefix last).flatMap (PoolLabel.processed id)).length_le
      rw [processedOf, execution.labels_succ, List.flatMap_append, List.length_append,
        List.flatMap_singleton]
      simp only [processedOf] at reached
      omega

end Execution

/--
In every run the messages of an id are processed in the order of their acceptance, each at most
once, and by one generation at a time; and a fair scheduler processes every accepted message.
-/
theorem processes_in_order (capacity : Nat) :
    (∀ {labels : List PoolLabel} {pool : WorkerPool}, Run (Steps capacity) {} labels pool →
      (∀ id, processedOf id labels <+: acceptedOf id labels) ∧
      ∀ {left right : Nat} {first second : Worker}, pool.tasks[left]? = some first →
        pool.tasks[right]? = some second → second.id = first.id → first.stage.inCall = true →
        second.stage.inCall = true → right = left) ∧
    ∀ execution : Execution (step capacity) {}, execution.Fair IsWorker → ∀ id time,
      ∃ later ≥ time,
        acceptedOf id (execution.labels time) <+: processedOf id (execution.labels later) := by
  constructor
  · intro labels pool run
    have order := InOrder.of_run run
    refine ⟨fun id => ?_, order.chained.one_call⟩
    rw [order.lanes id]
    exact List.prefix_append _ _
  · intro execution fair id time
    obtain ⟨later, after, enough⟩ := processes_more fair id time _ (Nat.le_refl _)
    refine ⟨later, after, ?_⟩
    -- Both are initial parts of what was accepted by then, and the second is no shorter.
    have order := InOrder.of_run (execution.run later)
    refine List.prefix_of_prefix_length_le ((execution.labels_prefix after).flatMap (PoolLabel.accepted id))
      ?_ enough
    show processedOf id _ <+: acceptedOf id _
    rw [order.lanes id]
    exact List.prefix_append _ _

/-- A press and its release, the second of which comes when the worker of the first is closing: a new
worker waits for its end, and a shutdown ends that one too. -/
private def servedTwice : List PoolChoice :=
  .arrive ⟨1, ⟨∅, .h⟩, .keyDown, false⟩ :: List.replicate 5 .dispatcher ++
    List.replicate 7 (.worker 0) ++ .timeout 0 :: .worker 0 ::
    .arrive ⟨1, ⟨∅, .h⟩, .keyUp, false⟩ :: List.replicate 8 .dispatcher ++
    List.replicate 2 (.worker 0) ++ List.replicate 6 (.worker 1) ++
    .shutdown :: List.replicate 4 (.worker 1)

/-- With a shutdown for ever after, both are accepted, and later processed in this order. -/
theorem processes_in_order_served :
    ∃ execution : Execution (step defaultQueueCapacity) {},
      acceptedOf 1 (execution.labels 24) =
        [.event ⟨1, ⟨∅, .h⟩, .keyDown, false⟩, .event ⟨1, ⟨∅, .h⟩, .keyUp, false⟩] ∧
      processedOf 1 (execution.labels 24) <+: acceptedOf 1 (execution.labels 24) ∧
      ∃ later ≥ 24,
        acceptedOf 1 (execution.labels 24) <+: processedOf 1 (execution.labels later) := by
  obtain ⟨⟨pool, labels⟩, evaluated, seen⟩ := Option.map_eq_some_iff.mp
    (show (evaluate (step defaultQueueCapacity) {} servedTwice).map (fun result =>
        (result.1.tasks.map Worker.stage, result.1.shutdown, result.2.length,
          acceptedOf 1 (result.2.take 24))) =
      some ([.finished, .finished], true, 37,
        [.event ⟨1, ⟨∅, .h⟩, .keyDown, false⟩, .event ⟨1, ⟨∅, .h⟩, .keyUp, false⟩]) by
      decide +kernel)
  simp only [Prod.mk.injEq] at seen
  obtain ⟨ended, shut, length, accepted⟩ := seen
  have still : pool.step defaultQueueCapacity .shutdown = some (pool, .internal) := by
    simp [step, ← shut]
  let execution := Execution.ofEvaluate evaluated .shutdown .internal still
  -- Both workers have finished, so no worker is left out for ever.
  have fair : execution.Fair IsWorker := by
    rintro _ ⟨generation, rfl⟩ time
    refine ⟨max time servedTwice.length, Nat.le_max_left _ _, .inr ?_⟩
    rw [Execution.ofEvaluate_state evaluated .shutdown .internal still (Nat.le_max_right _ _)]
    cases found : pool.tasks[generation]? with
    | none => simp [step, workerStep, found]
    | some worker =>
      have stage : worker.stage ∈ pool.tasks.map Worker.stage :=
        List.mem_map_of_mem (List.mem_of_getElem? found)
      rw [ended] at stage
      have done : worker.stage = .finished := by simpa using stage
      simp [step, workerStep, found, Worker.step, done]
  refine ⟨execution, ?_, ((processes_in_order defaultQueueCapacity).1 (execution.run 24)).1 1,
    (processes_in_order defaultQueueCapacity).2 execution fair 1 24⟩
  rw [Execution.ofEvaluate_labels evaluated .shutdown .internal still (by omega)]
  exact accepted

end WorkerPool

end Hotki

import Hotki.Base.Focus
import Hotki.Base.Run
import Hotki.Server.Workers

/-! Successive worker generations of one id process its messages in the order of acceptance. -/

namespace Hotki

open Base

/-- Whether a worker has taken a message out of its queue and not yet settled its counters. -/
def WorkerStage.inCall : WorkerStage → Bool
  | .processing _ _ | .counting _ _ | .clearing _ => true
  | _ => false

/-- Whether a stage comes after the rejection of late sends. -/
def WorkerStage.sealed : WorkerStage → Bool
  | .processing _ late | .counting _ late | .clearing late => late
  | .draining | .removing | .finished => true
  | _ => false

namespace Worker

/-- The messages a worker has accepted and the engine has not yet dispatched. -/
def content (worker : Worker) : List WorkerMessage :=
  match worker.stage with
  | .processing message _ => message :: worker.queue
  | _ => worker.queue

/-- A worker without messages, and without a call in progress. -/
def Quiet (worker : Worker) : Prop := worker.queue = [] ∧ worker.stage.inCall = false

/-- A quiet worker has no messages. -/
theorem Quiet.content {worker : Worker} (quiet : worker.Quiet) : worker.content = [] := by
  obtain ⟨empty, outside⟩ := quiet
  unfold Worker.content
  cases stage : worker.stage <;> simp_all [WorkerStage.inCall]

/-- The agreement between a worker's stage, its channel and the messages it was given. -/
structure Sound (generation : Nat) (worker : Worker) : Prop where
  closed : worker.closed = worker.stage.sealed
  ended : worker.stage = .removing ∨ worker.stage = .finished → worker.queue = []
  owned : ∀ message ∈ worker.content, message.id = worker.id ∧
    ∀ id other, message = .forcedRelease id other → other = generation

/-- A change of one worker that gives it no message and no handoff lock. -/
structure Tame (worker next : Worker) : Prop where
  id : next.id = worker.id
  handoff : next.handoff = worker.handoff
  closed : worker.closed = true → next.closed = true
  quiet : worker.Quiet → next.Quiet
  acquiring : next.stage = .acquiring ↔ worker.stage = .acquiring
  holds : worker.holdsHandoff = true → next.holdsHandoff = true ∨ next.Quiet

/-- Changing nothing is tame. -/
theorem Tame.refl (worker : Worker) : worker.Tame worker :=
  ⟨rfl, rfl, fun held => held, fun held => held, .rfl, .inl⟩

/-- What one step of a worker task can do. -/
inductive Moved (worker : Worker) : Worker → Option WorkerMessage → Prop where
  /-- The task goes on without touching a message. -/
  | pass (stage : WorkerStage) (outside : worker.stage.inCall = false)
      (still : stage.inCall = false) (started : stage ≠ .acquiring)
      (sealed : stage.sealed = worker.stage.sealed)
      (ended : stage = .removing ∨ stage = .finished →
        worker.queue = [] ∨ worker.stage = .removing) : Moved worker { worker with stage } none
  /-- The task takes the first queued message. -/
  | take (message : WorkerMessage) (queue : List WorkerMessage) (late : Bool)
      (queued : worker.queue = message :: queue) (outside : worker.stage.inCall = false)
      (started : worker.stage ≠ .acquiring) (sealed : worker.stage.sealed = late) :
      Moved worker { worker with queue, stage := .processing message late } none
  /-- The engine has dispatched the message. -/
  | process (message : WorkerMessage) (late : Bool)
      (stage : worker.stage = .processing message late) :
      Moved worker { worker with stage := .counting message.isForced late } (some message)
  /-- The pending count is lowered. -/
  | count (forced late : Bool) (stage : worker.stage = .counting forced late) :
      Moved worker { worker with
        pending := worker.pending - 1
        stage := if forced then .clearing late else .resumed late } none
  /-- The release flag is cleared. -/
  | clear (late : Bool) (stage : worker.stage = .clearing late) :
      Moved worker { worker with releasePending := false, stage := .resumed late } none
  /-- The channel is closed. -/
  | close (stage : worker.stage = .closing) :
      Moved worker { worker with closed := true, stage := .draining } none

variable {handoffHeld shutdown : Bool} {generation : Nat} {worker next : Worker}
  {processed : Option WorkerMessage}

/-- Every step of a worker task is one of those. -/
theorem step_moved (taken : worker.step handoffHeld shutdown = some (next, processed)) :
    worker.Moved next processed := by
  -- One kind of move for each stage; only two of them take a message.
  unfold step at taken
  cases stage : worker.stage with
  | receiving =>
    simp only [stage] at taken
    split at taken <;> cases taken
    rename_i message queue queued
    exact .take message queue false queued (by rw [stage]; rfl) (by simp [stage]) (by rw [stage]; rfl)
  | draining =>
    simp only [stage] at taken
    split at taken
    -- Draining ends at an empty queue only.
    · rename_i empty
      cases taken
      exact .pass .removing (by rw [stage]; rfl) rfl nofun (by rw [stage]; rfl) fun _ => .inl empty
    · rename_i message queue queued
      cases taken
      exact .take message queue true queued (by rw [stage]; rfl) (by simp [stage])
        (by rw [stage]; rfl)
  | processing message late =>
    simp only [stage] at taken
    cases taken
    exact .process message late stage
  | counting forced late =>
    simp only [stage] at taken
    cases taken
    exact .count forced late stage
  | clearing late =>
    simp only [stage] at taken
    cases taken
    exact .clear late stage
  | closing =>
    simp only [stage] at taken
    cases taken
    exact .close stage
  | acquiring =>
    simp only [stage] at taken
    split at taken <;> cases taken
    exact .pass .starting (by rw [stage]; rfl) rfl nofun (by rw [stage]; rfl) (by simp)
  | starting =>
    simp only [stage] at taken
    cases taken
    exact .pass .looping (by rw [stage]; rfl) rfl nofun (by rw [stage]; rfl) (by simp)
  | looping =>
    simp only [stage] at taken
    cases taken
    refine .pass _ (by rw [stage]; rfl) ?_ ?_ ?_ ?_ <;> cases shutdown <;>
      simp [stage, WorkerStage.inCall, WorkerStage.sealed]
  | removing =>
    simp only [stage] at taken
    cases taken
    exact .pass .finished (by rw [stage]; rfl) rfl nofun (by rw [stage]; rfl) fun _ => .inr stage
  | finished =>
    simp only [stage] at taken
    cases taken

/-- A firing timeout is a step that only goes on. -/
theorem timeOut_moved (fired : worker.timeOut = some next) : worker.Moved next none := by
  unfold timeOut at fired
  split at fired
  · rename_i idle
    cases fired
    exact .pass .closing (by simp [idle.1, WorkerStage.inCall]) rfl nofun
      (by simp [idle.1, WorkerStage.sealed]) nofun
  · cases fired

/-- The stages outside a call have no message in hand. -/
theorem content_of_outside {worker : Worker} (outside : worker.stage.inCall = false) :
    worker.content = worker.queue := by
  unfold content
  cases stage : worker.stage <;> simp_all [WorkerStage.inCall]

/-- A step processes the first of the worker's messages or leaves them all in place. -/
theorem Moved.content (moved : worker.Moved next processed) :
    worker.content = processed.toList ++ next.content := by
  -- A message in hand counts as content until it is processed.
  cases moved with
  | pass stage outside still =>
    rw [content_of_outside outside, content_of_outside still]
    rfl
  | take message queue late queued outside =>
    rw [content_of_outside outside, queued]
    rfl
  | process message late stage => simp [Worker.content, stage]
  | count forced late stage =>
    cases forced <;> cases late <;> simp [Worker.content, stage, WorkerStage.resumed]
  | clear late stage => cases late <;> simp [Worker.content, stage, WorkerStage.resumed]
  | close stage => simp [Worker.content, stage]

/-- A step keeps a worker sound. -/
theorem Moved.sound (moved : worker.Moved next processed) (sound : worker.Sound generation) :
    next.Sound generation := by
  -- Only ending a stage seals the worker, and it does so once its queue is empty.
  have parts := moved.content
  refine ⟨?_, ?_, fun message member => ?_⟩
  · have agreed := sound.closed
    cases moved with
    | pass stage outside still started sealed => exact agreed.trans sealed.symm
    | take message queue late queued outside started sealed => exact agreed.trans sealed
    | process message late stage => exact agreed.trans (by rw [stage]; rfl)
    | count forced late stage =>
      refine agreed.trans ?_
      cases forced <;> cases late <;> simp [stage, WorkerStage.sealed, WorkerStage.resumed]
    | clear late stage =>
      refine agreed.trans ?_
      cases late <;> simp [stage, WorkerStage.sealed, WorkerStage.resumed]
    | close stage => rfl
  · cases moved with
    | pass stage outside still started sealed ended =>
      intro last
      exact (ended last).elim (fun empty => empty) fun stage => sound.ended (.inl stage)
    | count forced late stage => cases forced <;> cases late <;> simp [WorkerStage.resumed]
    | clear late stage => cases late <;> simp [WorkerStage.resumed]
    | take | process | close => simp
  · have owned := sound.owned message (by rw [parts]; exact List.mem_append_right _ member)
    cases moved <;> exact owned

/-- A step of a worker that owns its handoff lock is tame. -/
theorem Moved.tame (moved : worker.Moved next processed) (sound : worker.Sound generation)
    (owner : worker.stage ≠ .acquiring) : worker.Tame next := by
  -- Nothing that an owner of the lock does reopens it or makes a settled worker unsettled.
  cases moved with
  | pass stage outside still started sealed ended =>
    refine ⟨rfl, rfl, fun held => held, fun quiet => ⟨quiet.1, still⟩, by simp [owner, started], ?_⟩
    intro _
    by_cases last : stage = .finished
    · have empty := (ended (.inr last)).elim (fun empty => empty) fun stage =>
        sound.ended (.inl stage)
      exact .inr ⟨empty, still⟩
    · exact .inl (by simp [holdsHandoff, last, started])
  | take message queue late queued outside started sealed =>
    refine ⟨rfl, rfl, fun held => held, fun quiet => ?_, by simp [started], fun _ => .inl rfl⟩
    simp [Quiet, queued] at quiet
  | process message late stage =>
    refine ⟨rfl, rfl, fun held => held, fun quiet => ?_, by simp [stage], fun _ => .inl rfl⟩
    simp [Quiet, stage, WorkerStage.inCall] at quiet
  | count forced late stage =>
    refine ⟨rfl, rfl, fun held => held, fun quiet => ?_, ?_, fun _ => .inl ?_⟩
    · simp [Quiet, stage, WorkerStage.inCall] at quiet
    · cases forced <;> cases late <;> simp [stage, WorkerStage.resumed]
    · cases forced <;> cases late <;> rfl
  | clear late stage =>
    refine ⟨rfl, rfl, fun held => held, fun quiet => ?_, ?_, fun _ => .inl ?_⟩
    · simp [Quiet, stage, WorkerStage.inCall] at quiet
    · cases late <;> simp [stage, WorkerStage.resumed]
    · cases late <;> rfl
  | close stage =>
    exact ⟨rfl, rfl, fun _ => rfl, fun quiet => ⟨quiet.1, rfl⟩, by simp [stage], fun _ => .inl rfl⟩

end Worker

namespace WorkerPool

/-- A generation is the newest one spawned for an id. -/
def Newest (pool : WorkerPool) (id : UInt32) (generation : Nat) : Prop :=
  ∃ worker, pool.tasks[generation]? = some worker ∧ worker.id = id ∧
    ∀ later > generation, ∀ other, pool.tasks[later]? = some other → Worker.id other ≠ id

/-- The generations of an id succeed each other: an older one is closed, and it has settled its
messages or still owns the handoff lock its successor is waiting for. -/
structure Chained (pool : WorkerPool) : Prop where
  current : ∀ {id generation}, pool.workers.lookup id = some generation →
    pool.Newest id generation
  unmapped : ∀ {generation : Nat} {worker : Worker}, pool.tasks[generation]? = some worker →
    pool.workers.lookup worker.id = none → worker.closed = true ∧ worker.Quiet
  before : ∀ {earlier later : Nat} {older newer : Worker}, earlier < later →
    pool.tasks[earlier]? = some older → pool.tasks[later]? = some newer → older.id = newer.id →
    older.closed = true ∧ (older.Quiet ∨ newer.stage = .acquiring ∧
      older.handoff = newer.handoff ∧ older.holdsHandoff = true)
  sound : ∀ {generation : Nat} {worker : Worker}, pool.tasks[generation]? = some worker →
    worker.Sound generation

/-- The messages of an id that were accepted and not yet dispatched, oldest first. -/
def lane (pool : WorkerPool) (id : UInt32) : List WorkerMessage :=
  pool.tasks.flatMap fun worker => if worker.id = id then worker.content else []

variable {pool next : WorkerPool} {generation : Nat} {worker : Worker}

/-- Reading a task after the change of one. -/
theorem getElem?_update (pool : WorkerPool) (generation other : Nat) (change : Worker → Worker) :
    (pool.update generation change).tasks[other]? =
      if generation = other then (pool.tasks[other]?).map change else pool.tasks[other]? := by
  simp only [update, List.getElem?_modify]
  split <;> simp

/-- A change of one task leaves every other task, and changes that one. -/
theorem update_cases {change : Worker → Worker} (found : pool.tasks[generation]? = some worker)
    {other : Nat} {changed : Worker}
    (read : (pool.update generation change).tasks[other]? = some changed) :
    other = generation ∧ changed = change worker ∨
      other ≠ generation ∧ pool.tasks[other]? = some changed := by
  -- A position is either the one changed or another one.
  rw [getElem?_update] at read
  split at read
  · rename_i same
    subst same
    rw [found] at read
    cases read
    exact .inl ⟨rfl, rfl⟩
  · rename_i apart
    exact .inr ⟨Ne.symm apart, read⟩

/-- Changing a task but not its id keeps the newest generations. -/
theorem Newest.update {change : Worker → Worker} (found : pool.tasks[generation]? = some worker)
    (sameId : (change worker).id = worker.id) {id : UInt32} {newest : Nat}
    (held : pool.Newest id newest) : (pool.update generation change).Newest id newest := by
  -- The ids stay, so the generation that was the last of its id still is.
  obtain ⟨latest, read, owner, last⟩ := held
  have kept : ∀ (other : Nat) (task : Worker), pool.tasks[other]? = some task →
      ∃ changed : Worker, (pool.update generation change).tasks[other]? = some changed ∧
        changed.id = task.id := by
    intro other task present
    rw [getElem?_update, present]
    split
    · rename_i same
      subst same
      rw [found] at present
      cases present
      exact ⟨_, rfl, sameId⟩
    · exact ⟨task, rfl, rfl⟩
  obtain ⟨changed, present, same⟩ := kept newest latest read
  refine ⟨changed, present, same.trans owner, fun later after other readOther => ?_⟩
  rcases update_cases found readOther with ⟨rfl, rfl⟩ | ⟨_, readOld⟩
  · rw [sameId]
    exact last later after worker found
  · exact last later after other readOld

/-- A closed task has got past its handoff lock. -/
theorem Chained.started (chained : pool.Chained) (found : pool.tasks[generation]? = some worker)
    (closed : worker.closed = true) : worker.stage ≠ .acquiring := by
  intro acquiring
  have agreed := (chained.sound found).closed
  rw [closed, acquiring] at agreed
  cases agreed

/-- Changing one task keeps the chain if the older generations are settled for it, and if it
keeps what a younger one relies on. -/
theorem Chained.update (change : Worker → Worker) (chained : pool.Chained)
    (found : pool.tasks[generation]? = some worker) (sound : (change worker).Sound generation)
    (sameId : (change worker).id = worker.id)
    (sameHandoff : (change worker).handoff = worker.handoff)
    (older : ∀ earlier < generation, ∀ other : Worker, pool.tasks[earlier]? = some other →
      other.id = worker.id → other.Quiet ∨ (change worker).stage = .acquiring ∧
        other.handoff = worker.handoff ∧ other.holdsHandoff = true)
    (younger : worker.closed = true → (change worker).closed = true ∧
      (worker.Quiet → (change worker).Quiet) ∧
      (worker.holdsHandoff = true →
        (change worker).holdsHandoff = true ∨ (change worker).Quiet)) :
    (pool.update generation change).Chained where
  -- A change matters to the chain as that of an older or of a younger generation.
  current := fun found' => (chained.current found').update found sameId
  unmapped := by
    intro other changed read absent
    rcases update_cases found read with ⟨rfl, rfl⟩ | ⟨_, read⟩
    · obtain ⟨closed, quiet⟩ := chained.unmapped found (sameId ▸ absent)
      exact ⟨(younger closed).1, (younger closed).2.1 quiet⟩
    · exact chained.unmapped read absent
  before := by
    intro earlier later first second after readFirst readSecond sameIds
    rcases update_cases found readFirst with ⟨rfl, rfl⟩ | ⟨_, oldFirst⟩
    · -- The changed task is the older one.
      rcases update_cases found readSecond with ⟨rfl, _⟩ | ⟨_, oldSecond⟩
      · omega
      obtain ⟨closed, settled⟩ := chained.before after found oldSecond (sameId ▸ sameIds)
      obtain ⟨stays, quietStays, holdsStays⟩ := younger closed
      refine ⟨stays, ?_⟩
      rcases settled with quiet | ⟨waiting, shared, holds⟩
      · exact .inl (quietStays quiet)
      · exact (holdsStays holds).symm.imp id fun holds => ⟨waiting, sameHandoff.trans shared, holds⟩
    · rcases update_cases found readSecond with ⟨rfl, rfl⟩ | ⟨_, oldSecond⟩
      · -- The changed task is the younger one.
        have closed := (chained.before after oldFirst found (sameIds.trans sameId)).1
        refine ⟨closed, (older earlier after first oldFirst (sameIds.trans sameId)).imp id ?_⟩
        rintro ⟨waiting, shared, holds⟩
        exact ⟨waiting, shared.trans sameHandoff.symm, holds⟩
      · exact chained.before after oldFirst oldSecond sameIds
  sound := by
    intro other changed read
    rcases update_cases found read with ⟨rfl, rfl⟩ | ⟨_, read⟩
    · exact sound
    · exact chained.sound read

/-- A tame change of one task keeps the chain. -/
theorem Chained.tame {change : Worker → Worker} (chained : pool.Chained)
    (found : pool.tasks[generation]? = some worker) (sound : (change worker).Sound generation)
    (tame : worker.Tame (change worker)) : (pool.update generation change).Chained := by
  refine chained.update _ found sound tame.id tame.handoff (fun earlier after other read same => ?_)
    fun closed => ⟨tame.closed closed, tame.quiet, tame.holds⟩
  refine (chained.before after read found same).2.imp id ?_
  rintro ⟨waiting, shared, holds⟩
  exact ⟨tame.acquiring.mpr waiting, shared, holds⟩

/-- Removing a closed and quiet generation from the table keeps the chain. -/
theorem Chained.removeGeneration (chained : pool.Chained)
    (found : pool.tasks[generation]? = some worker) (closed : worker.closed = true)
    (quiet : worker.Quiet) : (pool.removeGeneration worker.id generation).Chained := by
  -- Only the newest generation is in the table, so removing another one changes nothing.
  unfold WorkerPool.removeGeneration
  split
  · rename_i mapped
    refine ⟨fun {id current} read => ?_, fun {other task} read absent => ?_, chained.before,
      chained.sound⟩
    · simp only [HashMap.lookup_erase_ite] at read
      split at read
      · cases read
      · exact chained.current read
    · simp only [HashMap.lookup_erase_ite] at absent
      split at absent
      · -- The removed generation was the newest, so all of this id are it or older.
        rename_i sameId
        obtain ⟨newest, readNewest, _, last⟩ := chained.current mapped
        rcases Nat.lt_trichotomy other generation with before | rfl | after
        · obtain ⟨closed', settled⟩ := chained.before before read found sameId
          refine ⟨closed', settled.resolve_right fun waiting => ?_⟩
          exact chained.started found closed waiting.1
        · rw [found] at read
          cases read
          exact ⟨closed, quiet⟩
        · exact absurd sameId (last other after task read)
      · exact chained.unmapped read absent
  · exact chained

/-- Reading a task after a spawn. -/
theorem spawnWorker_cases {id : UInt32} {handoff : Option Nat} {other : Nat} {task : Worker}
    (read : (pool.spawnWorker id handoff).tasks[other]? = some task) :
    pool.tasks[other]? = some task ∨
      other = pool.tasks.length ∧ task = { id, handoff := handoff.getD pool.handoffs } := by
  -- A position is an old one, or the new last one.
  simp only [spawnWorker] at read
  rcases Nat.lt_or_ge other pool.tasks.length with inside | outside
  · rw [List.getElem?_append_left inside] at read
    exact .inl read
  · rw [List.getElem?_append_right outside] at read
    obtain ⟨index, same⟩ := List.getElem?_eq_some_iff.mp read
    simp only [List.length_singleton] at index
    have last : other = pool.tasks.length := by omega
    subst last
    simp only [Nat.sub_self, List.getElem_cons_zero] at same
    exact .inr ⟨rfl, same.symm⟩

/-- A task is read as before after a spawn. -/
theorem getElem?_spawnWorker {id : UInt32} {handoff : Option Nat}
    (found : pool.tasks[generation]? = some worker) :
    (pool.spawnWorker id handoff).tasks[generation]? = some worker := by
  obtain ⟨inside, _⟩ := List.getElem?_eq_some_iff.mp found
  simpa [spawnWorker, List.getElem?_append_left inside] using found

/-- The spawned generation is the newest of its id, and a quiet one. -/
theorem newest_spawnWorker (pool : WorkerPool) (id : UInt32) (handoff : Option Nat) :
    (pool.spawnWorker id handoff).Newest id pool.tasks.length := by
  refine ⟨{ id, handoff := handoff.getD pool.handoffs }, by simp [spawnWorker], rfl, ?_⟩
  intro later after other read
  have inside := (List.getElem?_eq_some_iff.mp read).1
  simp only [spawnWorker, List.length_append, List.length_singleton] at inside
  omega

/-- Spawning keeps the chain when every earlier generation of the id is closed, and is settled or
owns the lock that the new one inherits. -/
theorem Chained.spawnWorker (chained : pool.Chained) (id : UInt32) (handoff : Option Nat)
    (settled : ∀ {other : Nat} {task : Worker}, pool.tasks[other]? = some task → task.id = id →
      task.closed = true ∧ (task.Quiet ∨ handoff = some task.handoff ∧
        task.holdsHandoff = true)) : (pool.spawnWorker id handoff).Chained where
  -- The new generation is the youngest of its id, so it can only be the later of two.
  current := by
    intro other current read
    simp only [WorkerPool.spawnWorker, HashMap.lookup_insert_ite] at read
    split at read
    · rename_i same
      cases read
      subst same
      exact newest_spawnWorker pool other handoff
    · rename_i apart
      obtain ⟨task, present, owner, last⟩ := chained.current read
      refine ⟨task, getElem?_spawnWorker present, owner, fun later after young readLater => ?_⟩
      rcases spawnWorker_cases readLater with old | ⟨_, rfl⟩
      · exact last later after young old
      · exact Ne.symm apart
  unmapped := by
    intro other task read absent
    simp only [WorkerPool.spawnWorker, HashMap.lookup_insert_ite] at absent
    split at absent
    · cases absent
    · rename_i apart
      rcases spawnWorker_cases read with old | ⟨_, rfl⟩
      · exact chained.unmapped old absent
      · exact absurd rfl apart
  before := by
    intro earlier later first second after readFirst readSecond sameId
    rcases spawnWorker_cases readFirst with oldFirst | ⟨rfl, _⟩
    · rcases spawnWorker_cases readSecond with oldSecond | ⟨_, rfl⟩
      · exact chained.before after oldFirst oldSecond sameId
      · obtain ⟨closed, quiet | ⟨shared, holds⟩⟩ := settled oldFirst sameId
        · exact ⟨closed, .inl quiet⟩
        · exact ⟨closed, .inr ⟨rfl, by simp [shared], holds⟩⟩
    · have inside := (List.getElem?_eq_some_iff.mp readSecond).1
      simp only [WorkerPool.spawnWorker, List.length_append, List.length_singleton] at inside
      omega
  sound := by
    intro other task read
    rcases spawnWorker_cases read with old | ⟨_, rfl⟩
    · exact chained.sound old
    · exact ⟨rfl, by simp, by simp [Worker.content]⟩

/-- Changing one task processes the first of its messages, in front of the rest of its lane. -/
theorem lane_update {change : Worker → Worker} {processed : Option WorkerMessage}
    (chained : pool.Chained) (found : pool.tasks[generation]? = some worker)
    (sameId : (change worker).id = worker.id)
    (parts : worker.content = processed.toList ++ (change worker).content)
    (started : processed ≠ none → worker.stage ≠ .acquiring) (id : UInt32) :
    pool.lane id =
      (if worker.id = id then processed.toList else []) ++ (pool.update generation change).lane id := by
  obtain ⟨left, right, split, rfl⟩ := exists_focus found
  have changed : (pool.update left.length change).tasks = left ++ change worker :: right := by
    rw [update, split, modify_focus]
  rw [lane, lane, changed, split]
  simp only [List.flatMap_append, List.flatMap_cons, sameId]
  split
  · rename_i sameLane
    cases processed with
    | none => simp [parts]
    | some message =>
      -- Every older generation of the lane has nothing left to process.
      have silent : (left.flatMap fun other => if other.id = id then other.content else []) = [] := by
        refine List.flatMap_eq_nil_iff.mpr fun other member => ?_
        split
        · rename_i sibling
          obtain ⟨index, before, read⟩ := exists_lt_of_mem_left right worker member
          rw [← split] at read
          refine ((chained.before before read found (sibling.trans sameLane.symm)).2.resolve_right
            fun waiting => ?_).content
          exact started nofun waiting.1
        · rfl
      rw [silent, parts]
      rfl
  · rfl

/-- Accepting a message at the newest generation of an id appends it to its lane. -/
theorem lane_accept (change : Worker → Worker) {message : WorkerMessage}
    (found : pool.tasks[generation]? = some worker)
    (newest : pool.Newest worker.id generation) (sameId : (change worker).id = worker.id)
    (grown : (change worker).content = worker.content ++ [message]) (id : UInt32) :
    (pool.update generation change).lane id =
      pool.lane id ++ if worker.id = id then [message] else [] := by
  -- No younger generation of the id exists, so the message comes last in the whole lane.
  obtain ⟨left, right, split, rfl⟩ := exists_focus found
  have changed : (pool.update left.length change).tasks = left ++ change worker :: right := by
    rw [update, split, modify_focus]
  rw [lane, lane, changed, split]
  simp only [List.flatMap_append, List.flatMap_cons, sameId]
  split
  · rename_i sameLane
    obtain ⟨_, _, _, last⟩ := newest
    have silent : (right.flatMap fun other => if other.id = id then other.content else []) = [] := by
      refine List.flatMap_eq_nil_iff.mpr fun other member => if_neg fun sibling => ?_
      obtain ⟨index, after, read⟩ := exists_gt_of_mem_right left worker member
      rw [← split] at read
      exact last index after other read (sibling.trans sameLane.symm)
    rw [silent, grown, List.append_nil, List.append_nil, List.append_assoc]
  · rw [List.append_nil]

/-- A spawned generation adds nothing to any lane. -/
theorem lane_spawnWorker (pool : WorkerPool) (id : UInt32) (handoff : Option Nat) (other : UInt32) :
    (pool.spawnWorker id handoff).lane other = pool.lane other := by
  simp [lane, spawnWorker, Worker.content]

end WorkerPool

namespace DispatcherStage

/-- The event, the attempt and the generation the dispatcher has a handle of. -/
def handle : DispatcherStage → Option (Event × Bool × Nat)
  | .checkingClosed event retry generation | .loadingPending event retry generation
  | .swappingRelease event retry generation | .addingPending event retry generation _
  | .sending event retry generation _ | .subtractingPending event retry generation _
  | .clearingRelease event retry generation => some (event, retry, generation)
  | .replacing event generation => some (event, false, generation)
  | .removing event generation => some (event, true, generation)
  | .idle | .lookingUp _ _ => none

/-- Whether the generation at hand has turned out to be closed. -/
def failed : DispatcherStage → Bool
  | .subtractingPending _ _ _ _ | .clearingRelease _ _ _ | .replacing _ _ | .removing _ _ => true
  | _ => false

/-- Whether the dispatcher is about to retain a release in place of its event. -/
def swaps : DispatcherStage → Bool
  | .swappingRelease _ _ _ => true
  | _ => false

/-- The message the dispatcher is about to queue, or has just failed to. -/
def message : DispatcherStage → Option WorkerMessage
  | .addingPending _ _ _ message | .sending _ _ _ message | .subtractingPending _ _ _ message =>
    some message
  | _ => none

end DispatcherStage

namespace WorkerPool

variable {pool next : WorkerPool} {generation : Nat} {worker : Worker}

/-- A message that stands for an event: the event itself, or a release forced by its key-up. -/
def Stands (event : Event) (generation : Nat) (message : WorkerMessage) : Prop :=
  message = .event event ∨ event.kind = .keyUp ∧ message = .forcedRelease event.id generation

/-- A standing message carries the id of its event. -/
theorem Stands.id {event : Event} {message : WorkerMessage}
    (stands : Stands event generation message) : message.id = event.id := by
  rcases stands with rfl | ⟨_, rfl⟩ <;> rfl

/-- What the dispatcher knows about the generation it has a handle of. -/
structure Held (pool : WorkerPool) (event : Event) (retry : Bool) (generation : Nat) : Prop where
  newest : pool.Newest event.id generation
  /-- Nothing was ever sent to the generation of a second attempt. -/
  quiet : retry = true → ∀ {worker : Worker}, pool.tasks[generation]? = some worker → worker.Quiet
  closed : pool.dispatcher.failed = true →
    ∀ {worker : Worker}, pool.tasks[generation]? = some worker → worker.closed = true
  stands : ∀ {message}, pool.dispatcher.message = some message → Stands event generation message
  keyUp : pool.dispatcher.swaps = true → event.kind = .keyUp

/-- What holds between the dispatcher's operations. -/
structure Dispatching (pool : WorkerPool) : Prop where
  held : ∀ {event retry generation},
    pool.dispatcher.handle = some (event, retry, generation) → pool.Held event retry generation
  fresh : ∀ {event generation}, pool.dispatcher = .lookingUp event true →
    pool.workers.lookup event.id = some generation →
    ∀ {worker : Worker}, pool.tasks[generation]? = some worker → worker.Quiet

/-- The dispatcher's knowledge survives a step that closes or quiets tasks and forgets
generations. -/
theorem Dispatching.frame (dispatching : pool.Dispatching)
    (same : next.dispatcher = pool.dispatcher)
    (newest : ∀ {id generation}, pool.Newest id generation → next.Newest id generation)
    (workers : ∀ {id generation}, next.workers.lookup id = some generation →
      pool.workers.lookup id = some generation)
    (tasks : ∀ {generation : Nat} {changed : Worker}, next.tasks[generation]? = some changed →
      ∃ worker, pool.tasks[generation]? = some worker ∧
        (worker.closed = true → changed.closed = true) ∧ (worker.Quiet → changed.Quiet)) :
    next.Dispatching where
  -- What the dispatcher knows is about one generation, which the step leaves as it was.
  held := by
    intro event retry generation holding
    have held := dispatching.held (same ▸ holding)
    refine ⟨newest held.newest, fun retried {changed} read => ?_, fun failed {changed} read => ?_,
      fun message => held.stands (same ▸ message), fun swaps => held.keyUp (same ▸ swaps)⟩
    · obtain ⟨worker, found, _, quiet⟩ := tasks read
      exact quiet (held.quiet retried found)
    · obtain ⟨worker, found, closed, _⟩ := tasks read
      exact closed (held.closed (same ▸ failed) found)
  fresh := by
    intro event generation looking mapped changed read
    obtain ⟨worker, found, _, quiet⟩ := tasks read
    exact quiet (dispatching.fresh (same ▸ looking) (workers mapped) found)

/-- A dispatcher without a handle knows nothing of a generation. -/
theorem Dispatching.of_idle (idle : pool.dispatcher = .idle) : pool.Dispatching where
  held := by simp [idle, DispatcherStage.handle]
  fresh := by simp [idle]

end WorkerPool

namespace PoolLabel

/-- The message of an id that a step accepted. -/
def accepted (id : UInt32) : PoolLabel → List WorkerMessage
  | .accept message => if message.id = id then [message] else []
  | _ => []

/-- The message of an id that a step had the engine dispatch. -/
def processed (id : UInt32) : PoolLabel → List WorkerMessage
  | .process _ message => if message.id = id then [message] else []
  | _ => []

end PoolLabel

namespace WorkerPool

variable {pool next : WorkerPool} {generation : Nat} {worker : Worker}

/-- A task changed by a step that closes or quiets it is read from one that was there. -/
theorem update_reads {change : Worker → Worker} (found : pool.tasks[generation]? = some worker)
    (closed : worker.closed = true → (change worker).closed = true)
    (quiet : worker.Quiet → (change worker).Quiet) {other : Nat} {changed : Worker}
    (read : (pool.update generation change).tasks[other]? = some changed) :
    ∃ task, pool.tasks[other]? = some task ∧ (task.closed = true → changed.closed = true) ∧
      (task.Quiet → changed.Quiet) := by
  rcases update_cases found read with ⟨rfl, rfl⟩ | ⟨_, old⟩
  · exact ⟨worker, found, closed, quiet⟩
  · exact ⟨changed, old, fun held => held, fun held => held⟩

/-- Taking a generation out of the table leaves all other entries. -/
theorem lookup_removeGeneration {id other : UInt32} {current : Nat}
    (mapped : (pool.removeGeneration id generation).workers.lookup other = some current) :
    pool.workers.lookup other = some current := by
  unfold removeGeneration at mapped
  split at mapped
  · simp only [HashMap.lookup_erase_ite] at mapped
    split at mapped
    · cases mapped
    · exact mapped
  · exact mapped

/-- Taking a generation out of the table leaves the tasks and the dispatcher alone. -/
theorem removeGeneration_tasks (pool : WorkerPool) (id : UInt32) (generation : Nat) :
    (pool.removeGeneration id generation).tasks = pool.tasks ∧
      (pool.removeGeneration id generation).dispatcher = pool.dispatcher := by
  unfold removeGeneration
  split <;> exact ⟨rfl, rfl⟩

/-- A step of one task that keeps the chain, the dispatcher's knowledge, and the lane behind what
it processed. -/
theorem moved_sound (chained : pool.Chained) (dispatching : pool.Dispatching)
    (found : pool.tasks[generation]? = some worker) {changed : Worker}
    {processed : Option WorkerMessage} (moved : worker.Moved changed processed)
    (free : worker.stage = .acquiring → pool.handoffHeld worker.handoff = false) :
    (pool.update generation fun _ => changed).Chained ∧
      (pool.update generation fun _ => changed).Dispatching ∧
      ∀ id, pool.lane id = (if worker.id = id then processed.toList else []) ++
        (pool.update generation fun _ => changed).lane id := by
  have sound := moved.sound (chained.sound found)
  have sameId : changed.id = worker.id := by cases moved <;> rfl
  have closing : worker.closed = true → changed.closed = true := by
    intro closed
    cases moved <;> first | exact closed | rfl
  by_cases acquiring : worker.stage = .acquiring
  · -- With the lock free, every older generation has settled.
    obtain ⟨stage, rfl, rfl, outside⟩ : ∃ stage, changed = { worker with stage } ∧
        processed = none ∧ stage.inCall = false := by
      cases moved with
      | pass stage _ still => exact ⟨stage, rfl, rfl, still⟩
      | take _ _ _ _ _ started => exact absurd acquiring started
      | process | count | clear | close => simp_all
    have quiet : worker.Quiet → Worker.Quiet { worker with stage } := fun quiet =>
      ⟨quiet.1, outside⟩
    refine ⟨chained.update _ found sound rfl rfl (fun earlier before other read same => ?_) ?_,
      dispatching.frame rfl (Newest.update found rfl) (fun mapped => mapped)
        (update_reads found closing quiet),
      lane_update chained found rfl ?_ nofun⟩
    -- A worker that does not acquire leaves the lock with whoever holds it.
    · refine (chained.before before read found same).2.imp_right ?_
      rintro ⟨_, shared, holds⟩
      have held : pool.handoffHeld worker.handoff = true :=
        List.any_eq_true.mpr ⟨other, List.mem_of_getElem? read, by simp [holds, shared]⟩
      rw [free acquiring] at held
      cases held
    · intro closed
      exact absurd acquiring (chained.started found closed)
    · exact moved.content
  · have tame := moved.tame (chained.sound found) acquiring
    exact ⟨chained.tame found sound tame,
      dispatching.frame rfl (Newest.update found sameId) (fun mapped => mapped)
        (update_reads found closing tame.quiet),
      lane_update chained found sameId moved.content fun _ => acquiring⟩

/-- What a step of the pool keeps: the chain, the dispatcher's knowledge, and every lane up to
what the step took from its front and put at its end. -/
def Keeps (pool : WorkerPool) (label : PoolLabel) (next : WorkerPool) : Prop :=
  next.Chained ∧ next.Dispatching ∧
    ∀ id, pool.lane id ++ label.accepted id = label.processed id ++ next.lane id

/-- A step of a worker task moves it, after taking it out of the table when it is ending. -/
theorem workerStep_moved (chained : pool.Chained) {label : PoolLabel}
    (taken : pool.workerStep generation = some (next, label)) :
    ∃ (worker changed : Worker) (processed : Option WorkerMessage) (table : WorkerPool),
      pool.tasks[generation]? = some worker ∧ worker.Moved changed processed ∧
      (worker.stage = .acquiring → pool.handoffHeld worker.handoff = false) ∧
      (table = pool ∨
        worker.stage = .removing ∧ table = pool.removeGeneration worker.id generation) ∧
      next = table.update generation (fun _ => changed) ∧
      ∀ id, label.accepted id = [] ∧
        label.processed id = if worker.id = id then processed.toList else [] := by
  -- The label of the step is what the move processed.
  unfold workerStep at taken
  obtain ⟨worker, found, taken⟩ := Option.bind_eq_some_iff.mp taken
  obtain ⟨⟨changed, processed⟩, stepped, taken⟩ := Option.bind_eq_some_iff.mp taken
  have moved := Worker.step_moved stepped
  simp only [Option.some.injEq, Prod.mk.injEq] at taken
  refine ⟨worker, changed, processed, _, found, moved, ?_, ?_, taken.1.symm, fun id => ?_⟩
  · intro acquiring
    by_contra held
    simp [Worker.step, acquiring, held] at stepped
  · split
    · rename_i removing
      exact .inr ⟨removing, rfl⟩
    · exact .inl rfl
  · cases processed with
    | none => simp [← taken.2, PoolLabel.accepted, PoolLabel.processed]
    | some message =>
      have owner : message.id = worker.id :=
        ((chained.sound found).owned message (by simp [moved.content])).1
      simp [← taken.2, PoolLabel.accepted, PoolLabel.processed, owner]

/-- A step of a worker task keeps the pool in order. -/
theorem workerStep_keeps (chained : pool.Chained) (dispatching : pool.Dispatching)
    {label : PoolLabel} (taken : pool.workerStep generation = some (next, label)) :
    pool.Keeps label next := by
  -- The table is cleaned up first, and the move follows on what is left.
  obtain ⟨worker, changed, processed, table, found, moved, free, tabled, rfl, labelled⟩ :=
    workerStep_moved chained taken
  obtain ⟨tasks, chained', dispatching'⟩ : table.tasks = pool.tasks ∧ table.Chained ∧
      table.Dispatching := by
    rcases tabled with rfl | ⟨removing, rfl⟩
    · exact ⟨rfl, chained, dispatching⟩
    · -- A worker that is removing itself is closed and quiet.
      have sound := chained.sound found
      obtain ⟨tasks, dispatcher⟩ := removeGeneration_tasks pool worker.id generation
      refine ⟨tasks, chained.removeGeneration found (by rw [sound.closed, removing]; rfl)
        ⟨sound.ended (.inl removing), by rw [removing]; rfl⟩,
        dispatching.frame dispatcher ?_ lookup_removeGeneration ?_⟩
      · intro id other newest
        simpa only [Newest, tasks] using newest
      · intro other task read
        exact ⟨task, tasks ▸ read, fun held => held, fun held => held⟩
  obtain ⟨chain, dispatch, lanes⟩ := moved_sound chained' dispatching' (tasks ▸ found) moved
    (by rwa [handoffHeld, tasks])
  refine ⟨chain, dispatch, fun id => ?_⟩
  rw [(labelled id).1, (labelled id).2, List.append_nil, ← lanes id, lane, lane, tasks]

/-- A firing idle timeout keeps the pool in order. -/
theorem timeout_keeps (chained : pool.Chained) (dispatching : pool.Dispatching)
    (found : pool.tasks[generation]? = some worker) {changed : Worker}
    (fired : worker.timeOut = some changed) :
    pool.Keeps .internal (pool.update generation fun _ => changed) := by
  obtain ⟨chain, dispatch, lanes⟩ := moved_sound chained dispatching found
    (Worker.timeOut_moved fired) (by
      intro acquiring
      simp [Worker.timeOut, acquiring] at fired)
  refine ⟨chain, dispatch, fun id => ?_⟩
  rw [lanes id]
  simp [PoolLabel.accepted, PoolLabel.processed]

/-- Moving only the dispatcher keeps the chain and the lanes. -/
theorem redirect_keeps (chained : pool.Chained) {dispatcher : DispatcherStage}
    {label : PoolLabel} (silent : ∀ id, label.accepted id = [] ∧ label.processed id = [])
    (dispatching : ({ pool with dispatcher } : WorkerPool).Dispatching) :
    pool.Keeps label { pool with dispatcher } := by
  refine ⟨⟨chained.current, chained.unmapped, chained.before, chained.sound⟩, dispatching, ?_⟩
  intro id
  rw [(silent id).1, (silent id).2, List.append_nil]
  rfl

/-- Changing a shared counter or flag of one task, and the dispatcher, keeps the pool in order. -/
theorem adjust_keeps (chained : pool.Chained) (found : pool.tasks[generation]? = some worker)
    {change : Worker → Worker} {dispatcher : DispatcherStage}
    (same : (change worker).id = worker.id ∧ (change worker).handoff = worker.handoff ∧
      (change worker).queue = worker.queue ∧ (change worker).closed = worker.closed ∧
      (change worker).stage = worker.stage)
    (dispatching : ({ pool.update generation change with dispatcher } : WorkerPool).Dispatching) :
    pool.Keeps .internal { pool.update generation change with dispatcher } := by
  -- Counters and flags are in no clause of the chain, and in no lane.
  obtain ⟨id, handoff, queue, closed, stage⟩ := same
  have content : (change worker).content = worker.content := by
    simp only [Worker.content, stage, queue]
  have sound : (change worker).Sound generation := by
    have old := chained.sound found
    exact ⟨by rw [closed, stage, old.closed], by rw [stage, queue]; exact old.ended,
      by rw [content, id]; exact old.owned⟩
  have tame : worker.Tame (change worker) :=
    ⟨id, handoff, by simp [closed], by simp [Worker.Quiet, queue, stage], by rw [stage],
      by simp [Worker.holdsHandoff, stage, imp_or]⟩
  have chain := chained.tame found sound tame
  refine ⟨⟨chain.current, chain.unmapped, chain.before, chain.sound⟩, dispatching, fun other => ?_⟩
  have lanes : pool.lane other = (pool.update generation change).lane other := by
    have parts : worker.content = (none : Option WorkerMessage).toList ++ (change worker).content :=
      by simp [content]
    simpa using lane_update chained found id parts nofun other
  exact (List.append_nil _).trans lanes

/-- The dispatcher's knowledge of a generation lets it move on to a stage of the same attempt. -/
theorem Held.dispatching {event : Event} {retry : Bool} {dispatcher : DispatcherStage}
    (held : pool.Held event retry generation) {change : Worker → Worker}
    (found : pool.tasks[generation]? = some worker)
    (same : (change worker).id = worker.id ∧ (change worker).closed = worker.closed ∧
      (worker.Quiet → (change worker).Quiet))
    (handle : dispatcher.handle = some (event, retry, generation))
    (closed : dispatcher.failed = true → worker.closed = true)
    (stands : ∀ {message}, dispatcher.message = some message → Stands event generation message)
    (keyUp : dispatcher.swaps = true → event.kind = .keyUp) :
    ({ pool.update generation change with dispatcher } : WorkerPool).Dispatching where
  -- The stage is the only thing that moves on; what is known of the generation stays.
  held := by
    intro other attempt current holding
    rw [handle] at holding
    cases holding
    have read : ∀ {changed : Worker}, (pool.update generation change).tasks[generation]? =
        some changed → changed = change worker := by
      intro changed read
      rcases update_cases found read with ⟨_, rfl⟩ | ⟨apart, _⟩
      · rfl
      · exact absurd rfl apart
    refine ⟨held.newest.update found same.1, fun retried {changed} present => ?_,
      fun failed {changed} present => ?_, stands, keyUp⟩
    · rw [read present]
      exact same.2.2 (held.quiet retried found)
    · rw [read present, same.2.1]
      exact closed failed
  fresh := by
    intro other current looking
    rw [show dispatcher = .lookingUp other true from looking] at handle
    cases handle

/-- Changing nothing about a task leaves the pool as it is. -/
theorem update_id (pool : WorkerPool) (generation : Nat) :
    pool.update generation (fun worker => worker) = pool := by
  have same : pool.tasks.modify generation (fun worker => worker) = pool.tasks :=
    List.modify_id generation pool.tasks
  rw [update, same]

/-- A dispatcher that only moves on to a stage of the same attempt keeps its knowledge. -/
theorem Held.redirect {event : Event} {retry : Bool} {dispatcher : DispatcherStage}
    (held : pool.Held event retry generation) (found : pool.tasks[generation]? = some worker)
    (handle : dispatcher.handle = some (event, retry, generation))
    (closed : dispatcher.failed = true → worker.closed = true)
    (stands : ∀ {message}, dispatcher.message = some message → Stands event generation message)
    (keyUp : dispatcher.swaps = true → event.kind = .keyUp) :
    ({ pool with dispatcher } : WorkerPool).Dispatching := by
  have moved : ({ pool.update generation fun worker => worker with dispatcher } :
      WorkerPool).Dispatching :=
    held.dispatching found ⟨rfl, rfl, fun quiet => quiet⟩ handle closed stands keyUp
  rwa [update_id] at moved

/-- After a failed attempt the dispatcher goes on with the closed generation in hand. -/
theorem Held.giveUp {event : Event} {retry : Bool} (held : pool.Held event retry generation)
    (found : pool.tasks[generation]? = some worker) (closed : worker.closed = true)
    {change : Worker → Worker}
    (same : (change worker).id = worker.id ∧ (change worker).closed = worker.closed ∧
      (worker.Quiet → (change worker).Quiet)) :
    ((pool.update generation change).giveUp event retry generation).Dispatching := by
  cases retry <;> exact held.dispatching found same rfl (fun _ => closed) nofun nofun

/-- An id has one newest generation. -/
theorem Newest.unique {id : UInt32} {left right : Nat} (first : pool.Newest id left)
    (second : pool.Newest id right) : left = right := by
  obtain ⟨older, readLeft, ownerLeft, lastLeft⟩ := first
  obtain ⟨newer, readRight, ownerRight, lastRight⟩ := second
  rcases Nat.lt_trichotomy left right with before | same | after
  · exact absurd ownerRight (lastLeft right before newer readRight)
  · exact same
  · exact absurd ownerLeft (lastRight left after older readLeft)

/-- A spawned generation is quiet. -/
theorem spawned_quiet {id : UInt32} {handoff : Option Nat} {task : Worker}
    (read : (pool.spawnWorker id handoff).tasks[pool.tasks.length]? = some task) : task.Quiet := by
  simp only [spawnWorker, List.getElem?_concat_length, Option.some.injEq] at read
  rw [← read]
  exact ⟨rfl, rfl⟩

/-- A closed task has settled its messages or still owns its handoff lock. -/
theorem Chained.settled (chained : pool.Chained) (found : pool.tasks[generation]? = some worker)
    (closed : worker.closed = true) : worker.Quiet ∨ worker.holdsHandoff = true := by
  by_cases last : worker.stage = .finished
  · exact .inl ⟨(chained.sound found).ended (.inr last), by rw [last]; rfl⟩
  · exact .inr (by simp [Worker.holdsHandoff, last, chained.started found closed])

/-- Replacing a closed generation keeps the chain, and what the table now names is quiet. -/
theorem replace_keeps {event : Event} {retry : Bool} (chained : pool.Chained)
    (held : pool.Held event retry generation) (found : pool.tasks[generation]? = some worker)
    (closed : worker.closed = true) :
    pool.Keeps .internal { pool.replaceClosedGeneration event.id generation worker with
      dispatcher := .lookingUp event true } := by
  -- The closed generation is the newest, so a spawned one succeeds it under its own lock.
  have spawned : ({ pool.spawnWorker event.id (some worker.handoff) with
      dispatcher := .lookingUp event true } : WorkerPool).Chained ∧
      ∀ {current : Nat}, (pool.spawnWorker event.id (some worker.handoff)).workers.lookup event.id =
        some current → current = pool.tasks.length := by
    obtain ⟨task, readNewest, owner, last⟩ := held.newest
    rw [found] at readNewest
    cases readNewest
    have chain := chained.spawnWorker event.id (some worker.handoff)
      fun {other task} read same => by
        rcases Nat.lt_trichotomy other generation with before | rfl | after
        · obtain ⟨done, quiet⟩ := chained.before before read found (same.trans owner.symm)
          exact ⟨done, .inl (quiet.resolve_right fun waiting =>
            chained.started found closed waiting.1)⟩
        · rw [found] at read
          cases read
          exact ⟨closed, (chained.settled found closed).imp_right fun holds => ⟨rfl, holds⟩⟩
        · exact absurd same (last other after task read)
    refine ⟨⟨chain.current, chain.unmapped, chain.before, chain.sound⟩, fun mapped => ?_⟩
    simp only [WorkerPool.spawnWorker, HashMap.lookup_insert_ite, if_true] at mapped
    exact (Option.some.inj mapped).symm
  have replaced : pool.replaceClosedGeneration event.id generation worker =
      pool.spawnWorker event.id (some worker.handoff) := by
    unfold replaceClosedGeneration
    cases mapped : pool.workers.lookup event.id with
    | none => rfl
    | some current => simp [(chained.current mapped).unique held.newest]
  rw [replaced]
  refine ⟨spawned.1, ⟨nofun, ?_⟩, fun id => ?_⟩
  · intro other current looking mapped task read
    cases looking
    cases spawned.2 mapped
    exact spawned_quiet read
  · exact (List.append_nil _).trans (lane_spawnWorker pool event.id _ id).symm

/-- Accepting a message keeps the pool in order, with the message last in its lane. -/
theorem accept_keeps {event : Event} {retry : Bool} {message : WorkerMessage}
    (chained : pool.Chained) (held : pool.Held event retry generation)
    (stands : Stands event generation message)
    (found : pool.tasks[generation]? = some worker) (closed : worker.closed = false) :
    pool.Keeps (.accept message) { pool.update generation fun worker =>
      { worker with queue := worker.queue ++ [message] } with dispatcher := .idle } := by
  -- The queue grows at its end, and the generation is open, so nothing waits behind it.
  have owner : worker.id = event.id := by
    obtain ⟨task, read, owner, _⟩ := held.newest
    rw [found] at read
    cases read
    exact owner
  have grown : Worker.content { worker with queue := worker.queue ++ [message] } =
      worker.content ++ [message] := by
    unfold Worker.content
    cases worker.stage <;> rfl
  have sound := chained.sound found
  have chain := chained.update (fun worker => { worker with queue := worker.queue ++ [message] }) found
    { closed := sound.closed
      ended := by
        intro last
        have agreed := sound.closed
        have last : worker.stage = .removing ∨ worker.stage = .finished := last
        rcases last with last | last <;> simp [closed, last, WorkerStage.sealed] at agreed
      owned := by
        intro other member
        rw [grown, List.mem_append, List.mem_singleton] at member
        rcases member with member | rfl
        · exact sound.owned other member
        · refine ⟨stands.id.trans owner.symm, fun id current same => ?_⟩
          rcases stands with rfl | ⟨_, rfl⟩ <;> cases same
          rfl }
    rfl rfl (fun earlier before other read same => (chained.before before read found same).2)
    (by simp [closed])
  refine ⟨⟨chain.current, chain.unmapped, chain.before, chain.sound⟩, .of_idle rfl, fun id => ?_⟩
  have lanes := lane_accept (fun worker => { worker with queue := worker.queue ++ [message] })
    found (owner ▸ held.newest) rfl grown id
  rw [owner, ← stands.id] at lanes
  exact lanes.symm

/-- A step of the dispatcher keeps the pool in order. -/
theorem dispatcherStep_keeps {capacity : Nat} (chained : pool.Chained)
    (dispatching : pool.Dispatching) {label : PoolLabel}
    (taken : pool.dispatcherStep capacity = some (next, label)) : pool.Keeps label next := by
  have silent : ∀ id, PoolLabel.internal.accepted id = [] ∧ PoolLabel.internal.processed id = [] :=
    fun _ => ⟨rfl, rfl⟩
  unfold dispatcherStep at taken
  cases stage : pool.dispatcher with
  | idle => simp [stage] at taken
  | lookingUp event retry =>
    simp only [stage] at taken
    -- The table decides where the dispatcher goes with the event.
    split at taken
    · -- The table names the newest generation.
      rename_i current mapped
      cases taken
      obtain ⟨task, found, owner, last⟩ := chained.current mapped
      refine redirect_keeps chained silent ⟨fun {other attempt newest} handle => ?_, nofun⟩
      cases handle
      exact ⟨⟨task, found, owner, last⟩, fun retried {_} read =>
        dispatching.fresh (retried ▸ stage) mapped read, nofun, nofun, nofun⟩
    · -- Without an entry every generation of the id has settled, and a new one is spawned.
      rename_i absent
      cases taken
      have chain := chained.spawnWorker event.id none fun read same =>
        ((chained.unmapped read (same ▸ absent)).imp_right .inl)
      refine ⟨⟨chain.current, chain.unmapped, chain.before, chain.sound⟩,
        ⟨fun {other attempt newest} handle => ?_, nofun⟩, fun id => ?_⟩
      · cases handle
        exact ⟨newest_spawnWorker pool event.id none, fun _ {_} read => spawned_quiet read, nofun,
          nofun, nofun⟩
      · exact (List.append_nil _).trans (lane_spawnWorker pool event.id none id).symm
  -- A closed generation sends the dispatcher to replace it, or to remove it on a retry.
  | checkingClosed event retry current =>
    simp only [stage] at taken
    obtain ⟨task, found, taken⟩ := Option.bind_eq_some_iff.mp taken
    have held := dispatching.held (by rw [stage]; rfl)
    split at taken
    · rename_i closed
      cases taken
      cases retry <;>
        exact redirect_keeps chained silent (held.redirect found rfl (fun _ => closed) nofun nofun)
    · cases taken
      exact redirect_keeps chained silent (held.redirect found rfl nofun nofun nofun)
  | loadingPending event retry current =>
    simp only [stage] at taken
    obtain ⟨task, found, taken⟩ := Option.bind_eq_some_iff.mp taken
    have held := dispatching.held (by rw [stage]; rfl)
    split at taken
    · split at taken
      · rename_i keyUp
        cases taken
        exact redirect_keeps chained silent (held.redirect found rfl nofun nofun fun _ => keyUp)
      · cases taken
        exact redirect_keeps chained (fun _ => ⟨rfl, rfl⟩) (.of_idle rfl)
    · cases taken
      refine redirect_keeps chained silent (held.redirect found rfl nofun (fun same => ?_) nofun)
      cases same
      exact .inl rfl
  -- Only one of two releases at a full queue takes the place that is reserved for it.
  | swappingRelease event retry current =>
    simp only [stage] at taken
    obtain ⟨task, found, taken⟩ := Option.bind_eq_some_iff.mp taken
    have held := dispatching.held (by rw [stage]; rfl)
    split at taken
    · cases taken
      exact redirect_keeps chained (fun _ => ⟨rfl, rfl⟩) (.of_idle rfl)
    · cases taken
      refine adjust_keeps chained found ⟨rfl, rfl, rfl, rfl, rfl⟩
        (held.dispatching found ⟨rfl, rfl, fun quiet => quiet⟩ rfl nofun (fun same => ?_) nofun)
      cases same
      exact .inr ⟨held.keyUp (by rw [stage]; rfl), rfl⟩
  | addingPending event retry current message =>
    simp only [stage] at taken
    cases taken
    have held := dispatching.held (by rw [stage]; rfl)
    obtain ⟨task, found, _⟩ := held.newest
    refine adjust_keeps chained found ⟨rfl, rfl, rfl, rfl, rfl⟩
      (held.dispatching found ⟨rfl, rfl, fun quiet => quiet⟩ rfl nofun (fun same => ?_) nofun)
    exact held.stands (by rw [stage]; exact same)
  | sending event retry current message =>
    simp only [stage] at taken
    obtain ⟨task, found, taken⟩ := Option.bind_eq_some_iff.mp taken
    have held := dispatching.held (by rw [stage]; rfl)
    have carried : pool.dispatcher.message = some message := by rw [stage]; rfl
    have stands := held.stands carried
    split at taken
    · rename_i closed
      cases taken
      refine redirect_keeps chained silent (held.redirect found rfl (fun _ => closed) (fun same => ?_)
        nofun)
      cases same
      exact stands
    · rename_i opened
      cases taken
      exact accept_keeps chained held stands found (by simpa using opened)
  -- The channel turned out closed, so the count is taken back and the generation given up.
  | subtractingPending event retry current message =>
    have handle : pool.dispatcher.handle = some (event, retry, current) := by rw [stage]; rfl
    have held := dispatching.held handle
    obtain ⟨task, found, _⟩ := held.newest
    have closed := held.closed (by rw [stage]; rfl) found
    simp only [stage] at taken
    split at taken
    · cases taken
      exact adjust_keeps chained found ⟨rfl, rfl, rfl, rfl, rfl⟩
        (held.dispatching found ⟨rfl, rfl, fun quiet => quiet⟩ rfl (fun _ => closed) nofun nofun)
    · cases taken
      exact adjust_keeps chained found ⟨rfl, rfl, rfl, rfl, rfl⟩
        (held.giveUp found closed ⟨rfl, rfl, fun quiet => quiet⟩)
  | clearingRelease event retry current =>
    have handle : pool.dispatcher.handle = some (event, retry, current) := by rw [stage]; rfl
    have held := dispatching.held handle
    obtain ⟨task, found, _⟩ := held.newest
    have closed := held.closed (by rw [stage]; rfl) found
    simp only [stage] at taken
    cases taken
    exact adjust_keeps chained found ⟨rfl, rfl, rfl, rfl, rfl⟩
      (held.giveUp found closed ⟨rfl, rfl, fun quiet => quiet⟩)
  | replacing event current =>
    have handle : pool.dispatcher.handle = some (event, false, current) := by rw [stage]; rfl
    have held := dispatching.held handle
    simp only [stage] at taken
    obtain ⟨task, found, taken⟩ := Option.bind_eq_some_iff.mp taken
    cases taken
    exact replace_keeps chained held found (held.closed (by rw [stage]; rfl) found)
  -- The generation is closed and has nothing left, so its entry may go.
  | removing event current =>
    have handle : pool.dispatcher.handle = some (event, true, current) := by rw [stage]; rfl
    have held := dispatching.held handle
    obtain ⟨task, found, owner, _⟩ := held.newest
    simp only [stage] at taken
    cases taken
    have chain := chained.removeGeneration found (held.closed (by rw [stage]; rfl) found)
      (held.quiet rfl found)
    rw [owner] at chain
    refine ⟨⟨chain.current, chain.unmapped, chain.before, chain.sound⟩, .of_idle rfl, fun id => ?_⟩
    refine (List.append_nil _).trans ?_
    simp only [lane, (removeGeneration_tasks pool event.id current).1]
    rfl

/-- Every step of the pool keeps it in order. -/
theorem steps_keep {capacity : Nat} (chained : pool.Chained) (dispatching : pool.Dispatching)
    {label : PoolLabel} (taken : pool.Steps capacity label next) : pool.Keeps label next := by
  -- The arrival and the timeouts leave the tasks, and the rest was shown above.
  obtain ⟨choice, taken⟩ := taken
  cases choice with
  | arrive event =>
    simp only [step] at taken
    split at taken
    · cases taken
      exact redirect_keeps chained (fun _ => ⟨rfl, rfl⟩) ⟨nofun, nofun⟩
    · cases taken
  | dispatcher => exact dispatcherStep_keeps chained dispatching taken
  | worker generation => exact workerStep_keeps chained dispatching taken
  | timeout generation =>
    simp only [step] at taken
    obtain ⟨worker, found, taken⟩ := Option.bind_eq_some_iff.mp taken
    obtain ⟨changed, fired, taken⟩ := Option.bind_eq_some_iff.mp taken
    cases taken
    exact timeout_keeps chained dispatching found fired
  | shutdown =>
    cases taken
    refine ⟨⟨chained.current, chained.unmapped, chained.before, chained.sound⟩,
      dispatching.frame rfl (fun newest => newest) (fun mapped => mapped)
        (fun {_ task} read => ⟨task, read, fun held => held, fun held => held⟩), fun id => ?_⟩
    exact List.append_nil _

/-- The messages of an id accepted along some labels, in order. -/
def acceptedOf (id : UInt32) (labels : List PoolLabel) : List WorkerMessage :=
  labels.flatMap (PoolLabel.accepted id)

/-- The messages of an id the engine dispatched along some labels, in order. -/
def processedOf (id : UInt32) (labels : List PoolLabel) : List WorkerMessage :=
  labels.flatMap (PoolLabel.processed id)

/-- The state of a pool after some labels: each lane is what was accepted and not processed. -/
structure InOrder (past : List PoolLabel) (pool : WorkerPool) : Prop where
  chained : pool.Chained
  dispatching : pool.Dispatching
  lanes : ∀ id, acceptedOf id past = processedOf id past ++ pool.lane id

/-- A pool without workers is in order. -/
theorem InOrder.start : InOrder [] {} :=
  ⟨⟨by simp, by simp, by simp, by simp⟩, .of_idle rfl, fun _ => rfl⟩

/-- A step of the pool keeps its lanes up to date. -/
theorem InOrder.step {capacity : Nat} {past : List PoolLabel} {label : PoolLabel}
    (order : InOrder past pool) (taken : pool.Steps capacity label next) :
    InOrder (past ++ [label]) next := by
  -- What was accepted is what was processed with what is still in the lane, before and after.
  obtain ⟨chained, dispatching, lanes⟩ := steps_keep order.chained order.dispatching taken
  refine ⟨chained, dispatching, fun id => ?_⟩
  calc acceptedOf id (past ++ [label]) = acceptedOf id past ++ label.accepted id := by
        simp [acceptedOf]
    _ = processedOf id past ++ (pool.lane id ++ label.accepted id) := by
        rw [order.lanes, List.append_assoc]
    _ = processedOf id (past ++ [label]) ++ next.lane id := by
        rw [lanes]
        simp [processedOf]

end WorkerPool

end Hotki

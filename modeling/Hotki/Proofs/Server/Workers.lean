import Hotki.Proofs.Server.WorkerOrder

/-! When a saturated worker queue still delivers a release after every press it accepted. -/

namespace Hotki

open Base

/-- The press edge a message stands for; the repeats of a held key are none. -/
def WorkerMessage.edge : WorkerMessage → Option EventKind
  | .event input =>
    match input.kind, input.repeated with
    | .keyDown, true => none
    | kind, _ => some kind
  | .forcedRelease _ _ => some .keyUp

/-- A forced message is a release. -/
theorem WorkerMessage.edge_of_forced {message : WorkerMessage} (forced : message.isForced = true) :
    message.edge = some .keyUp := by
  cases message with
  | event input => cases forced
  | forcedRelease id generation => rfl

/-- The last press edge of some messages. -/
def lastEdge (messages : List WorkerMessage) : Option EventKind :=
  (messages.filterMap WorkerMessage.edge).getLast?

/-- The last edge of two parts is the last edge of the second, or else of the first. -/
theorem lastEdge_append (first second : List WorkerMessage) :
    lastEdge (first ++ second) = (lastEdge second).or (lastEdge first) := by
  simp [lastEdge, List.getLast?_append]

/-- Without an edge in the second part the last edge is that of the first. -/
theorem lastEdge_append_ne {first second : List WorkerMessage} {kind : EventKind}
    (left : lastEdge second = none → lastEdge first ≠ some kind)
    (right : lastEdge second ≠ some kind) : lastEdge (first ++ second) ≠ some kind := by
  rw [lastEdge_append]
  cases found : lastEdge second with
  | none => exact left found
  | some other => rwa [found] at right

/-- Messages without a last edge contain no edge. -/
theorem edge_of_lastEdge_none {messages : List WorkerMessage} (none : lastEdge messages = none)
    {message : WorkerMessage} (member : message ∈ messages) : message.edge = Option.none := by
  simp only [lastEdge, List.getLast?_eq_none_iff, List.filterMap_eq_nil_iff] at none
  exact none message member

/-- After a press that is not the last edge there is a release. -/
theorem exists_release {before after : List WorkerMessage} {press : WorkerMessage}
    (down : press.edge = some .keyDown)
    (last : lastEdge (before ++ press :: after) ≠ some .keyDown) :
    ∃ answer ∈ after, answer.edge = some .keyUp := by
  -- The last edge of the tail is a release, since the press alone would be a last key-down.
  have split : lastEdge (press :: after) = (lastEdge after).or (some .keyDown) := by
    rw [show press :: after = [press] ++ after from rfl, lastEdge_append]
    simp [lastEdge, down]
  rw [lastEdge_append, split] at last
  cases found : lastEdge after with
  | none => simp [found] at last
  | some kind =>
    cases kind with
    | keyDown => simp [found] at last
    | keyUp =>
      obtain ⟨answer, member, edge⟩ := List.mem_filterMap.mp (List.mem_of_getLast? found)
      exact ⟨answer, member, edge⟩

/-- Whether a worker has had a forced release dispatched and not yet cleared its flag. -/
def WorkerStage.settles : WorkerStage → Bool
  | .counting forcedRelease _ => forcedRelease
  | .clearing _ => true
  | _ => false

/-- Settling a release is part of a call. -/
theorem WorkerStage.inCall_of_settles {stage : WorkerStage} (settles : stage.settles = true) :
    stage.inCall = true := by
  cases stage <;> simp_all [WorkerStage.settles, WorkerStage.inCall]

/-- Whether the dispatcher is between raising a release flag and queueing the release for it. -/
def DispatcherStage.marks (generation : Nat) : DispatcherStage → Bool
  | .addingPending _ _ current message | .sending _ _ current message
  | .subtractingPending _ _ current message => message.isForced && current == generation
  | .clearingRelease _ _ current => current == generation
  | _ => false

/-- The event the dispatcher is working on. -/
def DispatcherStage.event : DispatcherStage → Option Event
  | .idle => none
  | .lookingUp event _ | .checkingClosed event _ _ | .loadingPending event _ _
  | .swappingRelease event _ _ | .addingPending event _ _ _ | .sending event _ _ _
  | .subtractingPending event _ _ _ | .clearingRelease event _ _ | .replacing event _
  | .removing event _ => some event

namespace Worker

variable {worker next : Worker} {processed : Option WorkerMessage}

/-- Whether a worker has a forced release among its messages. -/
def retains (worker : Worker) : Prop := ∃ message ∈ worker.content, message.isForced = true

/-- A raised flag was raised before the step, and its release is only given up to be settled. -/
theorem Moved.retains (moved : worker.Moved next processed) (raised : next.releasePending = true) :
    worker.releasePending = true ∧
      (worker.retains ∨ worker.stage.settles = true →
        next.retains ∨ next.stage.settles = true) := by
  -- A raised flag is lowered only by the stage that settles its release.
  have parts := moved.content
  cases moved with
  | pass stage outside =>
    refine ⟨raised, fun held => held.imp ?_ fun settles => ?_⟩
    · rintro ⟨message, member, forced⟩
      exact ⟨message, by simpa [parts] using member, forced⟩
    · simp [WorkerStage.inCall_of_settles settles] at outside
  | take message queue late queued outside =>
    refine ⟨raised, fun held => held.imp ?_ fun settles => ?_⟩
    · rintro ⟨message, member, forced⟩
      exact ⟨message, by simpa [parts] using member, forced⟩
    · simp [WorkerStage.inCall_of_settles settles] at outside
  | process message late stage =>
    refine ⟨raised, fun held => ?_⟩
    rcases held with ⟨other, member, forced⟩ | settles
    · rw [parts] at member
      rcases List.mem_append.mp member with same | later
      · rw [List.mem_singleton.mp same] at forced
        exact .inr forced
      · exact .inl ⟨other, later, forced⟩
    · simp [stage, WorkerStage.settles] at settles
  | count forcedRelease late stage =>
    refine ⟨raised, fun held => ?_⟩
    rcases held with ⟨other, member, forced⟩ | settles
    · exact .inl ⟨other, by simpa [parts] using member, forced⟩
    · have forced : forcedRelease = true := by simpa [stage, WorkerStage.settles] using settles
      exact .inr (by simp [forced, WorkerStage.settles])
  | clear late stage => cases raised
  | close stage =>
    refine ⟨raised, fun held => held.imp ?_ fun settles => ?_⟩
    · rintro ⟨message, member, forced⟩
      exact ⟨message, by simpa [parts] using member, forced⟩
    · simp [stage, WorkerStage.settles] at settles

/-- A worker starts to settle a release only when the engine has dispatched one. -/
theorem Moved.settles (moved : worker.Moved next processed) (settles : next.stage.settles = true) :
    worker.stage.settles = true ∨ ∃ message, processed = some message ∧ message.isForced = true := by
  -- A worker settles what it has processed, or what it was forced to release.
  cases moved with
  | pass stage outside still => simp [WorkerStage.inCall_of_settles settles] at still
  | take => cases settles
  | process message late stage => exact .inr ⟨message, rfl, settles⟩
  | count forcedRelease late stage =>
    cases forcedRelease with
    | true => exact .inl (by simp [stage, WorkerStage.settles])
    | false => cases late <;> cases settles
  | clear late stage => exact .inl (by simp [stage, WorkerStage.settles])
  | close => cases settles

end Worker

namespace WorkerPool

variable {pool next : WorkerPool} {generation : Nat} {worker : Worker}

/-- Two workers of one id are never in a call at the same time. -/
theorem Chained.one_call (chained : pool.Chained) {other : Nat} {sibling : Worker}
    (found : pool.tasks[generation]? = some worker) (read : pool.tasks[other]? = some sibling)
    (sameId : sibling.id = worker.id) (call : worker.stage.inCall = true)
    (siblingCall : sibling.stage.inCall = true) : other = generation := by
  -- Whichever is older has settled, or the younger one is still waiting.
  have apart : ∀ {older newer : Worker}, older.stage.inCall = true → newer.stage.inCall = true →
      ¬(older.Quiet ∨ newer.stage = .acquiring ∧ older.handoff = newer.handoff ∧
        older.holdsHandoff = true) := by
    rintro older newer busy busy' (⟨_, idle⟩ | ⟨waiting, _⟩)
    · simp [busy] at idle
    · simp [waiting, WorkerStage.inCall] at busy'
  rcases Nat.lt_trichotomy other generation with before | same | after
  · exact absurd (chained.before before read found sameId).2 (apart siblingCall call)
  · exact same
  · exact absurd (chained.before after found read sameId.symm).2 (apart call siblingCall)

/-- A raised release flag is backed by a release that is about to be queued, is queued, or is
being settled. -/
def Retained (pool : WorkerPool) : Prop :=
  ∀ {generation : Nat} {worker : Worker}, pool.tasks[generation]? = some worker →
    worker.releasePending = true →
      (worker.retains ∨ worker.stage.settles = true) ∨ pool.dispatcher.marks generation = true

/-- While a release is settled, it is the last edge the engine has seen of its id. -/
def Settled (past : List PoolLabel) (pool : WorkerPool) : Prop :=
  ∀ {generation : Nat} {worker : Worker}, pool.tasks[generation]? = some worker →
    worker.stage.settles = true → lastEdge (processedOf worker.id past) = some .keyUp

/-- A task read after the change of one is that one changed or another one as it was. -/
theorem update_read {change : Worker → Worker} {current : Nat} {changed : Worker}
    (read : (pool.update current change).tasks[generation]? = some changed) :
    ∃ task, pool.tasks[generation]? = some task ∧
      (generation = current ∧ changed = change task ∨ generation ≠ current ∧ changed = task) := by
  rw [getElem?_update] at read
  split at read
  · rename_i same
    obtain ⟨task, found, rfl⟩ := Option.map_eq_some_iff.mp read
    exact ⟨task, found, .inl ⟨same.symm, rfl⟩⟩
  · rename_i apart
    exact ⟨changed, read, .inr ⟨Ne.symm apart, rfl⟩⟩

/-- What a dispatcher step leaves of each task. -/
theorem dispatcherStep_reads {capacity : Nat} {label : PoolLabel}
    (taken : pool.dispatcherStep capacity = some (next, label)) {changed : Worker}
    (read : next.tasks[generation]? = some changed) :
    changed.releasePending = false ∧ changed.stage = .acquiring ∨
    ∃ worker, pool.tasks[generation]? = some worker ∧ changed.id = worker.id ∧
      changed.stage = worker.stage ∧ (worker.retains → changed.retains) ∧
      (changed.releasePending = true → next.dispatcher.marks generation = true ∨
        worker.releasePending = true ∧ (pool.dispatcher.marks generation = true →
          changed.retains)) := by
  -- A task that is as before is a witness unless the dispatcher stops backing its flag.
  have same : ∀ {task : Worker}, pool.tasks[generation]? = some task →
      (pool.dispatcher.marks generation = true → next.dispatcher.marks generation = true) →
      ∃ worker, pool.tasks[generation]? = some worker ∧ task.id = worker.id ∧
        task.stage = worker.stage ∧ (worker.retains → task.retains) ∧
        (task.releasePending = true → next.dispatcher.marks generation = true ∨
          worker.releasePending = true ∧ (pool.dispatcher.marks generation = true →
            task.retains)) := by
    intro task found kept
    refine ⟨task, found, rfl, rfl, fun held => held, fun raised => ?_⟩
    by_cases marks : pool.dispatcher.marks generation = true
    · exact .inl (kept marks)
    · exact .inr ⟨raised, fun marked => absurd marked marks⟩
  unfold dispatcherStep at taken
  cases stage : pool.dispatcher with
  | idle => simp [stage] at taken
  | lookingUp event retry =>
    simp only [stage] at taken same ⊢
    split at taken <;> cases taken
    · exact .inr (same read nofun)
    · rcases spawnWorker_cases read with old | ⟨_, rfl⟩
      · exact .inr (same old nofun)
      · exact .inl ⟨rfl, rfl⟩
  | checkingClosed event retry current =>
    simp only [stage] at taken same ⊢
    obtain ⟨task, found, taken⟩ := Option.bind_eq_some_iff.mp taken
    split at taken <;> cases taken <;> exact .inr (same read nofun)
  | loadingPending event retry current =>
    simp only [stage] at taken same ⊢
    obtain ⟨task, found, taken⟩ := Option.bind_eq_some_iff.mp taken
    split at taken
    · split at taken <;> cases taken <;> exact .inr (same read nofun)
    · cases taken
      exact .inr (same read nofun)
  -- Raising the flag is backed by the message the dispatcher now carries.
  | swappingRelease event retry current =>
    simp only [stage] at taken same ⊢
    obtain ⟨task, found, taken⟩ := Option.bind_eq_some_iff.mp taken
    split at taken <;> cases taken
    · exact .inr (same read nofun)
    · rcases update_cases found read with ⟨rfl, rfl⟩ | ⟨_, old⟩
      · exact .inr ⟨task, found, rfl, rfl, fun held => held, fun _ => .inl (by
          simp [DispatcherStage.marks, WorkerMessage.isForced])⟩
      · exact .inr (same old nofun)
  | addingPending event retry current message =>
    simp only [stage] at taken same ⊢
    cases taken
    obtain ⟨task, found, ⟨_, rfl⟩ | ⟨_, rfl⟩⟩ := update_read read
    · obtain ⟨worker, old, parts⟩ := same found fun marks => marks
      exact .inr ⟨worker, old, parts⟩
    · exact .inr (same found fun marks => marks)
  | sending event retry current message =>
    simp only [stage] at taken same ⊢
    obtain ⟨task, found, taken⟩ := Option.bind_eq_some_iff.mp taken
    split at taken <;> cases taken
    · exact .inr (same read fun marks => marks)
    · obtain ⟨worker, old, ⟨_, rfl⟩ | ⟨apart, rfl⟩⟩ := update_read read
      · -- The message is now queued, behind those that were there.
        have content : Worker.content { worker with queue := worker.queue ++ [message] } =
            worker.content ++ [message] := by
          unfold Worker.content
          cases worker.stage <;> rfl
        refine .inr ⟨worker, old, rfl, rfl, ?_, fun raised => .inr ⟨raised, fun marks => ?_⟩⟩
        · rintro ⟨other, member, forced⟩
          exact ⟨other, by rw [content]; exact List.mem_append_left _ member, forced⟩
        · simp only [DispatcherStage.marks, Bool.and_eq_true] at marks
          exact ⟨message, by rw [content]; simp, marks.1⟩
      · refine .inr ⟨changed, old, rfl, rfl, fun held => held, fun raised => .inr ⟨raised, ?_⟩⟩
        intro marks
        simp only [DispatcherStage.marks, Bool.and_eq_true, beq_iff_eq] at marks
        exact absurd marks.2.symm apart
  | subtractingPending event retry current message =>
    simp only [stage] at taken same ⊢
    cases message with
    | forcedRelease id other =>
      cases taken
      obtain ⟨task, found, ⟨_, rfl⟩ | ⟨_, rfl⟩⟩ := update_read read
      · exact .inr (@same task found fun marks => by
          simpa [DispatcherStage.marks, WorkerMessage.isForced] using marks)
      · exact .inr (same found fun marks => by
          simpa [DispatcherStage.marks, WorkerMessage.isForced] using marks)
    | event input =>
      cases taken
      obtain ⟨task, found, ⟨_, rfl⟩ | ⟨_, rfl⟩⟩ := update_read read
      · exact .inr (@same task found fun marks => by
          simp [DispatcherStage.marks, WorkerMessage.isForced] at marks)
      · exact .inr (same found fun marks => by
          simp [DispatcherStage.marks, WorkerMessage.isForced] at marks)
  -- The flag it raised is lowered, as its message was not taken.
  | clearingRelease event retry current =>
    simp only [stage] at taken same ⊢
    cases taken
    obtain ⟨task, found, ⟨_, rfl⟩ | ⟨apart, rfl⟩⟩ := update_read read
    · exact .inr ⟨task, found, rfl, rfl, fun held => held, nofun⟩
    · exact .inr (same found fun marks => by
        simp only [DispatcherStage.marks, beq_iff_eq] at marks
        exact absurd marks.symm apart)
  -- A replacement starts with a flag of its own, lowered.
  | replacing event current =>
    simp only [stage] at taken same ⊢
    obtain ⟨closed, found, taken⟩ := Option.bind_eq_some_iff.mp taken
    cases taken
    simp only [replaceClosedGeneration] at read
    split at read
    · rcases spawnWorker_cases read with old | ⟨_, rfl⟩
      · exact .inr (same old nofun)
      · exact .inl ⟨rfl, rfl⟩
    · split at read
      · rcases spawnWorker_cases read with old | ⟨_, rfl⟩
        · exact .inr (same old nofun)
        · exact .inl ⟨rfl, rfl⟩
      · exact .inr (same read nofun)
  | removing event current =>
    simp only [stage] at taken same ⊢
    cases taken
    refine .inr (same ?_ nofun)
    rwa [← (removeGeneration_tasks pool event.id current).1]

/-- The dispatcher processes no message. -/
theorem dispatcherStep_processed {capacity : Nat} {label : PoolLabel}
    (taken : pool.dispatcherStep capacity = some (next, label)) (id : UInt32) :
    label.processed id = [] := by
  cases label with
  | process generation message =>
    unfold dispatcherStep at taken
    grind
  | _ => rfl

/-- A step of one task keeps every raised flag backed. -/
theorem Retained.moved (retained : pool.Retained) (found : pool.tasks[generation]? = some worker)
    {changed : Worker} {processed : Option WorkerMessage} (moved : worker.Moved changed processed) :
    (pool.update generation fun _ => changed).Retained := by
  intro other task read raised
  rcases update_cases found read with ⟨rfl, rfl⟩ | ⟨_, old⟩
  · obtain ⟨before, kept⟩ := moved.retains raised
    exact (retained found before).imp_left kept
  · exact retained old raised

/-- A step of one task leaves the release it settles as the last edge of its id. -/
theorem Settled.moved {past : List PoolLabel} (settled : pool.Settled past)
    (chained : pool.Chained) (found : pool.tasks[generation]? = some worker) {changed : Worker}
    {processed : Option WorkerMessage} (moved : worker.Moved changed processed)
    {label : PoolLabel} (labelled : ∀ id, label.processed id =
      if worker.id = id then processed.toList else []) :
    (pool.update generation fun _ => changed).Settled (past ++ [label]) := by
  have grown : ∀ id, processedOf id (past ++ [label]) =
      processedOf id past ++ if worker.id = id then processed.toList else [] := by
    intro id
    simp [processedOf, ← labelled]
  have sameId : changed.id = worker.id := by cases moved <;> rfl
  -- A message is only processed by a task that is in its call.
  have calls : ∀ {message}, processed = some message → worker.stage.inCall = true := by
    intro message processes
    subst processes
    cases moved with
    | process message late stage => rw [stage]; rfl
  intro other task read settles
  rw [grown]
  rcases update_cases found read with ⟨rfl, rfl⟩ | ⟨apart, old⟩
  · rw [if_pos sameId.symm, sameId]
    rcases moved.settles settles with before | ⟨message, rfl, forced⟩
    · have silent : processed = none := by
        cases moved with
        | process message late stage => simp [stage, WorkerStage.settles] at before
        | _ => rfl
      rw [silent, Option.toList_none, List.append_nil]
      exact settled found before
    · simp [lastEdge, WorkerMessage.edge_of_forced forced]
  · split
    · rename_i sibling
      cases processed with
      | none =>
        rw [Option.toList_none, List.append_nil]
        exact settled old settles
      | some message =>
        exact absurd (chained.one_call found old sibling.symm (calls rfl)
          (WorkerStage.inCall_of_settles settles)) apart
    · rw [List.append_nil]
      exact settled old settles

/-- The state of a pool after some labels, with the release flags of its workers accounted for. -/
structure Accounted (past : List PoolLabel) (pool : WorkerPool) : Prop where
  order : InOrder past pool
  retained : pool.Retained
  settled : pool.Settled past

/-- A pool without workers is accounted for. -/
theorem Accounted.start : Accounted [] {} := ⟨.start, by simp [Retained], by simp [Settled]⟩

/-- A step of the pool keeps its release flags accounted for. -/
theorem Accounted.step {capacity : Nat} {past : List PoolLabel} {label : PoolLabel}
    (accounted : Accounted past pool) (taken : pool.Steps capacity label next) :
    Accounted (past ++ [label]) next := by
  -- One case for each party; only the dispatcher and the workers raise or settle a release.
  obtain ⟨order, retained, settled⟩ := accounted
  have unseen : ∀ id, label.processed id = [] →
      processedOf id (past ++ [label]) = processedOf id past := by
    intro id silent
    simp [processedOf, silent]
  have advanced := order.step taken
  obtain ⟨choice, taken⟩ := taken
  cases choice with
  | arrive event =>
    simp only [WorkerPool.step] at taken
    split at taken
    · rename_i idle
      cases taken
      refine ⟨advanced, fun found raised => ?_, fun found settles => ?_⟩
      · refine .inl ((retained found raised).resolve_right fun marks => ?_)
        simp [idle, DispatcherStage.marks] at marks
      · rw [unseen _ rfl]
        exact settled found settles
    · cases taken
  | dispatcher =>
    have silent := dispatcherStep_processed taken
    refine ⟨advanced, fun read raised => ?_, fun read settles => ?_⟩
    · rcases dispatcherStep_reads taken read with ⟨lowered, _⟩ | ⟨task, found, _, stage, kept, backed⟩
      · simp [lowered] at raised
      · rcases backed raised with marks | ⟨before, queued⟩
        · exact .inr marks
        · rcases retained found before with (held | settles) | marks
          · exact .inl (.inl (kept held))
          · exact .inl (.inr (stage ▸ settles))
          · exact .inl (.inl (queued marks))
    · rw [unseen _ (silent _)]
      rcases dispatcherStep_reads taken read with ⟨_, fresh⟩ | ⟨task, found, sameId, stage, _⟩
      · simp [fresh, WorkerStage.settles] at settles
      · rw [sameId]
        exact settled found (stage ▸ settles)
  | worker generation =>
    obtain ⟨worker, changed, processed, table, found, moved, _, tabled, rfl, labelled⟩ :=
      workerStep_moved order.chained taken
    have same : table.tasks = pool.tasks ∧ table.dispatcher = pool.dispatcher := by
      rcases tabled with rfl | ⟨_, rfl⟩
      · exact ⟨rfl, rfl⟩
      · exact removeGeneration_tasks pool worker.id generation
    have found' : table.tasks[generation]? = some worker := same.1 ▸ found
    refine ⟨advanced, Retained.moved ?_ found' moved, ?_⟩
    · intro other task read raised
      rw [same.2]
      exact retained (same.1 ▸ read) raised
    · intro other task read settles
      -- Removing the generation from the table leaves the workers as they are.
      have kept : Settled (past ++ [label]) (pool.update generation fun _ => changed) :=
        settled.moved order.chained found moved fun id => (labelled id).2
      have updated : (pool.update generation fun _ => changed).tasks[other]? = some task := by
        simpa only [update, same.1] using read
      exact kept updated settles
  -- A worker that times out has processed nothing in this step.
  | timeout generation =>
    simp only [WorkerPool.step] at taken
    obtain ⟨worker, found, taken⟩ := Option.bind_eq_some_iff.mp taken
    obtain ⟨changed, fired, taken⟩ := Option.bind_eq_some_iff.mp taken
    cases taken
    have moved := Worker.timeOut_moved fired
    exact ⟨advanced, retained.moved found moved,
      settled.moved order.chained found moved fun id => by simp [PoolLabel.processed]⟩
  | shutdown =>
    cases taken
    refine ⟨advanced, retained, fun found settles => ?_⟩
    rw [unseen _ rfl]
    exact settled found settles

/-- The newest generation of an id holds the end of its lane, and all of it once it has started. -/
theorem lane_newest (chained : pool.Chained) {id : UInt32} (newest : pool.Newest id generation)
    (found : pool.tasks[generation]? = some worker) :
    ∃ older, pool.lane id = older ++ worker.content ∧ (worker.stage ≠ .acquiring → older = []) := by
  -- What comes after the newest generation belongs to other identifiers.
  obtain ⟨task, read, owner, last⟩ := newest
  rw [found] at read
  cases read
  obtain ⟨left, right, split, rfl⟩ := exists_focus found
  refine ⟨left.flatMap fun other => if other.id = id then other.content else [], ?_, ?_⟩
  · rw [lane, split, flatMap_focus_of_right, if_pos owner]
    intro other member
    obtain ⟨index, after, read⟩ := exists_gt_of_mem_right left worker member
    rw [← split] at read
    exact if_neg (last index after other read)
  · intro started
    refine List.flatMap_eq_nil_iff.mpr fun other member => ?_
    split
    · rename_i sibling
      obtain ⟨index, before, read⟩ := exists_lt_of_mem_left right worker member
      rw [← split] at read
      exact ((chained.before before read found (sibling.trans owner.symm)).2.resolve_right
        fun waiting => started waiting.1).content
    · rfl

/-- A key-up that finds a release retained already comes after no unanswered press, unless one is
queued behind that release. -/
theorem Accounted.refused {past : List PoolLabel} (accounted : Accounted past pool) {event : Event}
    {retry : Bool} (stage : pool.dispatcher = .swappingRelease event retry generation)
    (found : pool.tasks[generation]? = some worker) (raised : worker.releasePending = true)
    (spared : lastEdge worker.queue ≠ some .keyDown) :
    lastEdge (acceptedOf event.id past) ≠ some .keyDown := by
  -- The generation that refuses has the release retained, so it will still process it.
  obtain ⟨order, retained, settled⟩ := accounted
  have handle : pool.dispatcher.handle = some (event, retry, generation) := by rw [stage]; rfl
  have held := order.dispatching.held handle
  obtain ⟨older, lane, started⟩ := lane_newest order.chained held.newest found
  have owner : worker.id = event.id := by
    obtain ⟨task, read, owner, _⟩ := held.newest
    rw [found] at read
    cases read
    exact owner
  have backed := (retained found raised).resolve_right (by simp [stage, DispatcherStage.marks])
  rw [order.lanes, lane, ← List.append_assoc]
  rcases backed with ⟨message, member, forced⟩ | settles
  · -- The retained release is an edge, and what is queued behind it ends in no press.
    refine lastEdge_append_ne (fun none => ?_) ?_
    · have edge := edge_of_lastEdge_none none member
      rw [WorkerMessage.edge_of_forced forced] at edge
      cases edge
    · unfold Worker.content at member ⊢
      split
      · rename_i current late processing
        rw [processing] at member
        rw [show current :: worker.queue = [current] ++ worker.queue from rfl]
        refine lastEdge_append_ne (fun none => ?_) spared
        rcases List.mem_cons.mp member with rfl | queued
        · simp [lastEdge, WorkerMessage.edge_of_forced forced]
        · have edge := edge_of_lastEdge_none none queued
          rw [WorkerMessage.edge_of_forced forced] at edge
          cases edge
      · exact spared
  · -- The release being settled was the last edge the engine saw.
    have call := WorkerStage.inCall_of_settles settles
    have content : worker.content = worker.queue := by
      unfold Worker.content
      cases current : worker.stage <;> simp_all [WorkerStage.settles]
    rw [content, started (by rintro waiting; simp [waiting, WorkerStage.inCall] at call),
      List.append_nil]
    refine lastEdge_append_ne (fun _ => ?_) spared
    rw [← owner, settled found settles]
    simp

/-- The ways in which the dispatcher is about to refuse the event it works on. -/
inductive Refuses (capacity : Nat) (pool : WorkerPool) (event : Event) : DispatchResult → Prop where
  /-- A press or a repeat finds the queue full. -/
  | full (retry : Bool) (generation : Nat) (worker : Worker) :
      pool.dispatcher = .loadingPending event retry generation →
      pool.tasks[generation]? = some worker → capacity ≤ worker.pending →
      event.kind = .keyDown → Refuses capacity pool event .queueFull
  /-- A release finds the queue full, with another one retained already. -/
  | retained (retry : Bool) (generation : Nat) (worker : Worker) :
      pool.dispatcher = .swappingRelease event retry generation →
      pool.tasks[generation]? = some worker → worker.releasePending = true →
      Refuses capacity pool event .queueFull
  /-- The second generation is closed as well. -/
  | closed (generation : Nat) : pool.dispatcher = .removing event generation →
      Refuses capacity pool event .queueClosed

/-- What a dispatcher step does to the event at hand: goes on with it, queues a message for it, or
returns without one. -/
theorem dispatcherStep_outcome {capacity : Nat} (dispatching : pool.Dispatching)
    {label : PoolLabel} (taken : pool.dispatcherStep capacity = some (next, label)) {event : Event}
    (working : pool.dispatcher.event = some event) :
    label = .internal ∧ next.dispatcher.event = some event ∨
    next.dispatcher = .idle ∧ ((∃ message generation, label = .accept message ∧
        Stands event generation message) ∨
      ∃ result, label = .refuse event result ∧ pool.Refuses capacity event result) := by
  -- Each stage goes on with the event, or is done with it.
  unfold dispatcherStep at taken
  cases stage : pool.dispatcher with
  | idle => simp [stage] at taken
  | lookingUp current retry =>
    simp only [stage, DispatcherStage.event, Option.some.injEq] at taken working
    subst working
    split at taken <;> cases taken <;> exact .inl ⟨rfl, rfl⟩
  | checkingClosed current retry other =>
    simp only [stage, DispatcherStage.event, Option.some.injEq] at taken working
    subst working
    obtain ⟨task, found, taken⟩ := Option.bind_eq_some_iff.mp taken
    split at taken <;> cases taken
    · cases retry <;> exact .inl ⟨rfl, rfl⟩
    · exact .inl ⟨rfl, rfl⟩
  | loadingPending current retry other =>
    simp only [stage, DispatcherStage.event, Option.some.injEq] at taken working
    subst working
    obtain ⟨task, found, taken⟩ := Option.bind_eq_some_iff.mp taken
    split at taken
    · rename_i full
      split at taken
      · cases taken
        exact .inl ⟨rfl, rfl⟩
      · rename_i keyDown
        cases taken
        exact .inr ⟨rfl, .inr ⟨_, rfl, .full retry other task stage found full keyDown⟩⟩
    · cases taken
      exact .inl ⟨rfl, rfl⟩
  | swappingRelease current retry other =>
    simp only [stage, DispatcherStage.event, Option.some.injEq] at taken working
    subst working
    obtain ⟨task, found, taken⟩ := Option.bind_eq_some_iff.mp taken
    split at taken
    -- A release finds that another is on its way already.
    · rename_i raised
      cases taken
      exact .inr ⟨rfl, .inr ⟨_, rfl, .retained retry other task stage found raised⟩⟩
    · cases taken
      exact .inl ⟨rfl, rfl⟩
  | addingPending current retry other message =>
    simp only [stage, DispatcherStage.event, Option.some.injEq] at taken working
    subst working
    cases taken
    exact .inl ⟨rfl, rfl⟩
  | sending current retry other message =>
    have handle : pool.dispatcher.handle = some (current, retry, other) := by rw [stage]; rfl
    have carried : pool.dispatcher.message = some message := by rw [stage]; rfl
    have stands := (dispatching.held handle).stands carried
    simp only [stage, DispatcherStage.event, Option.some.injEq] at taken working
    subst working
    obtain ⟨task, found, taken⟩ := Option.bind_eq_some_iff.mp taken
    split at taken <;> cases taken
    · exact .inl ⟨rfl, rfl⟩
    · exact .inr ⟨rfl, .inl ⟨message, other, rfl, stands⟩⟩
  | subtractingPending current retry other message =>
    simp only [stage, DispatcherStage.event, Option.some.injEq] at taken working
    subst working
    split at taken <;> cases taken
    · exact .inl ⟨rfl, rfl⟩
    · cases retry <;> exact .inl ⟨rfl, rfl⟩
  | clearingRelease current retry other =>
    simp only [stage, DispatcherStage.event, Option.some.injEq] at taken working
    subst working
    cases taken
    cases retry <;> exact .inl ⟨rfl, rfl⟩
  | replacing current other =>
    simp only [stage, DispatcherStage.event, Option.some.injEq] at taken working
    subst working
    obtain ⟨task, found, taken⟩ := Option.bind_eq_some_iff.mp taken
    cases taken
    exact .inl ⟨rfl, rfl⟩
  -- A closed channel met for the second time refuses the event.
  | removing current other =>
    simp only [stage, DispatcherStage.event, Option.some.injEq] at taken working
    subst working
    cases taken
    exact .inr ⟨rfl, .inr ⟨_, rfl, .closed other stage⟩⟩

/-- The steps that lose no release: a key-up is only refused when no press waits for it. -/
structure KeyUpSpared (past : List PoolLabel) (pool : WorkerPool) (label : PoolLabel) : Prop where
  /-- With a release retained already, no press is the last edge queued behind it. -/
  full : ∀ {event retry generation} {worker : Worker},
    pool.dispatcher = .swappingRelease event retry generation →
    pool.tasks[generation]? = some worker → worker.releasePending = true →
    label = .refuse event .queueFull → lastEdge worker.queue ≠ some .keyDown
  /-- With the second generation closed as well, no press is the last edge accepted. -/
  closed : ∀ {event generation}, pool.dispatcher = .removing event generation →
    event.kind = .keyUp → label = .refuse event .queueClosed →
    lastEdge (acceptedOf event.id past) ≠ some .keyDown

/-- Every accepted press whose key-up has arrived is answered by an accepted release, unless the
dispatcher is still working on a key-up of its id. -/
def Answered (past : List PoolLabel) (pool : WorkerPool) : Prop :=
  ∀ {before middle after press release},
    past = before ++ .accept press :: (middle ++ .arrive release :: after) →
    press.edge = some .keyDown → release.kind = .keyUp → release.id = press.id →
    (∃ event, pool.dispatcher.event = some event ∧ event.kind = .keyUp ∧ event.id = press.id) ∨
      ∃ answer ∈ acceptedOf press.id (middle ++ .arrive release :: after),
        answer.edge = some .keyUp

/-- A step at which the dispatcher works on an event either leaves it there or is one of its own. -/
theorem steps_working {capacity : Nat} (chained : pool.Chained) {label : PoolLabel}
    (taken : pool.Steps capacity label next) {event : Event}
    (working : pool.dispatcher.event = some event) :
    next.dispatcher.event = some event ∨ pool.dispatcherStep capacity = some (next, label) := by
  -- The dispatcher alone moves its event, and others leave it where it is.
  obtain ⟨choice, taken⟩ := taken
  cases choice with
  | arrive arriving =>
    simp only [WorkerPool.step] at taken
    split at taken
    · rename_i idle
      simp [idle, DispatcherStage.event] at working
    · cases taken
  | dispatcher => exact .inr taken
  | worker generation =>
    obtain ⟨worker, _, _, table, _, _, _, rfl | ⟨_, rfl⟩, rfl, _⟩ := workerStep_moved chained taken
    · exact .inl working
    · exact .inl ((removeGeneration_tasks pool worker.id generation).2 ▸ working)
  | timeout generation =>
    simp only [WorkerPool.step] at taken
    obtain ⟨worker, found, taken⟩ := Option.bind_eq_some_iff.mp taken
    obtain ⟨changed, fired, taken⟩ := Option.bind_eq_some_iff.mp taken
    cases taken
    exact .inl working
  | shutdown =>
    cases taken
    exact .inl working

/-- An arrival makes the dispatcher work on its event. -/
theorem steps_arrive {capacity : Nat} (chained : pool.Chained) {event : Event}
    (taken : pool.Steps capacity (.arrive event) next) :
    next.dispatcher.event = some event := by
  -- The dispatcher takes an event only while it is idle.
  obtain ⟨choice, taken⟩ := taken
  cases choice with
  | arrive arriving =>
    simp only [WorkerPool.step] at taken
    split at taken <;> cases taken
    rfl
  | dispatcher =>
    simp only [WorkerPool.step] at taken
    unfold dispatcherStep at taken
    grind
  | worker generation =>
    obtain ⟨_, _, processed, _, _, _, _, _, _, labelled⟩ := workerStep_moved chained taken
    simp only [WorkerPool.step, workerStep] at taken
    obtain ⟨worker, found, taken⟩ := Option.bind_eq_some_iff.mp taken
    obtain ⟨⟨changed, processed⟩, stepped, taken⟩ := Option.bind_eq_some_iff.mp taken
    cases processed <;> simp at taken
  | timeout generation =>
    simp only [WorkerPool.step] at taken
    obtain ⟨worker, found, taken⟩ := Option.bind_eq_some_iff.mp taken
    obtain ⟨changed, fired, taken⟩ := Option.bind_eq_some_iff.mp taken
    cases taken
  | shutdown => cases taken

/-- The messages accepted around an accepted press. -/
theorem accepted_split (press : WorkerMessage) (before after : List PoolLabel) :
    acceptedOf press.id (before ++ .accept press :: after) =
      acceptedOf press.id before ++ press :: acceptedOf press.id after := by
  simp [acceptedOf, PoolLabel.accepted]

/-- A spared step keeps every press answered. -/
theorem Answered.step {capacity : Nat} {past : List PoolLabel} {label : PoolLabel}
    (answered : Answered past pool) (accounted : Accounted past pool)
    (taken : pool.Steps capacity label next) (spared : KeyUpSpared past pool label) :
    Answered (past ++ [label]) next := by
  have chained := accounted.order.chained
  intro before middle after press release split down up sameId
  rcases List.eq_nil_or_concat' after with rfl | ⟨earlier, last, rfl⟩
  · -- The key-up arrives in this step.
    have parts : past ++ [label] = before ++ .accept press :: middle ++ [.arrive release] := by
      simpa using split
    obtain ⟨_, same⟩ := List.append_inj' parts rfl
    cases same
    exact .inl ⟨release, steps_arrive chained taken, up, sameId⟩
  · -- The key-up arrived before, so the press was answered or the dispatcher is at it.
    have parts : past ++ [label] =
        before ++ .accept press :: (middle ++ .arrive release :: earlier) ++ [last] := by
      simpa using split
    obtain ⟨old, same⟩ := List.append_inj' parts rfl
    cases same
    have grown : acceptedOf press.id (middle ++ .arrive release :: (earlier ++ [label])) =
        acceptedOf press.id (middle ++ .arrive release :: earlier) ++ label.accepted press.id := by
      simp [acceptedOf]
    rw [grown]
    rcases answered old down up sameId with ⟨event, working, keyUp, owner⟩ | ⟨answer, member, edge⟩
    · rcases steps_working chained taken working with working | dispatched
      · exact .inl ⟨event, working, keyUp, owner⟩
      -- A refused key-up leaves no press as the last edge, so one before it was answered.
      have refused : lastEdge (acceptedOf event.id past) ≠ some .keyDown →
          ∃ answer ∈ acceptedOf press.id (middle ++ .arrive release :: earlier) ++
            label.accepted press.id, answer.edge = some .keyUp := by
        intro settled
        rw [owner, old] at settled
        rw [accepted_split] at settled
        obtain ⟨answer, member, edge⟩ := exists_release down settled
        exact ⟨answer, List.mem_append_left _ member, edge⟩
      -- The dispatcher goes on, accepts the key-up, or refuses it in one of the two ways spared.
      rcases dispatcherStep_outcome accounted.order.dispatching dispatched working with
        ⟨_, working⟩ | ⟨_, ⟨message, generation, rfl, stands⟩ | ⟨result, rfl, refuses⟩⟩
      · exact .inl ⟨event, working, keyUp, owner⟩
      · refine .inr ⟨message, List.mem_append_right _ ?_, ?_⟩
        · simp [PoolLabel.accepted, stands.id, owner]
        · rcases stands with rfl | ⟨_, rfl⟩
          · simp [WorkerMessage.edge, keyUp]
          · rfl
      · cases refuses with
        | full _ _ _ _ _ _ keyDown =>
          rw [keyUp] at keyDown
          cases keyDown
        | retained retry generation worker stage found raised =>
          exact .inr (refused (accounted.refused stage found raised
            (spared.full stage found raised rfl)))
        | closed generation stage => exact .inr (refused (spared.closed stage keyUp rfl))
    · exact .inr ⟨answer, List.mem_append_left _ member, edge⟩

/-- Whether every accepted press whose key-up arrived has, among the messages processed and still
queued, a release behind it. -/
def NoLostRelease (labels : List PoolLabel) (pool : WorkerPool) : Prop :=
  pool.dispatcher = .idle → ∀ {before middle after press release},
    labels = before ++ .accept press :: (middle ++ .arrive release :: after) →
    press.edge = some .keyDown → release.kind = .keyUp → release.id = press.id →
    ∃ rest, processedOf press.id labels ++ pool.lane press.id =
      acceptedOf press.id before ++ press :: rest ∧ ∃ answer ∈ rest, answer.edge = some .keyUp

/-- Along a run that refuses no key-up a press is waiting for, no release is ever lost. -/
theorem no_lost_release {capacity : Nat} {labels : List PoolLabel}
    {final : List PoolLabel × WorkerPool}
    (run : Run (Guarded (Steps capacity) KeyUpSpared) ([], {}) labels final) :
    NoLostRelease labels final.2 := by
  -- The release is processed, or is still retained behind the press it answers.
  obtain ⟨past, pool⟩ := final
  have recorded : past = labels := Guarded.recorded run
  subst recorded
  obtain ⟨accounted, answered⟩ := run.invariant
    (fun reached => Accounted reached.1 reached.2 ∧ Answered reached.1 reached.2)
    (by
      rintro ⟨before, reached⟩ label ⟨after, next⟩ ⟨taken, rfl, spared⟩ ⟨accounted, answered⟩
      exact ⟨accounted.step taken, answered.step accounted taken spared⟩)
    ⟨.start, by simp [Answered]⟩
  intro idle before middle after press release split down up sameId
  refine ⟨acceptedOf press.id (middle ++ .arrive release :: after), ?_, ?_⟩
  · rw [← accounted.order.lanes, split, accepted_split]
  · refine (answered split down up sameId).resolve_left ?_
    rintro ⟨event, working, _⟩
    rw [show pool.dispatcher = .idle from idle] at working
    cases working

/-- An event of one hotkey. -/
private def keyEvent (kind : EventKind) (repeated : Bool) : Event := ⟨1, ⟨∅, .h⟩, kind, repeated⟩

/-- An arrival followed by so many operations of the dispatcher. -/
private def dispatching (event : Event) (operations : Nat) : List PoolChoice :=
  .arrive event :: List.replicate operations .dispatcher

/-- A press whose release is retained behind a full queue and handled before the next press. -/
private def retainedOnce : List PoolChoice :=
  dispatching (keyEvent .keyDown false) 5 ++ dispatching (keyEvent .keyUp false) 6 ++
    List.replicate 12 (.worker 0)

/-- Renaming the steps of choices with their labels to the labels alone. -/
private theorem run_labels {capacity : Nat} {choices : List PoolChoice} {labels : List PoolLabel}
    {first last : WorkerPool} (run : Run (fun pool (label : PoolChoice × PoolLabel) next =>
      pool.step capacity label.1 = some (next, label.2)) first (choices.zip labels) last)
    (lengths : labels.length = choices.length) : Run (Steps capacity) first labels last := by
  have labelled : (choices.zip labels).map Prod.snd = labels :=
    List.map_snd_zip (by rw [lengths])
  rw [← labelled]
  exact run.map_labels fun {_ label _} taken => ⟨label.1, taken⟩

/-- With room for one message, a press and its retained release are both processed. -/
theorem no_lost_release_retained :
    ∃ labels pool, NoLostRelease labels pool ∧ pool.dispatcher = .idle ∧
      (processedOf 1 labels).map WorkerMessage.edge = [some .keyDown, some .keyUp] := by
  obtain ⟨pool, labels, seen, run, lengths⟩ := Run.of_evaluate (step 1) {} retainedOnce
    (fun result => (result.1.dispatcher, (processedOf 1 result.2).map WorkerMessage.edge,
      result.2.any fun label => label matches .refuse _ _))
    (.idle, [some .keyDown, some .keyUp], false) (by decide +kernel)
  simp only [Prod.mk.injEq] at seen
  obtain ⟨idle, edges, accepting⟩ := seen
  -- Nothing is refused along this run, so every step of it is spared.
  have spared : ∀ label ∈ labels, ∀ past state, KeyUpSpared past state label := by
    intro label member past state
    have kept := List.any_eq_false.mp accepting label member
    constructor <;> (intros; subst label; simp at kept)
  exact ⟨labels, pool, no_lost_release ((run_labels run lengths).guarded (Steps 1) KeyUpSpared
    (fun member taken => ⟨taken, fun past => spared _ member past _⟩) []), idle, edges⟩

/-- A second press behind a retained release, whose own release finds the queue full again. -/
private def overtaken : List PoolChoice :=
  dispatching (keyEvent .keyDown false) 5 ++
    (List.replicate 63 (dispatching (keyEvent .keyDown true) 5)).flatten ++
    dispatching (keyEvent .keyUp false) 6 ++ List.replicate 11 (.worker 0) ++
    dispatching (keyEvent .keyDown false) 5 ++ dispatching (keyEvent .keyUp false) 4 ++
    List.replicate 257 (.worker 0)

/-- At the capacity in use, a key-up is lost and the engine ends with its press. -/
theorem no_lost_release_overtaken :
    ∃ labels pool, Run (Steps defaultQueueCapacity) {} labels pool ∧ pool.lane 1 = [] ∧
      ¬NoLostRelease labels pool := by
  -- The second release is refused while the first one is retained, so the second press comes last.
  obtain ⟨pool, labels, seen, run, lengths⟩ := Run.of_evaluate
    (step defaultQueueCapacity) {} overtaken
    (fun result => (result.1.dispatcher, result.1.lane 1, result.2[407]?, result.2[408]?,
      (processedOf 1 result.2).drop (acceptedOf 1 (result.2.take 407)).length))
    (.idle, [], some (.accept (.event (keyEvent .keyDown false))),
      some (.arrive (keyEvent .keyUp false)), [.event (keyEvent .keyDown false)])
    (by decide +kernel)
  simp only [Prod.mk.injEq] at seen
  obtain ⟨idle, empty, press, release, last⟩ := seen
  refine ⟨labels, pool, run_labels run lengths, empty, fun kept => ?_⟩
  · have split : labels = labels.take 407 ++ .accept (.event (keyEvent .keyDown false)) ::
        ([] ++ .arrive (keyEvent .keyUp false) :: labels.drop 409) := by
      obtain ⟨inside, same⟩ := List.getElem?_eq_some_iff.mp press
      obtain ⟨inside', same'⟩ := List.getElem?_eq_some_iff.mp release
      rw [List.nil_append, ← same', ← List.drop_eq_getElem_cons inside', ← same,
        ← List.drop_eq_getElem_cons inside, List.take_append_drop]
    obtain ⟨rest, order, answer, member, _⟩ := kept idle split rfl rfl rfl
    have behind := congrArg (List.drop (acceptedOf 1 (labels.take 407)).length) order
    rw [show (WorkerMessage.event (keyEvent .keyDown false)).id = 1 from rfl, empty,
      List.append_nil, last, List.drop_left] at behind
    rw [← (List.cons.inj behind).2] at member
    cases member

end WorkerPool

end Hotki

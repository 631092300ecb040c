import Hotki.Proofs.Engine.SerialKey
import Hotki.Proofs.Server.WorkerCalls

/-! One physical key whose presses are dispatched by several workers, one for each of its ids. -/

namespace Hotki

open Base

/-- The move of a physical key that an event makes. -/
def Event.move (event : Event) : UInt32 × KeyMove := (event.id, .ofEvent event.kind event.repeated)

/-- The move of a physical key that a message stands for. -/
def WorkerMessage.move (message : WorkerMessage) : UInt32 × KeyMove :=
  (message.id, .ofEvent message.dispatched.1 message.dispatched.2)

namespace WorkerPool

variable {pool next : WorkerPool} {choice : PoolChoice} {label : PoolLabel} {capacity : Nat}

/-- A message makes the move of the event it stands for. -/
theorem Stands.move {event : Event} {generation : Nat} {message : WorkerMessage}
    (stands : Stands event generation message) : message.move = event.move := by
  rcases stands with rfl | ⟨up, rfl⟩
  · rfl
  · simp [WorkerMessage.move, Event.move, WorkerMessage.id, WorkerMessage.dispatched, up,
      KeyMove.ofEvent]

/-- The ways in which a step can treat the event the dispatcher works on. -/
inductive HandStep (capacity : Nat) (pool : WorkerPool) (choice : PoolChoice) (label : PoolLabel)
    (next : WorkerPool) : Prop where
  | arrives (event : Event) : label = .arrive event → pool.dispatcher.event = none →
      next.dispatcher.event = some event → HandStep capacity pool choice label next
  | accepts (event : Event) (generation : Nat) (message : WorkerMessage) :
      label = .accept message → Stands event generation message →
      pool.dispatcher.event = some event → next.dispatcher.event = none →
      HandStep capacity pool choice label next
  | refuses (event : Event) (result : DispatchResult) : choice = .dispatcher →
      label = .refuse event result → pool.Refuses capacity event result →
      pool.dispatcher.event = some event → next.dispatcher.event = none →
      HandStep capacity pool choice label next
  | keeps : label = .internal ∨ (∃ generation message, label = .process generation message) →
      next.dispatcher.event = pool.dispatcher.event → HandStep capacity pool choice label next

/-- Every step treats the dispatcher's event in one of these ways. -/
theorem step_hand (dispatching : pool.Dispatching)
    (taken : pool.step capacity choice = some (next, label)) :
    pool.HandStep capacity choice label next := by
  -- The dispatcher alone works on its event, and takes one only while it is idle.
  cases choice with
  | arrive event =>
    simp only [step] at taken
    split at taken
    · rename_i idle
      cases taken
      exact .arrives event rfl (by rw [idle]; rfl) rfl
    · cases taken
  | dispatcher =>
    cases working : pool.dispatcher.event with
    | none =>
      -- Without an event it is idle.
      have idle : pool.dispatcher = .idle := by
        cases stage : pool.dispatcher <;> first | rfl | (rw [stage] at working; cases working)
      simp [step, dispatcherStep, idle] at taken
    | some event =>
      rcases dispatcherStep_outcome dispatching taken working with
        ⟨rfl, goes⟩ | ⟨idle, ⟨message, generation, rfl, stands⟩ | ⟨result, rfl, refuses⟩⟩
      · exact .keeps (.inl rfl) (goes.trans working.symm)
      · exact .accepts event generation message rfl stands working (by rw [idle]; rfl)
      · exact .refuses event result rfl rfl refuses working (by rw [idle]; rfl)
  | worker generation =>
    simp only [step, workerStep] at taken
    obtain ⟨worker, _, taken⟩ := Option.bind_eq_some_iff.mp taken
    obtain ⟨⟨changed, processed⟩, _, taken⟩ := Option.bind_eq_some_iff.mp taken
    simp only [Option.some.injEq, Prod.mk.injEq] at taken
    obtain ⟨rfl, labelled⟩ := taken
    refine .keeps ?_ ?_
    · cases processed with
      | none => exact .inl labelled.symm
      | some message => exact .inr ⟨generation, message, labelled.symm⟩
    · dsimp only [update]
      split
      · rw [(removeGeneration_tasks pool worker.id generation).2]
      · rfl
  | timeout generation =>
    simp only [step] at taken
    obtain ⟨_, _, taken⟩ := Option.bind_eq_some_iff.mp taken
    obtain ⟨_, _, taken⟩ := Option.bind_eq_some_iff.mp taken
    cases taken
    exact .keeps (.inl rfl) rfl
  | shutdown =>
    cases taken
    exact .keeps (.inl rfl) rfl

/-- The message of a call is the first of its id's lane. -/
theorem Calls.heads (chained : pool.Chained) (dispatching : pool.Dispatching) {generation : Nat}
    {message : WorkerMessage} (calls : pool.Calls generation message) :
    ∃ rest, pool.lane message.id = message :: rest := by
  obtain ⟨worker, late, found, stage⟩ := calls_iff.mp calls
  -- If the call returned now, its message would be the one that leaves the lane.
  have returns : pool.Steps 0 (.process generation message)
      (pool.update generation fun _ => { worker with stage := .counting message.isForced late }) :=
    ⟨.worker generation, by simp [step, workerStep, found, Worker.step, stage]⟩
  have lanes := (steps_keep chained dispatching returns).2.2 message.id
  simp only [PoolLabel.accepted, PoolLabel.processed, if_true, List.append_nil,
    List.singleton_append] at lanes
  exact ⟨_, lanes⟩

/-- Two calls of one id are the same. -/
theorem Calls.one (chained : pool.Chained) {generation other : Nat}
    {message also : WorkerMessage} (calls : pool.Calls generation message)
    (too : pool.Calls other also) (same : also.id = message.id) : other = generation := by
  obtain ⟨worker, late, found, stage⟩ := calls_iff.mp calls
  obtain ⟨sibling, later, read, stands⟩ := calls_iff.mp too
  -- A worker only has messages of its own id.
  have mine : worker.id = message.id := by
    exact (((chained.sound found).owned message (by simp [Worker.content, stage])).1).symm
  have theirs : sibling.id = also.id := by
    exact (((chained.sound read).owned also (by simp [Worker.content, stands])).1).symm
  exact chained.one_call found read (theirs.trans (same.trans mine.symm)) (by rw [stage]; rfl)
    (by rw [stands]; rfl)

end WorkerPool

/-- A key's repeat or release that comes first under its id comes first of all. -/
theorem PhysicalOrder.next_of_held {moves waiting hand tail : List (UInt32 × KeyMove)} {id : UInt32}
    {move : KeyMove} (order : PhysicalOrder (moves ++ waiting ++ hand))
    (filtered : (waiting.filter fun other => other.1 == id) = (id, move) :: tail)
    (later : move ≠ .press) :
    (∃ others, waiting = (id, move) :: others) ∧ heldAfterMoves moves = some id := by
  -- What comes before it under other ids cannot end with the key held under this one.
  obtain ⟨front, others, rfl, foreign, _⟩ := List.filter_eq_cons_iff.mp filtered
  have split : moves ++ (front ++ (id, move) :: others) ++ hand =
      (moves ++ front) ++ (id, move) :: (others ++ hand) := by simp
  have follows := order _ _ _ split
  have held : heldAfterMoves (moves ++ front) = some id := by
    cases move with
    | press => exact absurd rfl later
    | again | release => exact follows
  have before : PhysicalOrder (moves ++ front) := by
    rw [split] at order
    exact order.left
  obtain ⟨earlier, last, same⟩ := before.follows_same held
  rcases List.eq_nil_or_concat front with rfl | ⟨start, other, rfl⟩
  · rw [List.append_nil] at held
    exact ⟨⟨others, rfl⟩, held⟩
  · rw [List.concat_eq_append, ← List.append_assoc] at same
    obtain ⟨_, ends⟩ := List.append_inj' same rfl
    cases ends
    exact absurd (foreign (id, last) (by simp)) (by simp)

namespace PhysicalKey

variable {key : PhysicalKey} {pool next : WorkerPool} {waiting : List (UInt32 × KeyMove)}

/-- What is queued for the key's ids, oldest first, beside the message in a call. -/
structure Queues (key : PhysicalKey) (pool : WorkerPool) (waiting : List (UInt32 × KeyMove)) :
    Prop where
  owned : ∀ move ∈ waiting, key.ids move.1 = true
  called : ∀ generation message, key.ids message.id = true → pool.Calls generation message →
    (pool.lane message.id).map WorkerMessage.move =
      message.move :: waiting.filter fun move => move.1 == message.id
  uncalled : ∀ id, key.ids id = true →
    (∀ generation message, pool.Calls generation message → message.id ≠ id) →
    (pool.lane id).map WorkerMessage.move = waiting.filter fun move => move.1 == id

/-- Where lanes and calls stay, so does what is queued. -/
theorem Queues.kept (queues : key.Queues pool waiting)
    (lanes : ∀ id, key.ids id = true → next.lane id = pool.lane id)
    (calls : ∀ generation message, key.ids message.id = true →
      (next.Calls generation message ↔ pool.Calls generation message)) :
    key.Queues next waiting where
  owned := queues.owned
  called generation message mine call := by
    rw [lanes _ mine]
    exact queues.called generation message mine ((calls generation message mine).mp call)
  uncalled id mine free := by
    rw [lanes _ mine]
    refine queues.uncalled id mine fun generation message call same => ?_
    exact free generation message ((calls generation message (same ▸ mine)).mpr call) same

/-- A message that is accepted is queued last. -/
theorem Queues.accepted (queues : key.Queues pool waiting) (message : WorkerMessage)
    (lanes : ∀ id, next.lane id = pool.lane id ++ if message.id = id then [message] else [])
    (calls : ∀ generation other, next.Calls generation other ↔ pool.Calls generation other)
    (mine : key.ids message.id = true) : key.Queues next (waiting ++ [message.move]) where
  owned move member := by
    rcases List.mem_append.mp member with old | new
    · exact queues.owned move old
    · rw [List.mem_singleton.mp new]
      exact mine
  called generation other owned call := by
    rw [lanes, List.map_append, queues.called generation other owned ((calls _ _).mp call)]
    by_cases same : message.id = other.id <;> simp [same, WorkerMessage.move]
  uncalled id owned free := by
    rw [lanes, List.map_append,
      queues.uncalled id owned fun generation other call =>
        free generation other ((calls _ _).mpr call)]
    by_cases same : message.id = id <;> simp [same, WorkerMessage.move]

/-- A message that is taken up was the first queued. -/
theorem Queues.taken {others : List (UInt32 × KeyMove)} {message : WorkerMessage} {generation : Nat}
    (queues : key.Queues pool (message.move :: others))
    (lanes : ∀ id, next.lane id = pool.lane id)
    (calls : ∀ current other, next.Calls current other ↔
      pool.Calls current other ∨ current = generation ∧ other = message)
    (free : ∀ current other, pool.Calls current other → key.ids other.id = true → False) :
    key.Queues next others where
  owned move member := queues.owned move (List.mem_cons_of_mem _ member)
  called current other mine call := by
    rcases (calls current other).mp call with old | ⟨rfl, rfl⟩
    · exact absurd mine (by simpa using fun owned => free current other old owned)
    · rw [lanes, queues.uncalled other.id mine fun current also old same =>
        free current also old (same ▸ mine)]
      simp [WorkerMessage.move]
  uncalled id mine unasked := by
    -- Its own id has a call now, so another lane is asked about.
    have different : message.id ≠ id :=
      unasked generation message ((calls _ _).mpr (.inr ⟨rfl, rfl⟩))
    rw [lanes, queues.uncalled id mine fun current also old same =>
      free current also old (same ▸ mine)]
    simp [WorkerMessage.move, different]

/-- A message whose call returns leaves its lane. -/
theorem Queues.returned {message : WorkerMessage} {generation : Nat}
    (queues : key.Queues pool waiting) (calling : pool.Calls generation message)
    (lanes : ∀ id, pool.lane id = (if message.id = id then [message] else []) ++ next.lane id)
    (calls : ∀ current other, next.Calls current other ↔
      pool.Calls current other ∧ current ≠ generation)
    (one : ∀ current other, pool.Calls current other → key.ids other.id = true →
      other.id = message.id → current = generation) : key.Queues next waiting where
  owned := queues.owned
  called current other mine call := by
    obtain ⟨before, different⟩ := (calls current other).mp call
    have apart : message.id ≠ other.id := fun same =>
      different (one current other before mine same.symm)
    have listed := queues.called current other mine before
    rw [lanes, if_neg apart] at listed
    exact listed
  uncalled id mine free := by
    -- The lane of the message has lost its first, and what is queued was behind that.
    by_cases same : message.id = id
    · subst same
      have listed := queues.called generation message mine calling
      rw [lanes, if_pos rfl, List.map_append] at listed
      exact (List.cons.inj listed).2
    · have listed := queues.uncalled id mine fun current other before sameId => by
        refine free current other ((calls current other).mpr ⟨before, ?_⟩) sameId
        rintro rfl
        exact same (calling.unique before ▸ sameId)
      rw [lanes, if_neg same] at listed
      exact listed

/-- The move of the key that an event makes, if it is one of the key's. -/
def own (key : PhysicalKey) (event : Event) : List (UInt32 × KeyMove) :=
  if key.ids event.id then [event.move] else []

/-- The move of the key that arrives in a step. -/
def arrival (key : PhysicalKey) : PoolLabel → List (UInt32 × KeyMove)
  | .arrive event => key.own event
  | _ => []

/-- The moves of the key that arrived along some labels. -/
def arrived (key : PhysicalKey) (labels : List PoolLabel) : List (UInt32 × KeyMove) :=
  labels.flatMap key.arrival

/-- The move of the key that the dispatcher is about to queue. -/
def inHand (key : PhysicalKey) (pool : WorkerPool) : List (UInt32 × KeyMove) :=
  pool.dispatcher.event.toList.flatMap key.own

/-- What has become of the moves that arrived: they are dispatched and queued in their order, but
for repeats that were refused. -/
structure Sent (key : PhysicalKey) (past : List PoolLabel) (runtime : WorkerRuntime)
    (waiting : List (UInt32 × KeyMove)) : Prop where
  queues : key.Queues runtime.pool waiting
  order : PhysicalOrder (key.moves runtime.engine ++ waiting ++ key.inHand runtime.pool)
  edges : (key.moves runtime.engine ++ waiting ++ key.inHand runtime.pool).filter
    (fun move => move.2.isEdge) = (key.arrived past).filter fun move => move.2.isEdge
  among : (key.moves runtime.engine ++ waiting ++ key.inHand runtime.pool).Sublist
    (key.arrived past)

/-- What holds of the key along a run of the workers and the engine. -/
structure Attended (key : PhysicalKey) (past : List PoolLabel) (runtime : WorkerRuntime) :
    Prop where
  chained : runtime.pool.Chained
  dispatching : runtime.pool.Dispatching
  serial : key.Serial runtime.engine
  /-- Some worker awaits each dispatch of the key that is under way. -/
  awaited : ∀ (task : Nat) (entry : EngineTask), runtime.engine.tasks[task]? = some entry →
    key.move entry ≠ none → entry.stage ≠ .finished →
    ∃ generation message, key.ids message.id = true ∧ runtime.pool.Calls generation message ∧
      runtime.awaiting.lookup generation = some task
  /-- The key has one dispatch in a call at most, and that is its last. -/
  one : ∀ generation message other also, runtime.pool.Calls generation message →
    runtime.pool.Calls other also → key.ids message.id = true → key.ids also.id = true →
    other = generation
  last : ∀ generation message, runtime.pool.Calls generation message →
    key.ids message.id = true → ∃ before, key.moves runtime.engine = before ++ [message.move]
  sent : ∃ waiting, key.Sent past runtime waiting

/-- How a step of the workers or of the engine treats the key with care. -/
structure Heeds (key : PhysicalKey) (capacity : Nat) (runtime : WorkerRuntime)
    (choice : RuntimeChoice) : Prop where
  /-- A press is taken up only while no other id of the key has anything queued. -/
  alone : ∀ generation message, choice = .pool (.worker generation) →
    runtime.pool.upNext generation = some message → key.ids message.id = true →
    message.move.2 = .press → ∀ id, key.ids id = true → id ≠ message.id → runtime.pool.lane id = []
  /-- No press and no release of the key is refused. -/
  accepted : ∀ event result, choice = .pool .dispatcher →
    runtime.pool.Refuses capacity event result → key.ids event.id = true → event.move.2 = .again
  /-- A press finds its id registered. -/
  registered : ∀ (task : Nat) (answer : TaskAnswer) (entry : EngineTask) (id : UInt32),
    choice = .engine (.resume task answer) → runtime.engine.tasks[task]? = some entry →
    entry.stage = .resolving → key.move entry = some (id, .press) →
    runtime.engine.bindings.lookup id ≠ none

/-- One more label is the last. -/
theorem arrived_snoc (past : List PoolLabel) (label : PoolLabel) :
    key.arrived (past ++ [label]) = key.arrived past ++ key.arrival label := by
  simp [arrived]

/-- What is on its way leaves the key held as all that arrived does. -/
theorem Sent.held {past : List PoolLabel} {runtime : WorkerRuntime}
    (sent : key.Sent past runtime waiting) :
    heldAfterMoves (key.moves runtime.engine ++ waiting ++ key.inHand runtime.pool) =
      heldAfterMoves (key.arrived past) := by
  rw [← heldAfterMoves_edges, sent.edges, heldAfterMoves_edges]

/-- A step that shows no arrival and keeps the dispatcher's event and every lane keeps what was
sent. -/
theorem Sent.kept {past : List PoolLabel} {label : PoolLabel} {runtime after : WorkerRuntime}
    (sent : key.Sent past runtime waiting) (unseen : key.arrival label = [])
    (queues : key.Queues after.pool waiting)
    (moves : key.moves after.engine = key.moves runtime.engine)
    (hand : after.pool.dispatcher.event = runtime.pool.dispatcher.event) :
    key.Sent (past ++ [label]) after waiting := by
  have same : key.inHand after.pool = key.inHand runtime.pool := by
    unfold inHand
    rw [hand]
  refine ⟨queues, ?_, ?_, ?_⟩ <;> rw [moves, same]
  · exact sent.order
  · rw [arrived_snoc, unseen, List.append_nil]
    exact sent.edges
  · rw [arrived_snoc, unseen, List.append_nil]
    exact sent.among

/-- Whether the key's events are dispatched as they arrived, one after the other, so that a key-up
ends nothing that a later press began, and the key tracker agrees with the key in the end. -/
structure Kept (key : PhysicalKey) (labels : List PoolLabel) (runtime : WorkerRuntime) : Prop where
  order : (key.moves runtime.engine).Sublist (key.arrived labels)
  edges : (key.moves runtime.engine).filter (fun move => move.2.isEdge) <+:
    (key.arrived labels).filter fun move => move.2.isEdge
  /-- What stands under the identifier was begun by an event of the key. -/
  begun : ∀ owner, runtime.engine.Owns key.ident owner → key.Dispatches runtime.engine owner
  /-- No event of the key is dispatched before the one dispatched last is over. -/
  last : ∀ (task : Nat) (entry : EngineTask), runtime.engine.tasks[task]? = some entry →
    key.move entry ≠ none → entry.stage ≠ .finished →
    ∀ other, key.Dispatches runtime.engine other → other ≤ task
  /-- A key-up under way comes after every event that began something of the key. -/
  releases : ∀ (task : Nat) (entry : EngineTask) (id : UInt32),
    runtime.engine.tasks[task]? = some entry → key.move entry = some (id, .release) →
    entry.stage ≠ .finished → ∀ owner, runtime.engine.Owns key.ident owner → owner ≤ task
  tracked : runtime.pool.dispatcher.event = none →
    (∀ id, key.ids id = true → runtime.pool.lane id = []) →
    KeyStateTracker.isDown runtime.engine.keyTracker key.ident =
      (heldAfterMoves (key.arrived labels)).isSome

section Steps

variable {key : PhysicalKey} {past : List PoolLabel} {runtime : WorkerRuntime} {capacity : Nat}
  {host : ProcessHost}

/-- A step of the engine other than a physical call attends to the key. -/
theorem Attended.engine_step {choice : EngineChoice} {engine : Engine}
    (attended : key.Attended past runtime) (spares : key.Spares choice)
    (heeds : key.Heeds capacity runtime (.engine choice)) (uncalled : key.called choice = none)
    (stepped : runtime.engine.Steps host choice engine) :
    key.Attended (past ++ [.internal]) { runtime with engine } := by
  obtain ⟨waiting, sent⟩ := attended.sent
  have serves : key.Serves runtime.engine choice := by
    refine ⟨spares, fun called => absurd uncalled called, ?_, ?_⟩
    · rw [uncalled, Option.toList_none, List.append_nil]
      exact sent.order.left.left
    · intro task answer entry id resumed
      exact heeds.registered task answer entry id (congrArg _ resumed)
  have moves : key.moves engine = key.moves runtime.engine := by
    rw [step_moves stepped, uncalled]
    simp
  refine ⟨attended.chained, attended.dispatching, attended.serial.step serves stepped, ?_,
    attended.one, ?_, waiting, sent.kept rfl sent.queues moves rfl⟩
  -- A dispatch that is under way was so before, and its worker still awaits it.
  · intro task entry found mine unfinished
    rcases underway_before stepped attended.serial.separate.sound found mine unfinished with
      ⟨old, read, moved, underway⟩ | ⟨_, called⟩
    · exact attended.awaited task old read moved underway
    · exact absurd uncalled called
  · intro generation message calls mine
    rw [moves]
    exact attended.last generation message calls mine

/-- A step of the pool in which no call begins or ends attends to the key. -/
theorem Attended.pool_step {choice : PoolChoice} {label : PoolLabel} {pool : WorkerPool}
    (attended : key.Attended past runtime)
    (heeds : key.Heeds capacity runtime (.pool choice))
    (physical : PhysicalOrder (key.arrived (past ++ [label])))
    (taken : runtime.pool.step capacity choice = some (pool, label))
    (unprocessed : ∀ generation message, label ≠ .process generation message)
    (calls : ∀ generation message,
      pool.Calls generation message ↔ runtime.pool.Calls generation message) :
    key.Attended (past ++ [label]) { runtime with pool } := by
  obtain ⟨waiting, sent⟩ := attended.sent
  obtain ⟨chained, dispatching, lanes⟩ :=
    WorkerPool.steps_keep attended.chained attended.dispatching ⟨choice, taken⟩
  have unmoved : ∀ id, label.processed id = [] := by
    intro id
    cases label with
    | process generation message => exact absurd rfl (unprocessed generation message)
    | _ => rfl
  have grown : ∀ id, pool.lane id = runtime.pool.lane id ++ label.accepted id := by
    intro id
    rw [lanes id, unmoved id, List.nil_append]
  refine ⟨chained, dispatching, attended.serial, ?_, ?_, ?_, ?_⟩
  · intro task entry found mine unfinished
    obtain ⟨generation, message, owned, call, awaits⟩ := attended.awaited task entry found mine
      unfinished
    exact ⟨generation, message, owned, (calls _ _).mpr call, awaits⟩
  · intro generation message other also call too
    exact attended.one generation message other also ((calls _ _).mp call) ((calls _ _).mp too)
  · intro generation message call
    exact attended.last generation message ((calls _ _).mp call)
  have stays (unaccepted : ∀ id, key.ids id = true → label.accepted id = []) :
      key.Queues pool waiting :=
    sent.queues.kept (fun id mine => by rw [grown, unaccepted id mine, List.append_nil])
      fun generation message _ => calls generation message
  have order := sent.order
  have held := sent.held
  have edges := sent.edges
  have among := sent.among
  unfold inHand at order held edges among
  -- One case for each fate of the event in the dispatcher's hand.
  cases WorkerPool.step_hand attended.dispatching taken with
  | arrives event arrives idle working =>
    -- The event comes last of what arrived, and last of what is on its way.
    subst arrives
    rw [idle] at order held edges among
    simp only [Option.toList_none, List.flatMap_nil, List.append_nil] at order held edges among
    rw [arrived_snoc] at physical
    have after : key.inHand pool = key.own event := by
      simp [inHand, working]
    refine ⟨waiting, stays fun _ _ => rfl, ?_, ?_, ?_⟩ <;> dsimp only
    · rw [after]
      unfold own
      split
      · rename_i mine
        simp only [arrival, own, mine, if_true] at physical
        refine order.snoc ?_
        rw [held]
        exact physical _ _ [] rfl
      · rw [List.append_nil]
        exact order
    · rw [after, arrived_snoc, List.filter_append, edges, List.filter_append]
      rfl
    · rw [after, arrived_snoc]
      exact among.append (List.Sublist.refl _)
  | accepts event generation message accepts stands working idle =>
    subst accepts
    rw [working] at order held edges among
    simp only [Option.toList_some, List.flatMap_cons, List.flatMap_nil, List.append_nil]
      at order held edges among
    have after : key.inHand pool = [] := by
      simp [inHand, idle]
    have seen : key.arrived (past ++ [.accept message]) = key.arrived past := by
      rw [arrived_snoc]
      exact List.append_nil _
    by_cases mine : key.ids event.id = true
    · -- It moves from the dispatcher's hand to the end of its lane.
      have moved : key.own event = [message.move] := by
        simp [own, mine, stands.move]
      rw [moved] at order held edges among
      refine ⟨waiting ++ [message.move], ?_, ?_, ?_, ?_⟩
      · exact sent.queues.accepted message grown calls (by rw [stands.id]; exact mine)
      · rw [after, List.append_nil, ← List.append_assoc]
        exact order
      · rw [after, List.append_nil, ← List.append_assoc, seen]
        exact edges
      · rw [after, List.append_nil, ← List.append_assoc, seen]
        exact among
    · -- An event of another key goes to a lane that does not matter here.
      have foreign : key.own event = [] := if_neg mine
      rw [foreign] at order held edges among
      refine ⟨waiting, stays fun id owned => ?_, ?_, ?_, ?_⟩
      · have different : message.id ≠ id := by
          rw [stands.id]
          rintro rfl
          exact mine owned
        exact if_neg different
      · rw [after]
        exact order
      · rw [after, seen]
        exact edges
      · rw [after, seen]
        exact among
  | refuses event result chosen refuses how working idle =>
    subst refuses chosen
    rw [working] at order held edges among
    simp only [Option.toList_some, List.flatMap_cons, List.flatMap_nil, List.append_nil]
      at order held edges among
    have after : key.inHand pool = [] := by
      simp [inHand, idle]
    have seen : key.arrived (past ++ [.refuse event result]) = key.arrived past := by
      rw [arrived_snoc]
      exact List.append_nil _
    refine ⟨waiting, stays fun _ _ => rfl, ?_, ?_, ?_⟩ <;> dsimp only
    · rw [after, List.append_nil]
      exact order.left
    · -- What is refused is a repeat.
      have repeats : (key.own event).filter (fun move => move.2.isEdge) = [] := by
        unfold own
        split
        · rename_i mine
          simp [heeds.accepted event result rfl how mine, KeyMove.isEdge]
        · rfl
      rw [after, List.append_nil, seen, ← edges, List.filter_append _ (key.own event), repeats,
        List.append_nil]
    · rw [after, List.append_nil, seen]
      exact (List.sublist_append_left _ _).trans among
  | keeps quiet same =>
    refine ⟨waiting, sent.kept ?_ (stays fun _ _ => ?_) rfl same⟩
    · rcases quiet with rfl | ⟨_, _, rfl⟩ <;> rfl
    · rcases quiet with rfl | ⟨_, _, rfl⟩ <;> rfl

/-- The message that is taken up comes first of what is queued for the key, which has no other
dispatch under way. -/
theorem Attended.first {generation : Nat} {message : WorkerMessage}
    {waiting : List (UInt32 × KeyMove)} (attended : key.Attended past runtime)
    (heeds : key.Heeds capacity runtime (.pool (.worker generation)))
    (sent : key.Sent past runtime waiting) (mine : key.ids message.id = true)
    (ready : runtime.pool.upNext generation = some message)
    (heads : ∃ rest, runtime.pool.lane message.id = message :: rest)
    (free : ∀ current other, runtime.pool.Calls current other → other.id ≠ message.id) :
    (∃ others, waiting = message.move :: others) ∧
      ∀ current other, runtime.pool.Calls current other → key.ids other.id = true → False := by
  obtain ⟨rest, heads⟩ := heads
  have filtered := sent.queues.uncalled message.id mine free
  rw [heads, List.map_cons] at filtered
  by_cases press : message.move.2 = .press
  · -- Nothing is queued under the other ids.
    have alone := heeds.alone generation message rfl ready mine press
    have unasked : ∀ current other, runtime.pool.Calls current other →
        key.ids other.id = true → False := by
      intro current other calls owned
      obtain ⟨later, queued⟩ := calls.heads attended.chained attended.dispatching
      rw [alone other.id owned (free current other calls)] at queued
      cases queued
    refine ⟨?_, unasked⟩
    have all : (waiting.filter fun move => move.1 == message.id) = waiting := by
      refine List.filter_eq_self.mpr fun move member => ?_
      by_contra other
      have owned := sent.queues.owned move member
      have listed := sent.queues.uncalled move.1 owned fun current also calls same =>
        unasked current also calls (same ▸ owned)
      rw [alone move.1 owned (by simpa using other)] at listed
      have absent := List.filter_eq_nil_iff.mp listed.symm move member
      simp at absent
    exact ⟨_, all.symm.trans filtered.symm⟩
  · -- The key is held under the message's id, so the last dispatch was under it too.
    obtain ⟨first, held⟩ := sent.order.next_of_held filtered.symm press
    refine ⟨first, fun current other calls owned => ?_⟩
    obtain ⟨before, last⟩ := attended.last current other calls owned
    obtain ⟨front, move, same⟩ := sent.order.left.left.follows_same held
    obtain ⟨_, ends⟩ := List.append_inj' (last.symm.trans same) rfl
    exact free current other calls (congrArg Prod.fst (List.singleton_inj.mp ends))

/-- The dispatch of a message makes the message's move, if it is the key's. -/
theorem called_request (message : WorkerMessage) :
    key.called (.call message.request) =
      if key.ids message.id = true then some message.move else none := rfl

/-- A step that takes a message up leaves the lanes and the dispatcher's event. -/
theorem taken_frame {generation : Nat} {pool : WorkerPool} (attended : key.Attended past runtime)
    (taken : runtime.pool.step capacity (.worker generation) = some (pool, .internal)) :
    pool.Chained ∧ pool.Dispatching ∧ (∀ id, pool.lane id = runtime.pool.lane id) ∧
      pool.dispatcher.event = runtime.pool.dispatcher.event := by
  obtain ⟨chained, dispatching, lanes⟩ :=
    WorkerPool.steps_keep attended.chained attended.dispatching ⟨_, taken⟩
  refine ⟨chained, dispatching, fun id => ?_, ?_⟩
  · simpa [PoolLabel.accepted, PoolLabel.processed] using (lanes id).symm
  · cases WorkerPool.step_hand attended.dispatching taken with
    | arrives _ label => cases label
    | accepts _ _ _ label => cases label
    | refuses _ _ _ label => cases label
    | keeps _ same => exact same

/-- What the workers and the engine are once a generation has taken up a message. -/
def taking (runtime : WorkerRuntime) (pool : WorkerPool) (engine : Engine) (generation : Nat) :
    WorkerRuntime where
  pool
  engine
  awaiting := runtime.awaiting.insert generation runtime.engine.tasks.length

/-- A step in which a message of another key is taken up attends to the key. -/
theorem Attended.taken_other {generation : Nat} {message : WorkerMessage}
    {pool : WorkerPool} {engine : Engine} (attended : key.Attended past runtime)
    (taken : runtime.pool.step capacity (.worker generation) = some (pool, .internal))
    (idle : ∀ other, ¬ runtime.pool.Calls generation other)
    (calls : ∀ current other, pool.Calls current other ↔
      runtime.pool.Calls current other ∨ current = generation ∧ other = message)
    (stepped : runtime.engine.Steps host (.call message.request) engine)
    (other : key.ids message.id = false) :
    key.Attended (past ++ [.internal]) (taking runtime pool engine generation) := by
  obtain ⟨waiting, sent⟩ := attended.sent
  obtain ⟨chained, dispatching, lanes, hand⟩ := taken_frame attended taken
  have uncalled : key.called (.call message.request) = none := by
    rw [called_request, other]
    rfl
  have moves : key.moves engine = key.moves runtime.engine := by
    rw [step_moves stepped, uncalled]
    exact List.append_nil _
  have foreign : ∀ current also, key.ids also.id = true →
      (pool.Calls current also ↔ runtime.pool.Calls current also) := by
    intro current also owned
    rw [calls]
    refine or_iff_left ?_
    rintro ⟨_, rfl⟩
    exact absurd (owned.symm.trans other) (by simp)
  have serves : key.Serves runtime.engine (.call message.request) := by
    refine ⟨⟨nofun, nofun⟩, fun called => absurd uncalled called, ?_, fun _ _ _ _ resumed => ?_⟩
    · rw [uncalled, Option.toList_none, List.append_nil]
      exact sent.order.left.left
    · cases resumed
  refine ⟨chained, dispatching, attended.serial.step serves stepped, ?_, ?_, ?_, waiting, ?_⟩
  · intro task entry found dispatches unfinished
    rcases underway_before stepped attended.serial.separate.sound found dispatches unfinished with
      ⟨old, read, moved, underway⟩ | ⟨_, called⟩
    · obtain ⟨current, also, owned, before, awaits⟩ :=
        attended.awaited task old read moved underway
      have elsewhere : current ≠ generation := by
        rintro rfl
        exact idle also before
      refine ⟨current, also, owned, (foreign _ _ owned).mpr before, ?_⟩
      simp only [taking, HashMap.lookup_insert_ite, if_neg elsewhere]
      exact awaits
    · exact absurd uncalled called
  · intro current first further second call too owned ownedToo
    exact attended.one current first further second ((foreign _ _ owned).mp call)
      ((foreign _ _ ownedToo).mp too) owned ownedToo
  · intro current also call owned
    obtain ⟨before, last⟩ := attended.last current also ((foreign _ _ owned).mp call) owned
    exact ⟨before, moves.trans last⟩
  · exact sent.kept rfl (sent.queues.kept (fun id _ => lanes id) foreign) moves hand

/-- A step in which a message of the key is taken up attends to the key. -/
theorem Attended.taken_own {generation : Nat} {message : WorkerMessage}
    {pool : WorkerPool} {engine : Engine} (attended : key.Attended past runtime)
    (heeds : key.Heeds capacity runtime (.pool (.worker generation)))
    (taken : runtime.pool.step capacity (.worker generation) = some (pool, .internal))
    (ready : runtime.pool.upNext generation = some message)
    (idle : ∀ other, ¬ runtime.pool.Calls generation other)
    (calls : ∀ current other, pool.Calls current other ↔
      runtime.pool.Calls current other ∨ current = generation ∧ other = message)
    (stepped : runtime.engine.Steps host (.call message.request) engine)
    (mine : key.ids message.id = true) :
    key.Attended (past ++ [.internal]) (taking runtime pool engine generation) := by
  obtain ⟨waiting, sent⟩ := attended.sent
  obtain ⟨chained, dispatching, lanes, hand⟩ := taken_frame attended taken
  have calling : pool.Calls generation message := (calls _ _).mpr (.inr ⟨rfl, rfl⟩)
  have called : key.called (.call message.request) = some message.move := by
    rw [called_request, mine]
    rfl
  have moves : key.moves engine =
      key.moves runtime.engine ++ [message.move] := by
    rw [step_moves stepped, called]
    rfl
  have free : ∀ current other, runtime.pool.Calls current other → other.id ≠ message.id := by
    intro current other before sameId
    cases WorkerPool.Calls.one chained calling ((calls _ _).mpr (.inl before)) sameId
    exact idle other before
  -- It is the first that waits, and no dispatch of the key is under way.
  obtain ⟨⟨others, rfl⟩, unasked⟩ := attended.first heeds sent mine ready
    (by simpa only [lanes] using calling.heads chained dispatching) free
  have alone : ∀ entry ∈ runtime.engine.tasks, key.move entry ≠ none → entry.stage = .finished := by
    intro entry member dispatches
    by_contra unfinished
    obtain ⟨task, found⟩ := List.mem_iff_getElem?.mp member
    obtain ⟨current, other, owned, before, _⟩ :=
      attended.awaited task entry found dispatches unfinished
    exact unasked current other before owned
  have order := sent.order
  rw [← List.singleton_append, ← List.append_assoc] at order
  have serves : key.Serves runtime.engine (.call message.request) := by
    refine ⟨⟨nofun, nofun⟩, fun _ => alone, ?_, fun _ _ _ _ resumed => ?_⟩
    · rw [called]
      exact order.left.left
    · cases resumed
  -- Its own call is the key's only one now.
  have only : ∀ {current other}, pool.Calls current other → key.ids other.id = true →
      current = generation ∧ other = message := fun call owned =>
    ((calls _ _).mp call).resolve_left fun before => unasked _ _ before owned
  refine ⟨chained, dispatching, attended.serial.step serves stepped, ?_, ?_, ?_, others, ?_⟩
  · intro task entry found dispatches unfinished
    rcases underway_before stepped attended.serial.separate.sound found dispatches unfinished with
      ⟨old, read, moved, underway⟩ | ⟨last, _⟩
    · exact absurd (alone old (List.mem_of_getElem? read) moved) underway
    · refine ⟨generation, message, mine, calling, ?_⟩
      simp only [taking, HashMap.lookup_insert_ite, if_true, last]
  · intro current other further also call too owned ownedToo
    rw [(only call owned).1, (only too ownedToo).1]
  · intro current other call owned
    rw [(only call owned).2]
    exact ⟨_, moves⟩
  · have kept : key.moves (taking runtime pool engine generation).engine ++ others ++
        key.inHand (taking runtime pool engine generation).pool =
          key.moves runtime.engine ++ message.move :: others ++ key.inHand runtime.pool := by
      have same : key.inHand pool = key.inHand runtime.pool := by
        unfold inHand
        rw [hand]
      simp only [taking, moves, same]
      simp
    refine ⟨sent.queues.taken lanes calls unasked, ?_, ?_, ?_⟩ <;> rw [kept]
    · exact sent.order
    · rw [arrived_snoc]
      exact sent.edges.trans (by rw [show key.arrival .internal = [] from rfl, List.append_nil])
    · rw [arrived_snoc]
      exact sent.among.trans (List.sublist_append_left _ _)

/-- A step in which a call returns attends to the key. -/
theorem Attended.returned_step {choice : PoolChoice} {generation : Nat} {message : WorkerMessage}
    {pool : WorkerPool} (attended : key.Attended past runtime)
    (taken : runtime.pool.step capacity choice = some (pool, .process generation message))
    (returned : runtime.returned generation = true)
    (calling : runtime.pool.Calls generation message)
    (calls : ∀ current other, pool.Calls current other ↔
      runtime.pool.Calls current other ∧ current ≠ generation) :
    key.Attended (past ++ [.process generation message]) { runtime with pool } := by
  obtain ⟨waiting, sent⟩ := attended.sent
  obtain ⟨chained, dispatching, lanes⟩ :=
    WorkerPool.steps_keep attended.chained attended.dispatching ⟨_, taken⟩
  refine ⟨chained, dispatching, attended.serial, ?_, ?_, ?_, waiting, ?_⟩
  · intro task entry found dispatches unfinished
    obtain ⟨current, other, owned, before, awaits⟩ :=
      attended.awaited task entry found dispatches unfinished
    refine ⟨current, other, owned, (calls _ _).mpr ⟨before, ?_⟩, awaits⟩
    -- What the generation awaited is over.
    rintro rfl
    unfold WorkerRuntime.returned at returned
    dsimp only at found
    rw [awaits, Option.bind_some, found] at returned
    exact unfinished (of_decide_eq_true returned)
  · intro current first other second call too
    exact attended.one current first other second ((calls _ _).mp call).1 ((calls _ _).mp too).1
  · intro current other call
    exact attended.last current other ((calls _ _).mp call).1
  · refine sent.kept rfl ?_ rfl ?_
    · refine sent.queues.returned calling (fun id => ?_) calls
        fun current other before _ same => WorkerPool.Calls.one attended.chained calling before same
      exact (List.append_nil _).symm.trans (lanes id)
    · cases WorkerPool.step_hand attended.dispatching taken with
      | arrives _ label => cases label
      | accepts _ _ _ label => cases label
      | refuses _ _ _ label => cases label
      | keeps _ same => exact same

/-- Every careful step attends to the key. -/
theorem Attended.step {choice : RuntimeChoice} {label : PoolLabel} {next : WorkerRuntime}
    (attended : key.Attended past runtime)
    (spares : ∀ move, choice = .engine move → key.Spares move)
    (heeds : key.Heeds capacity runtime choice)
    (physical : PhysicalOrder (key.arrived (past ++ [label])))
    (taken : runtime.step capacity host choice = some (next, label)) :
    key.Attended (past ++ [label]) next := by
  cases choice with
  -- The engine's own steps dispatch nothing of the key.
  | engine move =>
    have uncalled : key.called move = none := by
      cases move with
      | call request =>
        obtain ⟨origin, kind, repeated⟩ := request
        cases origin with
        | physical id => cases taken
        | injected ident => rfl
      | _ => rfl
    have stepped : (runtime.engine.step host move).map
        (fun engine => (({ runtime with engine } : WorkerRuntime), PoolLabel.internal)) =
          some (next, label) := by
      cases move with
      | call request =>
        obtain ⟨origin, kind, repeated⟩ := request
        cases origin with
        | physical id => cases taken
        | injected ident => exact taken
      | _ => exact taken
    obtain ⟨engine, moved, same⟩ := Option.map_eq_some_iff.mp stepped
    cases same
    exact attended.engine_step (spares move rfl) heeds uncalled moved
  | pool choice =>
    simp only [WorkerRuntime.step] at taken
    obtain ⟨⟨pool, shown⟩, moved, taken⟩ := Option.bind_eq_some_iff.mp taken
    -- A call begins, returns once its dispatch is over, or neither.
    cases WorkerPool.step_calls attended.chained attended.dispatching moved with
    | takes generation message takenUp internal chosen ready idle calls =>
      subst internal chosen
      simp only [takenUp] at taken
      cases taken
      have stepped : runtime.engine.Steps host (.call message.request)
        (runtime.engine.spawn message.request) := rfl
      by_cases mine : key.ids message.id = true
      · exact attended.taken_own heeds moved ready idle calls stepped mine
      · exact attended.taken_other moved idle calls stepped (by simpa using mine)
    | returns generation message takenUp processes calling calls =>
      subst processes
      simp only [takenUp] at taken
      split at taken
      · rename_i returned
        cases taken
        exact attended.returned_step moved returned calling calls
      · cases taken
    | stays takenUp unprocessed calls =>
      have shows : some (({ runtime with pool } : WorkerRuntime), shown) = some (next, label) := by
        rw [takenUp] at taken
        cases shown with
        | process generation message => exact absurd rfl (unprocessed generation message)
        | _ => exact taken
      cases shows
      exact attended.pool_step heeds physical moved unprocessed calls

/-- Nothing of the key has arrived yet at workers without generations and a new engine. -/
theorem Attended.start (key : PhysicalKey) (relayEnabled : Bool) :
    key.Attended [] { pool := {}, engine := .build relayEnabled } where
  chained := WorkerPool.InOrder.start.chained
  dispatching := WorkerPool.InOrder.start.dispatching
  serial := .start key relayEnabled
  awaited := by simp [Engine.build]
  one := by simp [WorkerPool.Calls]
  last := by simp [WorkerPool.Calls]
  sent := ⟨[], ⟨by simp, by simp [WorkerPool.Calls], by simp [WorkerPool.lane]⟩,
    by simp [moves, inHand, Engine.build, DispatcherStage.event, PhysicalOrder],
    by simp [moves, inHand, Engine.build, DispatcherStage.event, arrived],
    by simp [moves, inHand, Engine.build, DispatcherStage.event]⟩

end Steps

/-- What is attended to is kept. -/
theorem Attended.kept {key : PhysicalKey} {past : List PoolLabel} {runtime : WorkerRuntime}
    (attended : key.Attended past runtime) : key.Kept past runtime := by
  obtain ⟨waiting, sent⟩ := attended.sent
  refine ⟨?_, ?_, fun owner => attended.serial.begun, attended.serial.last,
    fun task entry id found moved unfinished owner owns => attended.serial.last task entry found
      (by simp [moved]) unfinished owner (attended.serial.begun owns), fun idle empty => ?_⟩
  · refine List.Sublist.trans ?_ sent.among
    rw [List.append_assoc]
    exact List.sublist_append_left _ _
  · rw [← sent.edges, List.append_assoc, List.filter_append]
    exact List.prefix_append _ _
  · -- Nothing is queued, so no call is in progress and every dispatch is over.
    have uncalled : ∀ generation message, runtime.pool.Calls generation message →
        key.ids message.id = true → False := by
      intro generation message calls owned
      obtain ⟨rest, heads⟩ := calls.heads attended.chained attended.dispatching
      rw [empty message.id owned] at heads
      cases heads
    have none_ : waiting = [] := by
      refine List.eq_nil_iff_forall_not_mem.mpr fun move member => ?_
      have owned := sent.queues.owned move member
      have listed := sent.queues.uncalled move.1 owned fun generation message calls same =>
        uncalled generation message calls (same ▸ owned)
      rw [empty move.1 owned] at listed
      have absent := List.filter_eq_nil_iff.mp listed.symm move member
      simp at absent
    have held := sent.held
    rw [none_, inHand, idle] at held
    simp only [List.append_nil, Option.toList_none, List.flatMap_nil] at held
    rw [← held]
    refine attended.serial.tracked fun entry member dispatches => ?_
    by_contra unfinished
    obtain ⟨task, found⟩ := List.mem_iff_getElem?.mp member
    obtain ⟨generation, message, owned, calls, _⟩ :=
      attended.awaited task entry found dispatches unfinished
    exact uncalled generation message calls owned

end PhysicalKey

namespace WorkerRuntime

/-- The transition relation of the workers and the engine, whoever moves. -/
def Steps (capacity : Nat) (host : ProcessHost) (runtime : WorkerRuntime)
    (label : RuntimeChoice × PoolLabel) (next : WorkerRuntime) : Prop :=
  runtime.step capacity host label.1 = some (next, label.2)

/-- What is shown of a run by induction: the key is attended to as long as it is spared and its
arrivals are in order. -/
def Attends (key : PhysicalKey) (past : List (RuntimeChoice × PoolLabel))
    (runtime : WorkerRuntime) : Prop :=
  (∀ label ∈ past, ∀ choice, label.1 = .engine choice → key.Spares choice) →
    PhysicalOrder (key.arrived (past.map Prod.snd)) → key.Attended (past.map Prod.snd) runtime

/-- Along a run that treats a physical key with care, its events take effect in their order under
whichever ids they arrive. -/
theorem key_in_order {key : PhysicalKey} {capacity : Nat} {host : ProcessHost}
    {relayEnabled : Bool} {labels : List (RuntimeChoice × PoolLabel)} {final : WorkerRuntime}
    (run : Run (fun runtime label next => Steps capacity host runtime label next ∧
      key.Heeds capacity runtime label.1)
      { pool := {}, engine := .build relayEnabled } labels final)
    (spares : ∀ label ∈ labels, ∀ choice, label.1 = .engine choice → key.Spares choice)
    (physical : PhysicalOrder (key.arrived (labels.map Prod.snd))) :
    key.Kept (labels.map Prod.snd) final := by
  have attended : Attends key labels final := by
    refine run.trace_invariant (Attends key) ?_ [] fun _ _ => .start key relayEnabled
    rintro past runtime ⟨choice, label⟩ next ⟨taken, heeds⟩ attended spares physical
    rw [List.map_append] at physical ⊢
    -- The arrivals so far are in order as all of them are.
    have before : PhysicalOrder (key.arrived (past.map Prod.snd)) := by
      unfold PhysicalKey.arrived at physical ⊢
      rw [List.flatMap_append] at physical
      exact physical.left
    exact (attended (fun label member => spares label (List.mem_append_left _ member)) before).step
      (fun move same => spares (choice, label) (by simp) move same) heeds physical taken
  exact (attended spares physical).kept

/-- A key whose chord is registered under two ids in turn. -/
private def twice : PhysicalKey := ⟨"a", fun id => id == 1 || id == 2⟩

/-- The checks on a step of these runs that show it to be careful. -/
private def heeded (runtime : WorkerRuntime) : RuntimeChoice → Bool
  | .pool (.worker generation) =>
    (runtime.pool.upNext generation).all fun message =>
      runtime.pool.tasks.all fun worker => worker.id == message.id || worker.content.isEmpty
  | .pool .dispatcher =>
    match runtime.pool.dispatcher with
    | .loadingPending _ _ generation =>
      (runtime.pool.tasks[generation]?).all fun worker => decide (worker.pending < 64)
    | .swappingRelease _ _ _ | .removing _ _ => false
    | _ => true
  | .engine (.resume task _) =>
    (runtime.engine.tasks[task]?).all fun entry => (twice.move entry).all fun move =>
      (runtime.engine.bindings.lookup move.1).isSome
  | _ => true

/-- Steps that pass the checks are careful. -/
private theorem heeded_heeds {runtime : WorkerRuntime} {choice : RuntimeChoice}
    (checked : heeded runtime choice = true) : twice.Heeds 64 runtime choice where
  alone := by
    rintro generation message rfl ready _ _ id _ different
    simp only [heeded, ready, Option.all_some] at checked
    refine List.flatMap_eq_nil_iff.mpr fun worker member => ?_
    split
    · rename_i same
      have empty := List.all_eq_true.mp checked worker member
      rcases Bool.or_eq_true_iff.mp empty with other | empty
      · exact absurd (same.symm.trans (beq_iff_eq.mp other)) different
      · exact List.isEmpty_iff.mp empty
    · rfl
  accepted := by
    rintro event result rfl refuses _
    cases refuses with
    | full retry generation worker stage found full =>
      simp only [heeded, stage, found, Option.all_some] at checked
      have room := of_decide_eq_true checked
      omega
    | retained retry generation worker stage =>
      simp only [heeded, stage] at checked
      cases checked
    | closed generation stage =>
      simp only [heeded, stage] at checked
      cases checked
  registered := by
    rintro task answer entry id rfl found _ moved
    simp only [heeded, found, moved, Option.all_some] at checked
    exact Option.isSome_iff_ne_none.mp checked

/-- A step that passes the checks. -/
private def heededStep (runtime : WorkerRuntime) (choice : RuntimeChoice) :
    Option (WorkerRuntime × PoolLabel) :=
  if heeded runtime choice then runtime.step 64 Engine.plainHost choice else none

/-- The runtime with a new engine and no workers. -/
private def fresh : WorkerRuntime := { pool := {}, engine := .build true }

/-- The bindings while the chord has an id. -/
private def boundTo (id : UInt32) : RuntimeChoice :=
  .engine (.register (HashMap.collect [(id, ⟨"a", ⟨∅, .a⟩⟩)]))

/-- An event of the key, and the operations that queue it. -/
private def queued (id : UInt32) (kind : EventKind) : List RuntimeChoice :=
  .pool (.arrive ⟨id, ⟨∅, .a⟩, kind, false⟩) :: List.replicate 5 (.pool .dispatcher)

/-- So many operations of a worker. -/
private def works (generation operations : Nat) : List RuntimeChoice :=
  List.replicate operations (.pool (.worker generation))

/-- What a task of the engine finds, one thing after the other. -/
private def finds (task : Nat) (answers : List TaskAnswer) : List RuntimeChoice :=
  answers.map fun answer => .engine (.resume task answer)

/-- A press under the first id is handled, and its release is queued. -/
private def pressed : List RuntimeChoice :=
  boundTo 1 :: queued 1 .keyDown ++ works 0 4 ++ finds 0 [.granted, .handled false .ignored] ++
    works 0 2 ++ queued 1 .keyUp

/-- A press under the second id starts a loop. -/
private def looping (task : Nat) : List RuntimeChoice :=
  boundTo 2 :: queued 2 .keyDown ++ works 1 4 ++
    finds task [.granted, .handled false (.queued [.untilKeyUp ⟨7⟩ none]), .granted,
      .script (some []), .granted, .granted, .refreshed false] ++ works 1 2

/-- The release is dispatched before the next press. -/
private def inTurn : List RuntimeChoice := pressed ++ works 0 4 ++ looping 2

/-- The release is dispatched once the next press has started its loop. -/
private def overtaken : List RuntimeChoice :=
  pressed ++ looping 1 ++ works 0 2 ++ [.engine (.loopEnd 0)] ++ finds 2 [.granted] ++ works 0 2

/-- The events of the key in both runs. -/
private def moved : List (UInt32 × KeyMove) := [(1, .press), (1, .release), (2, .press)]

/-- A physical key can be pressed, released and pressed again. -/
private theorem moved_physical : PhysicalOrder moved := by
  have still : PhysicalOrder [] := by
    intro before move later same
    simp at same
  have down : PhysicalOrder ([] ++ [(1, .press)]) := still.snoc rfl
  have up : PhysicalOrder ([] ++ [(1, .press)] ++ [(1, .release)]) := down.snoc rfl
  have again : PhysicalOrder ([] ++ [(1, .press)] ++ [(1, .release)] ++ [(2, .press)]) :=
    up.snoc rfl
  exact again

/-- The check that a choice names the key by its own ids alone. -/
private def spared : RuntimeChoice → Bool
  | .engine (.register bindings) =>
    bindings.entries.all fun entry => (entry.2.identifier == "a") == twice.ids entry.1
  | .engine (.call _) => false
  | _ => true

/-- Choices that pass the check spare the key. -/
private theorem spared_spares {choices : List RuntimeChoice} {labels : List PoolLabel}
    (checked : choices.all spared = true) :
    ∀ label ∈ choices.zip labels, ∀ choice, label.1 = .engine choice → twice.Spares choice := by
  rintro ⟨_, label⟩ member choice rfl
  have passed := List.all_eq_true.mp checked _ (List.of_mem_zip member).1
  constructor
  · rintro request ident rfl
    cases passed
  · rintro bindings rfl id binding found
    have each := List.all_eq_true.mp passed _ (AList.mem_lookup_iff.mp found)
    rw [beq_iff_eq] at each
    have same := Bool.eq_iff_iff.mp each
    rw [beq_iff_eq] at same
    exact same

/-- A release that is dispatched before the next press leaves that press its loop. -/
theorem key_in_order_rebound :
    ∃ labels final, twice.Kept labels final ∧ twice.arrived labels = moved ∧
      twice.moves final.engine = moved ∧
      KeyStateTracker.isDown final.engine.keyTracker "a" = true ∧
      final.engine.actionRepeater.tasks = [⟨"a", ⟨⟨⟨7⟩, none⟩, false, 2⟩, false, false⟩] := by
  -- Every step of this run passes the checks.
  obtain ⟨final, outputs, seen, run, lengths⟩ := Run.of_evaluate heededStep fresh inTurn
    (fun result => (twice.arrived result.2, twice.moves result.1.engine,
      KeyStateTracker.isDown result.1.engine.keyTracker "a", result.1.engine.actionRepeater.tasks))
    (moved, moved, true, [⟨"a", ⟨⟨⟨7⟩, none⟩, false, 2⟩, false, false⟩]) (by decide +kernel)
  simp only [Prod.mk.injEq] at seen
  obtain ⟨arrived, moves, down, loops⟩ := seen
  have shown : (inTurn.zip outputs).map Prod.snd = outputs := List.map_snd_zip (by rw [lengths])
  have careful : Run (fun runtime label next =>
      Steps 64 Engine.plainHost runtime label next ∧ twice.Heeds 64 runtime label.1) fresh
      (inTurn.zip outputs) final := by
    refine run.mono fun {runtime label next} taken => ?_
    unfold heededStep at taken
    split at taken
    · rename_i checked
      exact ⟨taken, heeded_heeds checked⟩
    · cases taken
  have kept := key_in_order careful (spared_spares (by decide +kernel))
    (by rw [shown, arrived]; exact moved_physical)
  rw [shown] at kept
  exact ⟨outputs, final, kept, arrived, moves, down, loops⟩

/-- A release that is dispatched after the next press ends that press's loop, and the key counts as
up while it is held. -/
theorem key_in_order_overtaken :
    ∃ labels final, Run (Steps 64 Engine.plainHost) fresh labels final ∧
      (∀ label ∈ labels, ∀ choice, label.1 = .engine choice → twice.Spares choice) ∧
      twice.arrived (labels.map Prod.snd) = moved ∧ PhysicalOrder moved ∧
      final.pool.dispatcher = .idle ∧ (∀ id, final.pool.lane id = []) ∧
      twice.moves final.engine = [(1, .press), (2, .press), (1, .release)] ∧
      heldAfterMoves moved = some 2 ∧
      KeyStateTracker.isDown final.engine.keyTracker "a" = false ∧
      final.engine.actionRepeater.tasks = [⟨"a", ⟨⟨⟨7⟩, none⟩, false, 1⟩, true, true⟩] ∧
      ¬ twice.Kept (labels.map Prod.snd) final := by
  -- The second worker is done with its press when the first takes up its release.
  obtain ⟨final, outputs, seen, run, lengths⟩ := Run.of_evaluate
    (step 64 Engine.plainHost) fresh overtaken
    (fun result => (twice.arrived result.2, twice.moves result.1.engine,
      decide (result.1.pool.dispatcher = .idle) &&
        !KeyStateTracker.isDown result.1.engine.keyTracker "a" &&
        result.1.pool.tasks.all fun worker => worker.content.isEmpty,
      result.1.engine.actionRepeater.tasks))
    (moved, [(1, .press), (2, .press), (1, .release)], true,
      [⟨"a", ⟨⟨⟨7⟩, none⟩, false, 1⟩, true, true⟩]) (by decide +kernel)
  simp only [Prod.mk.injEq, Bool.and_eq_true, decide_eq_true_eq, Bool.not_eq_true'] at seen
  obtain ⟨arrived, moves, ⟨⟨idle, up⟩, done⟩, loops⟩ := seen
  have shown : (overtaken.zip outputs).map Prod.snd = outputs :=
    List.map_snd_zip (by rw [lengths])
  have empty : ∀ id, final.pool.lane id = [] := by
    intro id
    refine List.flatMap_eq_nil_iff.mpr fun worker member => ?_
    split
    · exact List.isEmpty_iff.mp (List.all_eq_true.mp done worker member)
    · rfl
  refine ⟨overtaken.zip outputs, final, run, spared_spares (by decide +kernel), ?_, moved_physical,
    idle, empty, moves, rfl, up, loops, fun kept => ?_⟩
  · rw [shown, arrived]
  · -- The key is held under its second id.
    have tracked := kept.tracked (by rw [idle]; rfl) fun id _ => empty id
    rw [shown, arrived] at tracked
    exact absurd (up.symm.trans tracked) (by decide)

end WorkerRuntime

end Hotki

import Mathlib.Data.List.Perm.Basic
import Hotki.Server.EventPipeline

/-! Laws of the event pipeline: what its tasks can do, and what every client receives. -/

namespace Hotki

open Base

variable {Message : Type} {encodes : Message → Bool}

namespace BroadcastStage

/-- What a call of `broadcast_event` can do, with the stage it leads to and the clients left. -/
inductive Does (encodes requested : Bool) (clients : List TrackedClient) :
    BroadcastStage → BroadcastAction → Option BroadcastStage → List TrackedClient → Prop where
  | refuses : requested = true → Does encodes requested clients entering .quiet none clients
  | enters : requested = false →
      Does encodes requested clients entering .quiet (some locking) clients
  | skips : encodes = false → Does encodes requested clients locking .quiet none clients
  | begins : encodes = true →
      Does encodes requested clients locking .began (some (sending clients)) clients
  | ends : Does encodes requested clients (sending []) .quiet none clients
  | delivers (waiting : List TrackedClient) (position : Nat) (client : TrackedClient) :
      waiting[position]? = some client →
      Does encodes requested clients (sending waiting) (.delivered client.sender)
        (some (sending (waiting.eraseIdx position))) clients
  | fails (waiting : List TrackedClient) (position : Nat) (client : TrackedClient) :
      waiting[position]? = some client →
      Does encodes requested clients (sending waiting) (.failed client.sender)
        (some (removing client (waiting.eraseIdx position))) clients
  | removes (client : TrackedClient) (waiting : List TrackedClient) (emptied : Bool) :
      Does encodes requested clients (removing client waiting) (.removed emptied)
        (some (sending waiting)) (clients.filter fun other => other.id != client.id)

/-- A step of the call is one of these. -/
theorem step_does {enc requested : Bool} {clients left : List TrackedClient}
    {stage : BroadcastStage} {move : TaskMove} {next : Option BroadcastStage}
    {action : BroadcastAction}
    (stepped : stage.step enc requested clients move = some (next, left, action)) :
    Does enc requested clients stage action next left := by
  -- The call enters, encodes, and then sends to one connection after the other.
  unfold step at stepped
  split at stepped
  · obtain ⟨rfl, rfl, rfl⟩ := by simpa using stepped
    cases requested with
    | true => exact .refuses rfl
    | false => exact .enters rfl
  -- An event that cannot be encoded is skipped.
  · cases enc with
    | true =>
      obtain ⟨rfl, rfl, rfl⟩ := by simpa using stepped
      exact .begins rfl
    | false =>
      obtain ⟨rfl, rfl, rfl⟩ := by simpa using stepped
      exact .skips rfl
  · obtain ⟨rfl, rfl, rfl⟩ := by simpa using stepped
    exact .ends
  · rename_i waiting position delivered
    obtain ⟨client, found, same⟩ := Option.map_eq_some_iff.mp stepped
    cases delivered with
    | true =>
      obtain ⟨rfl, rfl, rfl⟩ := by simpa using same
      exact .delivers waiting position client found
    | false =>
      obtain ⟨rfl, rfl, rfl⟩ := by simpa using same
      exact .fails waiting position client found
  · rename_i client waiting
    obtain ⟨rfl, rfl, rfl⟩ := by simpa [Server.remove] using stepped
    exact .removes client waiting _
  · cases stepped

/-- No call adds clients. -/
theorem Does.clients_sublist {enc requested : Bool} {clients left : List TrackedClient}
    {stage : BroadcastStage} {next : Option BroadcastStage} {action : BroadcastAction}
    (does : Does enc requested clients stage action next left) : left.Sublist clients := by
  cases does with
  | removes => exact List.filter_sublist
  | _ => exact List.Sublist.refl _

end BroadcastStage

namespace PipelineLabel

/-- Whether a label has nothing to do with queued events and registrations. -/
def aside : PipelineLabel Message → Bool
  | quiet | started | heartbeat _ _ | stopped _ => true
  | _ => false

/-- Such a label accepts, begins and delivers nothing. -/
theorem of_aside {label : PipelineLabel Message} (aside : label.aside = true) :
    label.acceptance = none ∧ label.beginning = none ∧ ∀ sender, label.delivery sender = none := by
  cases label with
  | registered | accepted | fanout => cases aside
  | _ => exact ⟨rfl, rfl, fun _ => rfl⟩

end PipelineLabel

/-- The clients that the fanout task has yet to remove or to serve. -/
def FanoutStage.held (fanout : FanoutStage Message) : List TrackedClient :=
  fanout.leaving.toList ++ fanout.awaited

/-- Tasks that are joined have ended. -/
theorem PipelineTasks.ended_of_joined (tasks : PipelineTasks Message)
    (all : tasks.joined = true) : tasks.fanout = .ended ∧ tasks.heartbeat = .ended := by
  unfold joined at all
  split at all
  · rename_i fanout heartbeat
    exact ⟨fanout, heartbeat⟩
  · cases all

/-- A broadcast keeps the event in hand until its sends begin, unless shutdown drops it. -/
theorem BroadcastStage.Does.accounts {event : Message} {requested : Bool}
    {clients left : List TrackedClient} {stage : BroadcastStage} {after : Option BroadcastStage}
    {action : BroadcastAction}
    (does : stage.Does (encodes event) requested clients action after left) :
    ∃ more, (FanoutStage.broadcasting event stage).inHand.filter encodes =
        (PipelineLabel.fanout event action).beginning.toList ++ more ++
          (FanoutStage.inHand (after.elim .waiting (.broadcasting event))).filter encodes ∧
      (more = [] ∨ requested = true ∧
        FanoutStage.current (after.elim .waiting (.broadcasting event)) = none) := by
  -- The event is in hand until its sends begin, and only a shutdown drops it before that.
  cases does with
  | refuses requested =>
    refine ⟨[event].filter encodes, ?_, .inr ⟨requested, rfl⟩⟩
    simp [FanoutStage.inHand, PipelineLabel.beginning]
  | skips unencoded =>
    refine ⟨[], ?_, .inl rfl⟩
    simp [FanoutStage.inHand, PipelineLabel.beginning, unencoded]
  | begins encoded =>
    refine ⟨[], ?_, .inl rfl⟩
    simp [FanoutStage.inHand, PipelineLabel.beginning, encoded]
  | enters | ends | delivers | fails | removes => exact ⟨[], rfl, .inl rfl⟩

namespace EventPipeline

/-- Whether the pipeline was shut down before it was started. -/
def Unstarted (pipeline : EventPipeline Message) : Prop :=
  pipeline.lifecycle = .stopped ∧ pipeline.tasks = none

/-- What leaves the events and the fanout task alone and adds no clients. -/
structure Aside (before after : EventPipeline Message) : Prop where
  clients : after.clients.Sublist before.clients
  registered : ∀ (index id : Nat), after.connections[index]? = some (.registered id) ↔
    before.connections[index]? = some (.registered id)
  fanout : after.fanout = before.fanout
  requested : before.requested = true → after.requested = true
  unstarted : before.Unstarted → after.Unstarted
  /-- The queue is left alone unless its receiver is dropped. -/
  queue : after.queue = before.queue ∨ after.queue = [] ∧ after.Unstarted

/-- A turn of the fanout task outside a broadcast, with the queue it leaves. -/
inductive Turns (requested cancelled : Bool) :
    FanoutStage Message → List Message → FanoutStage Message → List Message → Prop where
  | receives (event : Message) (queue : List Message) :
      Turns requested cancelled .waiting (event :: queue) (.received event) queue
  | broadcasts (event : Message) (queue : List Message) : requested = false →
      Turns requested cancelled (.received event) queue (.broadcasting event .entering) queue
  | quits (event : Message) (queue : List Message) : requested = true →
      Turns requested cancelled (.received event) queue .ended queue
  | cancels (queue : List Message) : cancelled = true →
      Turns requested cancelled .waiting queue .ended queue

/-- What the pipeline can do, as far as queued events and registrations are concerned. -/
inductive Moves (encodes : Message → Bool) (pipeline : EventPipeline Message) :
    PipelineLabel Message → EventPipeline Message → Prop where
  /-- A connection enters the registry. -/
  | registers (index id : Nat) : pipeline.connections[index]? = some (.numbered id) →
      Moves encodes pipeline (.registered index)
        { pipeline with
          clients := pipeline.clients ++ [⟨id, index⟩]
          connections := pipeline.connections.set index (.registered id) }
  /-- The queue takes an event. -/
  | accepts (event : Message) : pipeline.accepting = true →
      Moves encodes pipeline (.accepted event)
        { pipeline with queue := pipeline.queue ++ [event] }
  /-- The fanout task moves outside a broadcast. -/
  | turns (tasks : PipelineTasks Message) (fanout : FanoutStage Message) (queue : List Message) :
      pipeline.tasks = some tasks →
      Turns pipeline.requested tasks.cancelled tasks.fanout pipeline.queue fanout queue →
      Moves encodes pipeline .quiet { pipeline with queue, tasks := some { tasks with fanout } }
  /-- It moves within one. -/
  | fans (tasks : PipelineTasks Message) (event : Message) (stage : BroadcastStage)
      (action : BroadcastAction) (after : Option BroadcastStage) (clients : List TrackedClient) :
      pipeline.tasks = some tasks → tasks.fanout = .broadcasting event stage →
      stage.Does (encodes event) pipeline.requested pipeline.clients action after clients →
      Moves encodes pipeline (.fanout event action)
        { pipeline with
          clients
          tasks := some { tasks with fanout := after.elim .waiting (.broadcasting event) } }
  | aside (label : PipelineLabel Message) (next : EventPipeline Message) :
      label.aside = true → pipeline.Aside next → Moves encodes pipeline label next

variable {pipeline next : EventPipeline Message} {label : PipelineLabel Message}

/-- Setting a connection that is not registered to a stage that is not leaves the registered. -/
private theorem registered_set {connections : List ClientStage} {index : Nat}
    {before after : ClientStage} (found : connections[index]? = some before)
    (unregistered : ∀ id, before ≠ .registered id) (further : ∀ id, after ≠ .registered id)
    (other id : Nat) : (connections.set index after)[other]? = some (.registered id) ↔
      connections[other]? = some (.registered id) := by
  -- The one that is set was not registered and is not, so the same are registered.
  by_cases same : index = other
  · subst same
    have within := (List.getElem?_eq_some_iff.mp found).1
    rw [List.getElem?_set_self within, found]
    constructor
    · intro equal
      exact absurd (Option.some.inj equal) (further id)
    · intro equal
      exact absurd (Option.some.inj equal) (unregistered id)
  · rw [List.getElem?_set_ne same]

/-- What changes only the calls that shut the pipeline down is aside. -/
private theorem aside_of_same {after : EventPipeline Message}
    (clients : after.clients.Sublist pipeline.clients)
    (connections : after.connections = pipeline.connections)
    (fanout : after.fanout = pipeline.fanout) (requested : after.requested = pipeline.requested)
    (unstarted : pipeline.Unstarted → after.Unstarted)
    (queue : after.queue = pipeline.queue ∨ after.queue = [] ∧ after.Unstarted) :
    pipeline.Aside after :=
  ⟨clients, fun _ _ => by rw [connections], fanout, fun same => by rw [requested, same],
    unstarted, queue⟩

/-- A connection registers, or goes on aside. -/
private theorem connected_moves {index : Nat}
    (stepped : pipeline.connected index = some (next, label)) :
    Moves encodes pipeline label next := by
  -- A connection is numbered first, and then it registers, unless shutdown was requested.
  unfold connected at stepped
  split at stepped
  · rename_i found
    split at stepped
    · cases stepped
      apply Moves.aside _ _ rfl
      exact ⟨List.Sublist.refl _, registered_set found (by simp) (by simp), rfl, id, id, .inl rfl⟩
    · cases stepped
      apply Moves.aside _ _ rfl
      exact ⟨List.Sublist.refl _, registered_set found (by simp) (by simp), rfl, id, id, .inl rfl⟩
  · rename_i id found
    cases stepped
    exact .registers index id found
  · cases stepped

/-- The fanout task moves outside a broadcast or within one. -/
private theorem forwardEvents_moves {tasks : PipelineTasks Message} {move : TaskMove}
    (running : pipeline.tasks = some tasks)
    (stepped : pipeline.forwardEvents encodes tasks move = some (next, label)) :
    Moves encodes pipeline label next := by
  -- The task receives the next event, or goes on with the broadcast of the last one.
  unfold forwardEvents at stepped
  split at stepped
  · rename_i stands
    obtain ⟨cancelled, same⟩ := Option.ite_none_right_eq_some.mp stepped
    cases same
    exact .turns tasks _ _ running (by rw [stands]; exact .cancels _ cancelled)
  · rename_i stands
    split at stepped
    · cases stepped
    · rename_i event queue queued
      cases stepped
      exact .turns tasks _ _ running (by rw [stands, queued]; exact .receives event queue)
  · rename_i event stands
    cases stepped
    apply Moves.turns tasks _ _ running
    rw [stands]
    cases requested : pipeline.requested with
    | true => exact .quits event _ rfl
    | false => exact .broadcasts event _ rfl
  · rename_i event stage stands
    obtain ⟨⟨after, clients, action⟩, moved, same⟩ := Option.map_eq_some_iff.mp stepped
    cases same
    exact .fans tasks event stage action after clients running stands
      (BroadcastStage.step_does moved)
  · cases stepped

/-- The heartbeat task moves aside. -/
private theorem broadcastHeartbeats_moves {tasks : PipelineTasks Message} {beat : Message}
    {move : TaskMove} (running : pipeline.tasks = some tasks)
    (stepped : pipeline.broadcastHeartbeats encodes tasks beat move = some (next, label)) :
    Moves encodes pipeline label next := by
  -- Only the heartbeat's own stage changes, and the clients that it removes.
  have frame : ∀ (heartbeat : HeartbeatStage Message) (clients : List TrackedClient),
      clients.Sublist pipeline.clients →
      pipeline.Aside { pipeline with clients, tasks := some { tasks with heartbeat } } := by
    intro heartbeat clients kept
    have same : EventPipeline.fanout
        { pipeline with clients, tasks := some { tasks with heartbeat } } = pipeline.fanout := by
      simp only [EventPipeline.fanout, running, Option.elim_some]
    refine ⟨kept, fun _ _ => Iff.rfl, same, id, fun unstarted => ?_, .inl rfl⟩
    cases running.symm.trans unstarted.2
  unfold broadcastHeartbeats at stepped
  split at stepped
  · cases stepped
    exact .aside _ _ rfl (frame _ _ (List.Sublist.refl _))
  · obtain ⟨⟨after, clients, action⟩, moved, same⟩ := Option.map_eq_some_iff.mp stepped
    cases same
    exact .aside _ _ rfl (frame _ _ (BroadcastStage.step_does moved).clients_sublist)
  · cases stepped
    exact .aside _ _ rfl (frame _ _ (List.Sublist.refl _))
  · obtain ⟨cancelled, same⟩ := Option.ite_none_right_eq_some.mp stepped
    cases same
    exact .aside _ _ rfl (frame _ _ (List.Sublist.refl _))
  · cases stepped

/-- A shutdown of the pipeline moves aside. -/
private theorem stopped_moves {index : Nat}
    (ready : pipeline.lifecycle = .ready → pipeline.tasks = none)
    (stepped : pipeline.stopped index = some (next, label)) :
    Moves encodes pipeline label next := by
  -- The call empties the clients, stops the pipeline, and joins its tasks if they run.
  unfold stopped at stepped
  dsimp only at stepped
  split at stepped
  · cases stepped
    exact .aside _ _ rfl (aside_of_same (List.nil_sublist _) rfl rfl rfl id (.inl rfl))
  · split at stepped
    · rename_i waits
      cases stepped
      have unstarted := ready waits
      exact .aside _ _ rfl ⟨List.Sublist.refl _, fun _ _ => Iff.rfl, rfl, id,
        fun _ => ⟨rfl, unstarted⟩, .inr ⟨rfl, rfl, unstarted⟩⟩
    · rename_i runs
      cases stepped
      apply Moves.aside _ _ rfl
      refine ⟨List.Sublist.refl _, fun _ _ => Iff.rfl, ?_, id, fun unstarted => ?_, .inl rfl⟩
      · cases tasks : pipeline.tasks <;> simp [EventPipeline.fanout, tasks]
      · cases runs.symm.trans unstarted.1
    · cases stepped
      exact .aside _ _ rfl (aside_of_same (List.Sublist.refl _) rfl rfl rfl id (.inl rfl))
  · split at stepped
    · cases stepped
      exact .aside _ _ rfl (aside_of_same (List.Sublist.refl _) rfl rfl rfl id (.inl rfl))
    · cases stepped
  · cases stepped

/-- What a step does to the lifecycle, and to the calls that shut the pipeline down. -/
inductive Course (pipeline : EventPipeline Message) :
    PipelineLabel Message → EventPipeline Message → Prop where
  /-- Both are left alone. -/
  | keeps {label : PipelineLabel Message} {next : EventPipeline Message} :
      next.lifecycle = pipeline.lifecycle → next.stops = pipeline.stops →
      (next.tasks = none ↔ pipeline.tasks = none) → label ≠ .started →
      (∀ first, label ≠ .stopped first) → Course pipeline label next
  | starts {next : EventPipeline Message} : pipeline.lifecycle = .ready →
      next.lifecycle = .running → next.stops = pipeline.stops → Course pipeline .started next
  /-- A call begins. -/
  | calls {next : EventPipeline Message} : next.lifecycle = pipeline.lifecycle →
      next.stops = pipeline.stops ++ [.clearing] → next.tasks = pipeline.tasks →
      Course pipeline .quiet next
  | clears (index : Nat) {next : EventPipeline Message} : next.lifecycle = pipeline.lifecycle →
      next.stops = pipeline.stops.set index .replacing → next.tasks = pipeline.tasks →
      Course pipeline .quiet next
  /-- The pipeline is shut down before it was started. -/
  | drops (index : Nat) {next : EventPipeline Message} : pipeline.lifecycle = .ready →
      next.lifecycle = .stopped → next.stops = pipeline.stops.set index .returned →
      next.tasks = pipeline.tasks → Course pipeline (.stopped true) next
  /-- Its tasks are cancelled, and awaited. -/
  | takes (index : Nat) {next : EventPipeline Message} : pipeline.lifecycle = .running →
      next.lifecycle = .stopped → next.stops = pipeline.stops.set index .joining →
      Course pipeline .quiet next
  /-- It was shut down before. -/
  | finds (index : Nat) {next : EventPipeline Message} :
      next.lifecycle = pipeline.lifecycle → next.stops = pipeline.stops.set index .returned →
      next.tasks = pipeline.tasks → Course pipeline (.stopped false) next
  /-- Its tasks have ended. -/
  | joins (index : Nat) {next : EventPipeline Message} :
      pipeline.stops[index]? = some StopStage.joining → pipeline.tasks.all PipelineTasks.joined →
      next.lifecycle = pipeline.lifecycle → next.stops = pipeline.stops.set index .returned →
      next.tasks = pipeline.tasks → Course pipeline (.stopped true) next

/-- The fanout task keeps to its course. -/
private theorem forwardEvents_course {tasks : PipelineTasks Message} {move : TaskMove}
    (running : pipeline.tasks = some tasks)
    (stepped : pipeline.forwardEvents encodes tasks move = some (next, label)) :
    pipeline.Course label next := by
  -- The lifecycle and the calls are not the task's to change.
  unfold forwardEvents at stepped
  split at stepped
  · obtain ⟨_, same⟩ := Option.ite_none_right_eq_some.mp stepped
    cases same
    exact .keeps rfl rfl (by simp [running]) (by simp) (by simp)
  · split at stepped
    · cases stepped
    · cases stepped
      exact .keeps rfl rfl (by simp [running]) (by simp) (by simp)
  · cases stepped
    exact .keeps rfl rfl (by simp [running]) (by simp) (by simp)
  · obtain ⟨_, _, same⟩ := Option.map_eq_some_iff.mp stepped
    cases same
    exact .keeps rfl rfl (by simp [running]) (by simp) (by simp)
  · cases stepped

/-- So does the heartbeat task. -/
private theorem broadcastHeartbeats_course {tasks : PipelineTasks Message} {beat : Message}
    {move : TaskMove} (running : pipeline.tasks = some tasks)
    (stepped : pipeline.broadcastHeartbeats encodes tasks beat move = some (next, label)) :
    pipeline.Course label next := by
  -- The lifecycle and the calls are not the task's to change.
  unfold broadcastHeartbeats at stepped
  split at stepped
  · cases stepped
    exact .keeps rfl rfl (by simp [running]) (by simp) (by simp)
  · obtain ⟨_, _, same⟩ := Option.map_eq_some_iff.mp stepped
    cases same
    exact .keeps rfl rfl (by simp [running]) (by simp) (by simp)
  · cases stepped
    exact .keeps rfl rfl (by simp [running]) (by simp) (by simp)
  · obtain ⟨_, same⟩ := Option.ite_none_right_eq_some.mp stepped
    cases same
    exact .keeps rfl rfl (by simp [running]) (by simp) (by simp)
  · cases stepped

/-- A call that shuts the pipeline down goes on. -/
private theorem stopped_course {index : Nat}
    (stepped : pipeline.stopped index = some (next, label)) :
    pipeline.Course label next := by
  -- What the call finds depends on the lifecycle, of which it makes a stopped one.
  unfold stopped at stepped
  dsimp only at stepped
  split at stepped
  · cases stepped
    exact .clears index rfl rfl rfl
  · split at stepped
    · rename_i waits
      cases stepped
      exact .drops index waits rfl rfl rfl
    · rename_i runs
      cases stepped
      exact .takes index runs rfl rfl
    · cases stepped
      exact .finds index rfl rfl rfl
  · rename_i joining
    obtain ⟨joined, same⟩ := Option.ite_none_right_eq_some.mp stepped
    cases same
    exact .joins index joining joined rfl rfl rfl
  · cases stepped

/-- Every step keeps to the course. -/
theorem Steps.course (stepped : pipeline.Steps encodes label next) :
    pipeline.Course label next := by
  -- Only the two tasks and the calls of the pipeline move it along.
  obtain ⟨choice, stepped⟩ := stepped
  cases choice with
  | connect | request =>
    cases stepped
    exact .keeps rfl rfl Iff.rfl (by simp) (by simp)
  | connection index =>
    simp only [step, connected] at stepped
    split at stepped
    · split at stepped <;> (cases stepped; exact .keeps rfl rfl Iff.rfl (by simp) (by simp))
    · cases stepped
      exact .keeps rfl rfl Iff.rfl (by simp) (by simp)
    · cases stepped
  | start =>
    simp only [step] at stepped
    split at stepped
    · rename_i waits
      cases stepped
      exact .starts waits rfl rfl
    · cases stepped
      exact .keeps rfl rfl Iff.rfl (by simp) (by simp)
  | offer event =>
    simp only [step] at stepped
    split at stepped <;> (cases stepped; exact .keeps rfl rfl Iff.rfl (by simp) (by simp))
  | fanout move =>
    obtain ⟨tasks, running, moved⟩ := Option.bind_eq_some_iff.mp stepped
    exact forwardEvents_course running moved
  | heartbeat beat move =>
    obtain ⟨tasks, running, moved⟩ := Option.bind_eq_some_iff.mp stepped
    exact broadcastHeartbeats_course running moved
  | stop =>
    cases stepped
    exact .calls rfl rfl rfl
  | stopping index => exact stopped_course stepped

/-- A pipeline that is yet to be started has no tasks. -/
theorem Steps.tasks_of_ready (stepped : pipeline.Steps encodes label next)
    (held : pipeline.lifecycle = .ready → pipeline.tasks = none) :
    next.lifecycle = .ready → next.tasks = none := by
  intro waits
  cases stepped.course with
  | keeps lifecycle _ tasks => exact tasks.mpr (held (lifecycle.symm.trans waits))
  | calls lifecycle _ tasks | clears _ lifecycle _ tasks | finds _ lifecycle _ tasks
  | joins _ _ _ lifecycle _ tasks => exact tasks.trans (held (lifecycle.symm.trans waits))
  | starts _ lifecycle | drops _ _ lifecycle | takes _ _ lifecycle =>
    cases lifecycle.symm.trans waits

/-- Every step is one of these moves. -/
theorem Steps.moves (ready : pipeline.lifecycle = .ready → pipeline.tasks = none)
    (stepped : pipeline.Steps encodes label next) : Moves encodes pipeline label next := by
  obtain ⟨choice, stepped⟩ := stepped
  have plain : pipeline.Aside pipeline :=
    ⟨List.Sublist.refl _, fun _ _ => Iff.rfl, rfl, id, id, .inl rfl⟩
  cases choice with
  | connect =>
    cases stepped
    apply Moves.aside _ _ rfl
    refine ⟨List.Sublist.refl _, fun index id => ?_, rfl, id, id, .inl rfl⟩
    -- A connection that arrives is not yet registered.
    show (pipeline.connections ++ [.arriving])[index]? = _ ↔ _
    rcases Nat.lt_trichotomy index pipeline.connections.length with within | same | beyond
    · rw [List.getElem?_append_left within]
    · subst same
      simp
    · rw [List.getElem?_eq_none (by simp; omega), List.getElem?_eq_none (by omega)]
  | connection index => exact connected_moves stepped
  -- Only the first start finds the queue waiting; another changes nothing.
  | start =>
    simp only [step] at stepped
    split at stepped
    · rename_i waits
      cases stepped
      apply Moves.aside _ _ rfl
      refine ⟨List.Sublist.refl _, fun _ _ => Iff.rfl, ?_, id, fun unstarted => ?_, .inl rfl⟩
      · simp only [EventPipeline.fanout, ready waits, Option.elim_some, Option.elim_none]
      · cases waits.symm.trans unstarted.1
    · cases stepped
      exact .aside _ _ rfl plain
  | offer event =>
    simp only [step] at stepped
    split at stepped
    · rename_i taken
      cases stepped
      exact .accepts event (Bool.and_eq_true_iff.mp taken).1
    · cases stepped
      exact .aside _ _ rfl plain
  | fanout move =>
    obtain ⟨tasks, running, moved⟩ := Option.bind_eq_some_iff.mp stepped
    exact forwardEvents_moves running moved
  | heartbeat beat move =>
    obtain ⟨tasks, running, moved⟩ := Option.bind_eq_some_iff.mp stepped
    exact broadcastHeartbeats_moves running moved
  | request =>
    cases stepped
    exact .aside _ _ rfl ⟨List.Sublist.refl _, fun _ _ => Iff.rfl, rfl, fun _ => rfl, id, .inl rfl⟩
  | stop =>
    cases stepped
    exact .aside _ _ rfl ⟨List.Sublist.refl _, fun _ _ => Iff.rfl, rfl, id, id, .inl rfl⟩
  | stopping index => exact stopped_moves ready stepped

/-- Outside a broadcast nobody is awaited. -/
theorem Turns.idle {requested cancelled : Bool} {before after : FanoutStage Message}
    {queue left : List Message} (turned : Turns requested cancelled before queue after left) :
    before.awaited = [] ∧ before.leaving = none ∧ after.awaited = [] := by
  cases turned <;> exact ⟨rfl, rfl, rfl⟩

/-- A turn keeps the events that are in hand or queued, but for one that shutdown drops. -/
theorem Turns.accounts {requested cancelled : Bool} {before after : FanoutStage Message}
    {queue left : List Message} (turned : Turns requested cancelled before queue after left)
    (encodes : Message → Bool) :
    ∃ more, (before.inHand ++ queue).filter encodes =
        more ++ (after.inHand ++ left).filter encodes ∧
      (more = [] ∧ (requested = true → after.current = none) ∨
        requested = true ∧ after.current = none) := by
  -- The event in hand comes from the head of the queue and goes to the sends.
  cases turned with
  | receives event queue => exact ⟨[], rfl, .inl ⟨rfl, fun _ => rfl⟩⟩
  | broadcasts event queue open' =>
    refine ⟨[], rfl, .inl ⟨rfl, fun requested => ?_⟩⟩
    cases open'.symm.trans requested
  | quits event queue requested =>
    exact ⟨[event].filter encodes, List.filter_append [event] queue, .inr ⟨requested, rfl⟩⟩
  | cancels queue => exact ⟨[], rfl, .inl ⟨rfl, fun _ => rfl⟩⟩

/-- Outside a broadcast nobody is served or removed. -/
theorem Turns.held {requested cancelled : Bool} {before after : FanoutStage Message}
    {queue left : List Message} (turned : Turns requested cancelled before queue after left) :
    after.held = [] := by
  cases turned <;> rfl

/-- What every reachable state of the pipeline keeps about its clients. -/
structure Valid (pipeline : EventPipeline Message) : Prop where
  /-- A client is known under the identifier it was registered with. -/
  named : ∀ client ∈ pipeline.clients ++ pipeline.fanout.held,
    pipeline.connections[client.sender]? = some (.registered client.id)
  /-- No connection is registered twice. -/
  distinct : (pipeline.clients.map TrackedClient.sender).Nodup
  /-- No connection is awaited twice. -/
  once : (pipeline.fanout.held.map TrackedClient.sender).Nodup
  ready : pipeline.lifecycle = .ready → pipeline.tasks = none

/-- A broadcast keeps its clients valid. -/
private theorem Valid.does {requested : Bool} {clients left : List TrackedClient}
    {event : Message} {enc : Bool} {stage : BroadcastStage} {after : Option BroadcastStage}
    {action : BroadcastAction} (does : stage.Does enc requested clients action after left)
    {known : TrackedClient → Prop}
    (named : ∀ client ∈ clients ++ (FanoutStage.broadcasting event stage).held, known client)
    (distinct : (clients.map TrackedClient.sender).Nodup)
    (once : ((FanoutStage.broadcasting event stage).held.map TrackedClient.sender).Nodup)
    {fanout : FanoutStage Message} (same : fanout = after.elim .waiting (.broadcasting event)) :
    (∀ client ∈ left ++ fanout.held, known client) ∧
      (fanout.held.map TrackedClient.sender).Nodup := by
  subst same
  cases does with
  | refuses | enters | skips | ends => exact ⟨named, List.nodup_nil⟩
  | begins =>
    refine ⟨fun client member => named client ?_, distinct⟩
    apply List.mem_append_left
    exact (List.mem_append.mp member).elim (fun stays => stays) fun waits => waits
  | delivers waiting position client found =>
    refine ⟨fun other member => named other ?_, once.sublist ((List.eraseIdx_sublist _ _).map _)⟩
    apply List.mem_append.mpr
    exact (List.mem_append.mp member).imp_right fun waits => List.eraseIdx_subset waits
  | fails waiting position client found =>
    -- The client whose send failed is held all the same.
    obtain ⟨within, rfl⟩ := List.getElem?_eq_some_iff.mp found
    have same := List.getElem_cons_eraseIdx_perm within
    refine ⟨fun other member => named other ?_, (same.map TrackedClient.sender).nodup_iff.mpr once⟩
    apply List.mem_append.mpr
    exact (List.mem_append.mp member).imp_right fun waits => same.subset waits
  | removes client waiting emptied =>
    have once : ((client :: waiting).map TrackedClient.sender).Nodup := once
    refine ⟨fun other member => named other ?_, (List.nodup_cons.mp once).2⟩
    apply List.mem_append.mpr
    exact (List.mem_append.mp member).imp (fun stays => (List.mem_filter.mp stays).1)
      fun waits => List.mem_cons_of_mem client waits

/-- Every step keeps the clients valid. -/
theorem Valid.step (valid : pipeline.Valid) (stepped : pipeline.Steps encodes label next) :
    next.Valid := by
  have ready := stepped.tasks_of_ready valid.ready
  cases stepped.moves valid.ready with
  | registers index id found =>
    -- No client is known yet under the connection that registers.
    have fresh : ∀ client ∈ pipeline.clients ++ pipeline.fanout.held, index ≠ client.sender := by
      intro client member same
      cases (same ▸ found).symm.trans (valid.named client member)
    have within := (List.getElem?_eq_some_iff.mp found).1
    refine ⟨fun client member => ?_, ?_, valid.once, ready⟩
    · show (pipeline.connections.set index (.registered id))[client.sender]? = _
      have cases : client ∈ pipeline.clients ++ pipeline.fanout.held ∨ client = ⟨id, index⟩ := by
        have listed : client ∈ (pipeline.clients ++ [⟨id, index⟩]) ++ pipeline.fanout.held := member
        simp only [List.mem_append, List.mem_singleton] at listed ⊢
        tauto
      rcases cases with known | rfl
      · rw [List.getElem?_set_ne (fresh client known)]
        exact valid.named client known
      · exact List.getElem?_set_self within
    · show ((pipeline.clients ++ [(⟨id, index⟩ : TrackedClient)]).map TrackedClient.sender).Nodup
      rw [List.map_append, List.nodup_append]
      refine ⟨valid.distinct, by simp, ?_⟩
      intro sender listed other same
      obtain ⟨client, member, rfl⟩ := List.mem_map.mp listed
      cases List.mem_singleton.mp same
      exact (fresh client (List.mem_append_left _ member)).symm
  | accepts event => exact ⟨valid.named, valid.distinct, valid.once, ready⟩
  -- Between two broadcasts the task holds no client.
  | turns tasks fanout queue running turned =>
    have idle : FanoutStage.held fanout = [] := turned.held
    refine ⟨fun client member => ?_, valid.distinct, ?_, ready⟩
    · apply valid.named client
      have listed : client ∈ pipeline.clients ++ FanoutStage.held fanout := member
      rw [idle, List.append_nil] at listed
      exact List.mem_append_left _ listed
    · show ((FanoutStage.held fanout).map TrackedClient.sender).Nodup
      rw [idle]
      exact List.nodup_nil
  -- A broadcast holds only clients it was given, each once.
  | fans tasks event stage action after clients running stands does =>
    have before : pipeline.fanout = .broadcasting event stage := by
      simp only [EventPipeline.fanout, running, Option.elim_some, stands]
    have named := valid.named
    have once := valid.once
    rw [before] at named once
    obtain ⟨known, single⟩ := Valid.does does named valid.distinct once rfl
    exact ⟨known, valid.distinct.sublist (does.clients_sublist.map _), single, ready⟩
  | aside _ _ aside moved =>
    refine ⟨fun client member => ?_, valid.distinct.sublist (moved.clients.map _), ?_, ready⟩
    · rw [moved.fanout] at member
      apply (moved.registered _ _).mpr
      apply valid.named client
      simp only [List.mem_append] at member ⊢
      exact member.imp_left fun stays => moved.clients.subset stays
    · rw [moved.fanout]
      exact valid.once

/-- Two known clients of one connection are the same. -/
theorem Valid.alike (valid : pipeline.Valid) {first second : TrackedClient}
    (left : first ∈ pipeline.clients ++ pipeline.fanout.held)
    (right : second ∈ pipeline.clients ++ pipeline.fanout.held)
    (same : first.sender = second.sender) : first = second := by
  have named := (valid.named first left).symm.trans (same ▸ valid.named second right)
  obtain ⟨id, sender⟩ := first
  cases named
  cases same
  rfl

end EventPipeline

namespace FanoutStage

/-- What a connection has received, beside what was fanned out since it registered: an event whose
fan-out still waits for it is all that it lacks, and while it is connected it lacks nothing else. -/
def Serves (fanout : FanoutStage Message) (clients : List TrackedClient) (sender : Nat)
    (sent received : List Message) : Prop :=
  (∃ event, fanout.current = some event ∧ sent = received ++ [event] ∧
    ∃ client ∈ fanout.awaited, client.sender = sender) ∨
  ((∀ client ∈ fanout.awaited, client.sender ≠ sender) ∧ received <+: sent ∧
    ((∃ client ∈ clients, client.sender = sender) →
      (∀ client, fanout.leaving = some client → client.sender ≠ sender) → received = sent))

variable {clients left : List TrackedClient} {sender : Nat} {sent received : List Message}

/-- Nobody awaits the fanout task outside of its sends. -/
theorem Serves.settled {fanout : FanoutStage Message}
    (serves : fanout.Serves clients sender sent received)
    (idle : fanout.awaited = []) : received <+: sent ∧
      ((∃ client ∈ clients, client.sender = sender) →
        (∀ client, fanout.leaving = some client → client.sender ≠ sender) → received = sent) := by
  rcases serves with ⟨_, _, _, client, awaited, _⟩ | settled
  · rw [idle] at awaited
    cases awaited
  · exact settled.2

/-- A connection that is settled before and after is served if nothing is awaited. -/
theorem serves_of_settled {fanout : FanoutStage Message} (idle : fanout.awaited = [])
    (within : received <+: sent)
    (settled : (∃ client ∈ clients, client.sender = sender) → received = sent) :
    fanout.Serves clients sender sent received := by
  right
  refine ⟨fun client awaited => ?_, within, fun connected _ => settled connected⟩
  rw [idle] at awaited
  cases awaited

/-- Once a send has ended the others are still awaited, and the one that ended is not. -/
private theorem awaited_eraseIdx (sender : Nat) {waits : List TrackedClient} {position : Nat}
    {client : TrackedClient} (once : (waits.map TrackedClient.sender).Nodup)
    (found : waits[position]? = some client) :
    (client.sender ≠ sender → ((∃ other ∈ waits.eraseIdx position, other.sender = sender) ↔
      ∃ other ∈ waits, other.sender = sender)) ∧
    ∀ other ∈ waits.eraseIdx position, other.sender ≠ client.sender := by
  -- The list of waiting sends without one is that list up to order.
  obtain ⟨within, rfl⟩ := List.getElem?_eq_some_iff.mp found
  have same := List.getElem_cons_eraseIdx_perm within
  refine ⟨fun differs => ⟨fun left => ?_, fun left => ?_⟩, fun other waiting equal => ?_⟩
  · obtain ⟨other, member, mine⟩ := left
    exact ⟨other, List.eraseIdx_subset member, mine⟩
  · obtain ⟨other, member, mine⟩ := left
    rcases List.mem_cons.mp (same.symm.subset member) with rfl | further
    · exact absurd mine differs
    · exact ⟨other, further, mine⟩
  · have distinct := (same.map TrackedClient.sender).nodup_iff.mpr once
    exact (List.nodup_cons.mp distinct).1 (equal ▸ List.mem_map_of_mem waiting)

/-- A broadcast serves every connection that is registered. -/
theorem Serves.does {event : Message} {enc requested : Bool} {stage : BroadcastStage}
    {after : Option BroadcastStage} {action : BroadcastAction}
    (serves : (broadcasting event stage).Serves clients sender sent received)
    (does : stage.Does enc requested clients action after left)
    (alike : ∀ first ∈ clients ++ (broadcasting event stage).held,
      ∀ second ∈ clients ++ (broadcasting event stage).held,
        first.sender = second.sender → first = second)
    (once : ((broadcasting event stage).held.map TrackedClient.sender).Nodup) :
    FanoutStage.Serves (after.elim waiting (broadcasting event)) left sender
      (sent ++ (PipelineLabel.fanout event action).beginning.toList)
      (received ++ ((PipelineLabel.fanout event action).delivery sender).toList) := by
  cases does with
  | refuses | enters | skips =>
    obtain ⟨within, settled⟩ := serves.settled rfl
    simp only [PipelineLabel.beginning, PipelineLabel.delivery, Option.toList, List.append_nil]
    refine serves_of_settled rfl within fun connected => settled connected ?_
    rintro client ⟨⟩
  | ends =>
    obtain ⟨within, settled⟩ := serves.settled rfl
    simp only [PipelineLabel.beginning, PipelineLabel.delivery, Option.toList, List.append_nil]
    refine serves_of_settled rfl within fun connected => settled connected ?_
    rintro client ⟨⟩
  | begins =>
    -- Whoever is connected is owed just this event from here on.
    obtain ⟨within, settled⟩ := serves.settled rfl
    simp only [PipelineLabel.beginning, PipelineLabel.delivery, Option.toList, List.append_nil]
    by_cases connected : ∃ client ∈ clients, client.sender = sender
    · left
      have caught := settled connected (by rintro client ⟨⟩)
      exact ⟨event, rfl, by rw [caught], connected⟩
    · right
      refine ⟨fun client awaited same => connected ⟨client, awaited, same⟩, ?_,
        fun joined => absurd joined connected⟩
      exact within.trans (List.prefix_append _ _)
  | delivers waits position client found =>
    obtain ⟨others, absent⟩ := awaited_eraseIdx sender once found
    by_cases mine : client.sender = sender
    · -- The event it was owed is now received.
      rcases serves with ⟨owed, current, same, _⟩ | ⟨free, _⟩
      · cases current
        subst mine
        simp only [PipelineLabel.beginning, PipelineLabel.delivery, Option.toList, List.append_nil,
          if_true]
        rw [same]
        exact .inr ⟨absent, List.prefix_refl _, fun _ _ => rfl⟩
      · exact absurd mine (free client (List.mem_of_getElem? found))
    · simp only [PipelineLabel.beginning, PipelineLabel.delivery, Option.toList, List.append_nil,
        if_neg mine]
      exact serves.imp (Exists.imp fun _ => And.imp_right (And.imp_right (others mine).mpr))
        fun settled => ⟨fun other waiting => settled.1 other (List.eraseIdx_subset waiting),
          settled.2⟩
  | fails waits position client found =>
    obtain ⟨others, absent⟩ := awaited_eraseIdx sender once found
    simp only [PipelineLabel.beginning, PipelineLabel.delivery, Option.toList, List.append_nil]
    by_cases mine : client.sender = sender
    · -- It will be removed before anything else is fanned out.
      rcases serves with ⟨owed, current, same, _⟩ | ⟨free, _⟩
      · subst mine
        refine .inr ⟨absent, by rw [same]; exact List.prefix_append _ _, fun _ spared => ?_⟩
        exact absurd rfl (spared client rfl)
      · exact absurd mine (free client (List.mem_of_getElem? found))
    · refine serves.imp (Exists.imp fun _ => And.imp_right (And.imp_right (others mine).mpr))
        fun settled => ⟨fun other waiting => settled.1 other (List.eraseIdx_subset waiting),
          settled.2.1, fun connected _ => settled.2.2 connected ?_⟩
      rintro other ⟨⟩
  | removes client waits emptied =>
    simp only [PipelineLabel.beginning, PipelineLabel.delivery, Option.toList, List.append_nil]
    refine serves.imp_right fun settled => ⟨settled.1, settled.2.1, fun connected _ => ?_⟩
    obtain ⟨stays, member, same⟩ := connected
    obtain ⟨known, kept⟩ := List.mem_filter.mp member
    refine settled.2.2 ⟨stays, known, same⟩ fun gone leaves => ?_
    -- The client that was removed had another identifier, so it belongs to another connection.
    cases leaves
    intro mine
    have equal := alike stays (List.mem_append_left _ known) client
      (List.mem_append_right _ List.mem_cons_self) (same.trans mine.symm)
    rw [equal] at kept
    exact absurd rfl (bne_iff_ne.mp kept)

end FanoutStage

namespace EventPipeline

variable {pipeline next : EventPipeline Message} {label : PipelineLabel Message}

/-- Every step serves a connection that is registered. -/
theorem Valid.serves {sender id : Nat} {sent received : List Message} (valid : pipeline.Valid)
    (registered : pipeline.connections[sender]? = some (.registered id))
    (stepped : pipeline.Steps encodes label next)
    (serves : pipeline.fanout.Serves pipeline.clients sender sent received) :
    next.fanout.Serves next.clients sender (sent ++ label.beginning.toList)
      (received ++ (label.delivery sender).toList) := by
  -- What is sent to the connection is a prefix of what was fanned out, extended by one send at a
  -- time.
  cases stepped.moves valid.ready with
  | registers index other found =>
    simp only [PipelineLabel.beginning, PipelineLabel.delivery, Option.toList, List.append_nil]
    have differs : index ≠ sender := by
      rintro rfl
      cases registered.symm.trans found
    refine serves.imp_right fun settled => ⟨settled.1, settled.2.1, fun connected => ?_⟩
    apply settled.2.2
    obtain ⟨client, member, same⟩ := connected
    -- The list of clients grows by the new connection, which is another one.
    rcases List.mem_append.mp member with before | fresh
    · exact ⟨client, before, same⟩
    · cases List.mem_singleton.mp fresh
      exact absurd same differs
  | accepts event =>
    simp only [PipelineLabel.beginning, PipelineLabel.delivery, Option.toList, List.append_nil]
    exact serves
  | turns tasks fanout queue running turned =>
    simp only [PipelineLabel.beginning, PipelineLabel.delivery, Option.toList, List.append_nil]
    have stands : pipeline.fanout = tasks.fanout := by
      simp only [EventPipeline.fanout, running, Option.elim_some]
    rw [stands] at serves
    obtain ⟨idle, nobody, after⟩ := turned.idle
    obtain ⟨within, settled⟩ := serves.settled idle
    refine FanoutStage.serves_of_settled after within fun connected => settled connected ?_
    rw [nobody]
    rintro client ⟨⟩
  | fans tasks event stage action after clients running stands does =>
    have before : pipeline.fanout = .broadcasting event stage := by
      simp only [EventPipeline.fanout, running, Option.elim_some, stands]
    have once := valid.once
    have alike : ∀ first ∈ pipeline.clients ++ pipeline.fanout.held,
        ∀ second ∈ pipeline.clients ++ pipeline.fanout.held,
          first.sender = second.sender → first = second :=
      fun _ left _ right => valid.alike left right
    rw [before] at serves once alike
    exact serves.does does alike once
  | aside _ _ aside moved =>
    obtain ⟨_, begins, delivers⟩ := PipelineLabel.of_aside aside
    rw [begins, delivers sender, moved.fanout]
    simp only [Option.toList, List.append_nil]
    refine serves.imp_right fun settled => ⟨settled.1, settled.2.1, fun connected => ?_⟩
    obtain ⟨client, member, same⟩ := connected
    exact settled.2.2 ⟨client, moved.clients.subset member, same⟩

/-- A registered connection stays registered. -/
theorem Valid.registered_kept {sender id : Nat} (valid : pipeline.Valid)
    (registered : pipeline.connections[sender]? = some (.registered id))
    (stepped : pipeline.Steps encodes label next) :
    next.connections[sender]? = some (.registered id) := by
  -- No move takes a connection back to before its registration.
  cases stepped.moves valid.ready with
  | registers index other found =>
    have differs : index ≠ sender := by
      rintro rfl
      cases registered.symm.trans found
    exact (List.getElem?_set_ne differs).trans registered
  | aside _ _ aside moved => exact (moved.registered sender id).mpr registered
  | _ => exact registered

/-- Nothing is delivered to a connection that is not registered. -/
theorem Valid.delivery_registered {sender : Nat} {event : Message} (valid : pipeline.Valid)
    (stepped : pipeline.Steps encodes label next) (delivered : label.delivery sender = some event) :
    ∃ id, pipeline.connections[sender]? = some (.registered id) := by
  -- A broadcast sends to the clients that it took from the list of the registered.
  cases stepped.moves valid.ready with
  | registers | accepts | turns => cases delivered
  | aside _ _ aside moved =>
    rw [(PipelineLabel.of_aside aside).2.2 sender] at delivered
    cases delivered
  | fans tasks current stage action after clients running stands does =>
    have before : pipeline.fanout = .broadcasting current stage := by
      simp only [EventPipeline.fanout, running, Option.elim_some, stands]
    cases does with
    | delivers waits position client found =>
      obtain ⟨rfl, _⟩ := Option.ite_none_right_eq_some.mp delivered
      refine ⟨client.id, valid.named client (List.mem_append_right _ ?_)⟩
      rw [before]
      exact List.mem_of_getElem? found
    | _ => cases delivered

/-- Where the accepted events are: fanned out, lost to shutdown, in hand or queued. -/
def Accounts (encodes : Message → Bool) (accepted begun : List Message)
    (pipeline : EventPipeline Message) : Prop :=
  ∃ lost, accepted.filter encodes =
      begun ++ lost ++ (pipeline.fanout.inHand ++ pipeline.queue).filter encodes ∧
    (lost = [] ∨ (pipeline.requested = true ∧ pipeline.fanout.current = none) ∨
      pipeline.Unstarted)

/-- Every step accounts for the events. -/
theorem Valid.accounts {accepted begun : List Message} (valid : pipeline.Valid)
    (stepped : pipeline.Steps encodes label next)
    (accounts : pipeline.Accounts encodes accepted begun) :
    next.Accounts encodes (accepted ++ label.acceptance.toList)
      (begun ++ label.beginning.toList) := by
  obtain ⟨lost, same, cause⟩ := accounts
  -- Nothing was lost before while the task broadcasts.
  have lossless : ∀ tasks event, pipeline.tasks = some tasks →
      pipeline.fanout.current = some event → lost = [] := by
    intro tasks event running current
    rcases cause with none | stops | unstarted
    · exact none
    · cases current.symm.trans stops.2
    · cases running.symm.trans unstarted.2
  cases stepped.moves valid.ready with
  | registers index id found =>
    simp only [PipelineLabel.acceptance, PipelineLabel.beginning, Option.toList, List.append_nil]
    exact ⟨lost, same, cause⟩
  | accepts event =>
    simp only [PipelineLabel.acceptance, PipelineLabel.beginning, Option.toList, List.append_nil]
    refine ⟨lost, ?_, cause⟩
    show (accepted ++ [event]).filter encodes =
      begun ++ lost ++ (pipeline.fanout.inHand ++ (pipeline.queue ++ [event])).filter encodes
    rw [List.filter_append, same]
    simp only [List.filter_append, List.append_assoc]
  -- A turn takes the next message in hand, or loses what is queued when it ends.
  | turns tasks fanout queue running turned =>
    simp only [PipelineLabel.acceptance, PipelineLabel.beginning, Option.toList, List.append_nil]
    have stands : pipeline.fanout = tasks.fanout := by
      simp only [EventPipeline.fanout, running, Option.elim_some]
    have started : ¬ pipeline.Unstarted := by
      intro unstarted
      cases running.symm.trans unstarted.2
    rw [stands] at same cause
    obtain ⟨more, moved, ends⟩ := turned.accounts encodes
    refine ⟨lost ++ more, ?_, ?_⟩
    · show accepted.filter encodes =
        begun ++ (lost ++ more) ++ (fanout.inHand ++ queue).filter encodes
      rw [same, moved]
      simp only [List.append_assoc]
    · show lost ++ more = [] ∨ (pipeline.requested = true ∧ fanout.current = none) ∨ _
      rcases cause with rfl | ⟨stops, _⟩ | unstarted
      · rcases ends with ⟨rfl, _⟩ | stops
        · exact .inl rfl
        · exact .inr (.inl stops)
      · rcases ends with ⟨_, settles⟩ | stops
        · exact .inr (.inl ⟨stops, settles stops⟩)
        · exact .inr (.inl stops)
      · exact absurd unstarted started
  -- A broadcast begins its message, or a requested stop loses it.
  | fans tasks event stage action after clients running stands does =>
    have before : pipeline.fanout = .broadcasting event stage := by
      simp only [EventPipeline.fanout, running, Option.elim_some, stands]
    obtain rfl := lossless tasks event running (by rw [before]; rfl)
    rw [before, List.append_nil, List.filter_append] at same
    obtain ⟨more, moved, ends⟩ := does.accounts
    refine ⟨more, ?_, ends.imp_right .inl⟩
    show (accepted ++ []).filter encodes = _ ++ more ++
      (FanoutStage.inHand (after.elim .waiting (.broadcasting event)) ++
        pipeline.queue).filter encodes
    rw [List.append_nil, same, moved, List.filter_append]
    simp only [List.append_assoc]
  | aside _ _ aside moved =>
    obtain ⟨accepts, begins, _⟩ := PipelineLabel.of_aside aside
    rw [accepts, begins]
    simp only [Option.toList, List.append_nil]
    rcases moved.queue with kept | ⟨emptied, unstarted⟩
    · refine ⟨lost, by rw [same, moved.fanout, kept], ?_⟩
      rw [moved.fanout]
      exact cause.imp_right (Or.imp (And.imp_left moved.requested) moved.unstarted)
    · -- Whatever was queued is lost with the receiver.
      refine ⟨lost ++ (pipeline.fanout.inHand ++ pipeline.queue).filter encodes, ?_,
        .inr (.inr unstarted)⟩
      have idle : next.fanout = .waiting := by
        simp only [EventPipeline.fanout, unstarted.2, Option.elim_none]
      rw [same, idle, emptied]
      simp [FanoutStage.inHand]

/-- Before its first step a pipeline is valid. -/
theorem Valid.initial : ({} : EventPipeline Message).Valid :=
  { named := fun _ member => absurd member List.not_mem_nil
    distinct := List.nodup_nil
    once := List.nodup_nil
    ready := fun _ => rfl }

/-- What one more label adds to what is read off the labels. -/
private theorem filterMap_snoc {Read : Type} (read : PipelineLabel Message → Option Read)
    (past : List (PipelineLabel Message)) (label : PipelineLabel Message) :
    (past ++ [label]).filterMap read = past.filterMap read ++ (read label).toList := by
  rw [List.filterMap_append]
  cases shown : read label with
  | none => simp [shown]
  | some value => simp [shown]

/-- Every state of a run is valid and accounts for the events. -/
theorem accounted {labels : List (PipelineLabel Message)} {last : EventPipeline Message}
    (run : Run (Steps encodes) {} labels last) :
    last.Valid ∧ last.Accounts encodes (labels.filterMap PipelineLabel.acceptance)
      (labels.filterMap PipelineLabel.beginning) := by
  -- Validity and the account are kept together, as each needs the other.
  refine run.trace_invariant (fun past state => state.Valid ∧
    state.Accounts encodes (past.filterMap PipelineLabel.acceptance)
      (past.filterMap PipelineLabel.beginning)) ?_ [] ?_
  · rintro past state label next stepped ⟨valid, accounts⟩
    refine ⟨valid.step stepped, ?_⟩
    rw [filterMap_snoc, filterMap_snoc]
    exact valid.accounts stepped accounts
  · exact ⟨.initial, [], rfl, .inl rfl⟩

/-- A connection that has not registered was sent nothing. -/
theorem unregistered_received {labels : List (PipelineLabel Message)}
    {last : EventPipeline Message} (run : Run (Steps encodes) {} labels last) (sender : Nat) :
    last.Valid ∧ ((∀ id, last.connections[sender]? ≠ some (.registered id)) →
      labels.filterMap (PipelineLabel.delivery sender) = []) := by
  -- A delivery would show that the connection was registered before.
  refine run.trace_invariant (fun past state => state.Valid ∧
    ((∀ id, state.connections[sender]? ≠ some (.registered id)) →
      past.filterMap (PipelineLabel.delivery sender) = [])) ?_ [] ?_
  · rintro past state label next stepped ⟨valid, nothing⟩
    refine ⟨valid.step stepped, fun unregistered => ?_⟩
    have before : ∀ id, state.connections[sender]? ≠ some (.registered id) :=
      fun id same => unregistered id (valid.registered_kept same stepped)
    rw [filterMap_snoc, nothing before]
    cases delivered : label.delivery sender with
    | none => rfl
    | some event =>
      obtain ⟨id, same⟩ := valid.delivery_registered stepped delivered
      exact absurd same (before id)
  · exact ⟨.initial, fun _ => rfl⟩

/-- A connection that is registered is served from then on. -/
theorem registered_served {sender id : Nat} {labels : List (PipelineLabel Message)}
    {first last : EventPipeline Message} (run : Run (Steps encodes) first labels last)
    (valid : first.Valid) (registered : first.connections[sender]? = some (.registered id))
    (serves : first.fanout.Serves first.clients sender [] []) :
    last.fanout.Serves last.clients sender (labels.filterMap PipelineLabel.beginning)
      (labels.filterMap (PipelineLabel.delivery sender)) := by
  -- From the registration on every step serves it.
  refine (run.trace_invariant (fun past state => state.Valid ∧
    state.connections[sender]? = some (.registered id) ∧
    state.fanout.Serves state.clients sender (past.filterMap PipelineLabel.beginning)
      (past.filterMap (PipelineLabel.delivery sender))) ?_ [] ⟨valid, registered, serves⟩).2.2
  rintro past state label next stepped ⟨valid, registered, serves⟩
  refine ⟨valid.step stepped, valid.registered_kept registered stepped, ?_⟩
  rw [filterMap_snoc, filterMap_snoc]
  exact valid.serves registered stepped serves

/-- A connection that registers was sent nothing of what is fanned out since. -/
theorem Valid.serves_registering {sender : Nat} (valid : pipeline.Valid)
    (stepped : pipeline.Steps encodes (.registered sender) next) :
    (∀ id, pipeline.connections[sender]? ≠ some (.registered id)) ∧
    (∃ id, next.connections[sender]? = some (.registered id)) ∧
    next.fanout.Serves next.clients sender [] [] := by
  -- The broadcast in progress has taken its clients before, so the new one is not among them.
  generalize same : PipelineLabel.registered sender = label at stepped
  cases stepped.moves valid.ready with
  | registers index id found =>
    cases same
    have unregistered : ∀ other, pipeline.connections[sender]? ≠ some (.registered other) := by
      intro other equal
      cases found.symm.trans equal
    refine ⟨unregistered, ⟨id, ?_⟩, .inr ⟨?_, List.prefix_refl _, fun _ _ => rfl⟩⟩
    · exact List.getElem?_set_self (List.getElem?_eq_some_iff.mp found).1
    · rintro client awaited rfl
      apply unregistered client.id
      apply valid.named client
      exact List.mem_append_right _ (List.mem_append_right _ awaited)
  | aside _ _ aside moved =>
    subst same
    cases aside
  | accepts | turns | fans => cases same

end EventPipeline

/--
Every client receives the queued events in order, without gaps and without repetition.

In every run of the pipeline, whoever connects, fails and moves when, the events are fanned out in
the order in which the queue accepted them, and none is lost before shutdown but those that cannot
be encoded. What is delivered to a connection is nothing before it registers, and from then on an
initial part of what is fanned out; as long as it is among the clients it is all of it, but for a
broadcast that is still under way.
-/
theorem events_delivered_in_order {labels : List (PipelineLabel Message)}
    {last : EventPipeline Message} (run : Run (EventPipeline.Steps encodes) {} labels last) :
    labels.filterMap PipelineLabel.beginning <+:
      (labels.filterMap PipelineLabel.acceptance).filter encodes ∧
    (last.requested = false → last.tasks ≠ none →
      (labels.filterMap PipelineLabel.acceptance).filter encodes =
        labels.filterMap PipelineLabel.beginning ++
          (last.fanout.inHand ++ last.queue).filter encodes) ∧
    ∀ before sender after, labels = before ++ .registered sender :: after →
      before.filterMap (PipelineLabel.delivery sender) = [] ∧
      after.filterMap (PipelineLabel.delivery sender) <+: after.filterMap PipelineLabel.beginning ∧
      (last.Connected sender → last.fanout.held = [] →
        after.filterMap (PipelineLabel.delivery sender) =
          after.filterMap PipelineLabel.beginning) := by
  obtain ⟨valid, lost, accounts, cause⟩ := EventPipeline.accounted run
  refine ⟨?_, fun open' started => ?_, ?_⟩
  -- What was accepted is what was fanned out, then what is in hand or queued.
  · rw [accounts, List.append_assoc]
    exact List.prefix_append _ _
  · rcases cause with rfl | ⟨requested, _⟩ | unstarted
    · rw [accounts, List.append_nil]
    · cases open'.symm.trans requested
    · exact absurd unstarted.2 started
  · rintro before sender after rfl
    obtain ⟨middle, earlier, later⟩ := run.split
    cases later with
    | cons stepped later =>
      obtain ⟨sound, nothing⟩ := EventPipeline.unregistered_received earlier sender
      obtain ⟨unregistered, ⟨id, registered⟩, serves⟩ := sound.serves_registering stepped
      have served := EventPipeline.registered_served later (sound.step stepped) registered serves
      refine ⟨nothing unregistered, ?_, fun connected idle => ?_⟩
      · rcases served with ⟨event, _, same, _⟩ | settled
        · rw [same]
          exact List.prefix_append _ _
        · exact settled.2.1
      · obtain ⟨leaving, awaited⟩ := List.append_eq_nil_iff.mp idle
        apply (served.settled awaited).2 connected
        intro client leaves
        rw [leaves] at leaving
        cases leaving

/-- A computed evaluation is a run that shows its outputs. -/
theorem EventPipeline.run_of_choices (choices : List (PipelineChoice Nat))
    (labels : List (PipelineLabel Nat))
    (computed : (evaluate (EventPipeline.step fun _ => true) {} choices).map Prod.snd =
      some labels) :
    ∃ last, Run (EventPipeline.Steps fun _ => true) {} labels last := by
  obtain ⟨last, outputs, same, run, lengths⟩ := Run.of_evaluate
    (EventPipeline.step fun _ => true) {} choices Prod.snd labels computed
  cases same
  have shown := @Run.map_labels _ _ _ _ _ _ (EventPipeline.Steps fun _ => true) Prod.snd
    (fun {state label next} stepped => ⟨label.1, stepped⟩) _ run
  rw [List.map_snd_zip (Nat.le_of_eq lengths)] at shown
  exact ⟨last, shown⟩

/-- The conclusion at a run that fans out two events, between which a second client registers. -/
theorem events_delivered_in_order_once :
    ∃ before between after last, Run (EventPipeline.Steps fun _ => true) {}
        (before ++ .registered 0 :: (between ++ .registered 1 :: after)) last ∧
      (between ++ .registered 1 :: after).filterMap (PipelineLabel.delivery 0) = [5, 6] ∧
      ((between ++ .registered 1 :: after).filterMap (PipelineLabel.delivery 0) <+:
        (between ++ .registered 1 :: after).filterMap (@PipelineLabel.beginning Nat)) ∧
      after.filterMap (PipelineLabel.delivery 1) = [6] ∧
      (after.filterMap (PipelineLabel.delivery 1) <+:
        after.filterMap (@PipelineLabel.beginning Nat)) := by
  -- The second client receives only the event that is fanned out after it has registered.
  obtain ⟨last, run⟩ := EventPipeline.run_of_choices
    [.connect, .connection 0, .connection 0, .start, .offer 5, .offer 6, .fanout .proceed,
      .fanout .proceed, .fanout .proceed, .fanout .proceed, .fanout (.sent 0 true),
      .fanout .proceed, .connect, .connection 1, .connection 1, .fanout .proceed, .fanout .proceed,
      .fanout .proceed, .fanout .proceed, .fanout (.sent 1 true), .fanout (.sent 0 true)]
    ([.quiet, .quiet] ++ .registered 0 :: ([.started, .accepted 5, .accepted 6, .quiet, .quiet,
      .fanout 5 .quiet, .fanout 5 .began, .fanout 5 (.delivered 0), .fanout 5 .quiet, .quiet,
      .quiet] ++ .registered 1 :: [.quiet, .quiet, .fanout 6 .quiet, .fanout 6 .began,
      .fanout 6 (.delivered 1), .fanout 6 (.delivered 0)])) (by decide +kernel)
  have delivered := (events_delivered_in_order run).2.2
  exact ⟨_, _, _, last, run, rfl, (delivered _ 0 _ rfl).2.1, rfl,
    (delivered _ 1 _ (List.append_assoc _ (_ :: _) _).symm).2.1⟩

end Hotki

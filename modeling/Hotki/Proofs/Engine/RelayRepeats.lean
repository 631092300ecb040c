import Hotki.Proofs.Engine.RelayTarget

/-! What a held action's relays post: in its first run, in the ticks of its loop, and at key-up. -/

namespace Hotki

open Base

/-- The gesture whose key a post presses. -/
def RelayPost.keyDown : RelayPost → Option ActiveGesture
  | .down chord _ destination => some ⟨chord, destination⟩
  | _ => none

/-- The gesture whose key a post lifts. -/
def RelayPost.keyUp : RelayPost → Option ActiveGesture
  | .up chord destination => some ⟨chord, destination⟩
  | _ => none

/-- The gestures whose keys are pressed by posts, in order. -/
def keyDowns (posts : List RelayPost) : List ActiveGesture := posts.filterMap RelayPost.keyDown

/-- The gestures whose keys are lifted by posts, in order. -/
def keyUps (posts : List RelayPost) : List ActiveGesture := posts.filterMap RelayPost.keyUp

/-- Posts one after the other press the keys of both. -/
theorem keyDowns_append (first second : List RelayPost) :
    keyDowns (first ++ second) = keyDowns first ++ keyDowns second := List.filterMap_append

/-- Posts one after the other lift the keys of both. -/
theorem keyUps_append (first second : List RelayPost) :
    keyUps (first ++ second) = keyUps first ++ keyUps second := List.filterMap_append

/-- A key-down presses the key of its gesture, repeated or not. -/
theorem keyDowns_postDown (chord : Chord) (isRepeat : Bool) (destination : RelayDestination) :
    keyDowns (postDown chord isRepeat destination) = [⟨chord, destination⟩] ∧
      keyUps (postDown chord isRepeat destination) = [] := by
  unfold postDown
  split <;> exact ⟨rfl, rfl⟩

/-- A key-up lifts the key of its gesture. -/
theorem keyUps_postUp (chord : Chord) (destination : RelayDestination) :
    keyUps (postUp chord destination) = [⟨chord, destination⟩] ∧
      keyDowns (postUp chord destination) = [] := by
  unfold postUp
  split <;> exact ⟨rfl, rfl⟩

namespace RelayKey

/-- A relayer that has posted something more. -/
structure Posts (relay : RelayKey) (posts : List RelayPost) (next : RelayKey) : Prop where
  posted : next.posted = relay.posted ++ posts
  poster : next.poster = relay.poster

variable (relay : RelayKey) (id : String)

/-- What a relayer delivers of some gestures: nothing without an event backend. -/
def delivers (gestures : List ActiveGesture) : List ActiveGesture :=
  if relay.poster then gestures else []

/-- What is posted of some posts: nothing by a disabled relayer. -/
def sends (posts : List RelayPost) : List RelayPost := if relay.poster then posts else []

/-- Nothing is posted of no posts. -/
theorem sends_nil : relay.sends [] = [] := by
  unfold sends
  split <;> rfl

/-- Gestures one after the other are delivered one after the other. -/
theorem delivers_append (first second : List ActiveGesture) :
    relay.delivers (first ++ second) = relay.delivers first ++ relay.delivers second := by
  unfold delivers
  split <;> rfl

/-- Of no gestures nothing is delivered. -/
theorem delivers_nil : relay.delivers [] = [] := by
  unfold delivers
  split <;> rfl

/-- Relayers that both have a backend, or both have none, deliver the same. -/
theorem delivers_congr {relay other : RelayKey} (same : other.poster = relay.poster)
    (gestures : List ActiveGesture) : other.delivers gestures = relay.delivers gestures := by
  unfold delivers
  rw [same]

/-- The keys that are pressed and lifted by what is posted are those of what is delivered. -/
theorem keys_sends (posts : List RelayPost) :
    keyDowns (relay.sends posts) = relay.delivers (keyDowns posts) ∧
      keyUps (relay.sends posts) = relay.delivers (keyUps posts) := by
  unfold sends delivers
  split <;> exact ⟨rfl, rfl⟩

/-- What was posted is determined by what there was before and after. -/
theorem Posts.unique {relay next : RelayKey} {posts others : List RelayPost}
    (posted : relay.Posts posts next) (also : relay.Posts others next) : posts = others :=
  List.append_cancel_left (posted.posted.symm.trans also.posted)

/-- The posts that release the gesture of an identifier. -/
def releases : List RelayPost :=
  (relay.active.lookup id).toList.flatMap fun gesture => postUp gesture.chord gesture.destination

/-- The posts that repeat the gesture of an identifier. -/
def repeats : List RelayPost :=
  (relay.active.lookup id).toList.flatMap fun gesture =>
    postDown gesture.chord true gesture.destination

/-- Handing posts to the backend posts them if there is one. -/
theorem post_posts (posts : List RelayPost) :
    relay.Posts (relay.sends posts) (relay.post posts) := by
  unfold post sends
  split
  · exact ⟨rfl, rfl⟩
  · exact ⟨(List.append_nil _).symm, rfl⟩

/-- Ending a gesture releases it. -/
theorem endGesture_posts :
    relay.Posts (relay.sends (relay.releases id)) (relay.endGesture id).2 := by
  -- Without a gesture under the id nothing is posted.
  unfold endGesture releases
  cases found : relay.active.lookup id with
  | none =>
    rw [Option.toList_none, List.flatMap_nil, sends_nil]
    exact ⟨(List.append_nil _).symm, rfl⟩
  | some gesture =>
    have posted := ({ relay with active := relay.active.erase id } : RelayKey).post_posts
      (postUp gesture.chord gesture.destination)
    rw [Option.toList_some, List.flatMap_singleton]
    exact ⟨posted.posted, posted.poster⟩

/-- Beginning a gesture releases the one it replaces and presses its own key. -/
theorem begin_posts (chord : Chord) (destination : RelayDestination) :
    relay.Posts (relay.sends (relay.releases id ++ postDown chord false destination))
      (relay.begin id chord destination) := by
  -- What is there is ended first, so its release comes before the press.
  have ended := relay.endGesture_posts id
  have pressed := (relay.endGesture id).2.post_posts (postDown chord false destination)
  unfold begin
  refine ⟨?_, pressed.poster.trans ended.poster⟩
  show ((relay.endGesture id).2.post (postDown chord false destination)).posted = _
  rw [pressed.posted, ended.posted]
  unfold sends
  rw [ended.poster, List.append_assoc]
  split <;> rfl

/-- Repeating a gesture presses its key again. -/
theorem repeatGesture_posts :
    relay.Posts (relay.sends (relay.repeats id)) (relay.repeatGesture id).2 := by
  -- Only a gesture that is there is repeated.
  unfold repeatGesture repeats
  cases found : relay.active.lookup id with
  | none =>
    rw [Option.toList_none, List.flatMap_nil, sends_nil]
    exact ⟨(List.append_nil _).symm, rfl⟩
  | some gesture =>
    rw [Option.toList_some, List.flatMap_singleton]
    exact relay.post_posts _

/-- Releasing keys presses none, and lifts those of the gesture. -/
theorem keys_releases :
    keyDowns (relay.releases id) = [] ∧
      keyUps (relay.releases id) = (relay.active.lookup id).toList := by
  unfold releases
  cases relay.active.lookup id with
  | none => exact ⟨rfl, rfl⟩
  | some gesture =>
    rw [Option.toList_some, List.flatMap_singleton]
    exact (keyUps_postUp gesture.chord gesture.destination).symm

/-- Repeating presses the key of the gesture and lifts none. -/
theorem keys_repeats :
    keyDowns (relay.repeats id) = (relay.active.lookup id).toList ∧
      keyUps (relay.repeats id) = [] := by
  unfold repeats
  cases relay.active.lookup id with
  | none => exact ⟨rfl, rfl⟩
  | some gesture =>
    rw [Option.toList_some, List.flatMap_singleton]
    exact keyDowns_postDown gesture.chord true gesture.destination

end RelayKey

/-- The gesture a relay effect begins, given what its task finds for its target. -/
def RelaySpec.gesture (spec : RelaySpec) (answer : TaskAnswer) : Option ActiveGesture :=
  match Chord.parse spec.chord, spec.target, answer with
  | some chord, .focused, _ => some ⟨chord, .hid⟩
  | some chord, .applicationName _, .destination (some found) => some ⟨chord, found⟩
  | _, _, _ => none

/-- What applying a relay effect can come to. -/
theorem applyRelay_outcomes {spec : RelaySpec} {run : EffectRun} {answer : TaskAnswer}
    {outcome : EffectOutcome} (applied : applyRelay spec run answer = some outcome) :
    (run ≠ .repeatedTick ∧ ∃ gesture, spec.gesture answer = some gesture ∧
      outcome = .applied [.applyRelay run gesture.chord gesture.destination]) ∨
    (run = .repeatedTick ∧ outcome = .applied [.repeatRelay]) ∨
    outcome = .terminal [] ∨ outcome = .failed [] := by
  unfold applyRelay at applied
  unfold RelaySpec.gesture
  dsimp only at applied
  split at applied
  all_goals cases applied
  all_goals simp_all

/-- The effects that relay some specs. -/
def relayEffects (specs : List RelaySpec) : List Effect :=
  specs.map fun spec => .exec (.relay spec)

namespace Engine

/-- Whether a task of a role stands in a stage, under an identifier. -/
def TaskAt (engine : Engine) (task : Nat) (role : TaskRole) (ident : String) (stage : TaskStage) :
    Prop :=
  ∃ entry, engine.tasks[task]? = some entry ∧ entry.role = role ∧ entry.identifier = some ident ∧
    entry.stage = stage

/-- Whether a task has no effects left. -/
def TaskPast (engine : Engine) (task : Nat) : Prop :=
  ∃ entry, engine.tasks[task]? = some entry ∧ entry.stage.isPast

/-- A task that has effects left is not past them. -/
theorem TaskAt.not_past {engine : Engine} {task : Nat} {role : TaskRole} {ident : String}
    {stage : TaskStage} (stands : engine.TaskAt task role ident stage)
    (applying : stage.isPast = false) : ¬ engine.TaskPast task := by
  rintro ⟨other, foundOther, past⟩
  obtain ⟨entry, found, _, _, rfl⟩ := stands
  cases found.symm.trans foundOther
  rw [applying] at past
  cases past

section Steps

variable {host : ProcessHost} {engine next : Engine} {task : Nat} {ident : String}
  {spec : RelaySpec} {queue : List Effect} {answer : TaskAnswer}

/-- A resolved task that goes on is in its next stage, and its operations acted on the relayer. -/
theorem step_resolved {role : TaskRole} {stage : TaskStage} {resumed : Resumption}
    (stands : engine.TaskAt task role ident stage)
    (stepped : engine.Steps host (.resume task answer) next)
    (goes : ∀ number, engine.resumeTask host ⟨role, stage, some ident, number⟩ answer =
      some resumed) (unreached : resumed.reached = none) :
    next.TaskAt task role ident resumed.stage ∧
      next.relay = resumed.operations.foldl (Operation.onRelay ident) engine.relay := by
  -- The task's own entry decides the step, and the new entry takes its place.
  obtain ⟨entry, went, found, resumes, rfl⟩ := step_resume stepped
  obtain ⟨own, foundOwn, rfl, known, rfl⟩ := stands
  cases found.symm.trans foundOwn
  obtain ⟨role, stage, identifier, number⟩ := entry
  cases known
  rw [goes] at resumes
  cases resumes
  have within := (List.getElem?_eq_some_iff.mp found).1
  refine ⟨⟨(EngineTask.mk role stage (some ident) number).moveTo engine.entries resumed, ?_, rfl,
    ?_, rfl⟩, ?_⟩
  · simp only [advance, carryOut_tasks]
    exact List.getElem?_set_self within
  · simp [EngineTask.moveTo, unreached]
  · simp [advance, EngineTask.moveTo, unreached]

/-- A resolved task that gives up its queue has no effects left. -/
theorem step_past {role : TaskRole} {stage : TaskStage} {resumed : Resumption}
    (stands : engine.TaskAt task role ident stage)
    (stepped : engine.Steps host (.resume task answer) next)
    (goes : ∀ number, engine.resumeTask host ⟨role, stage, some ident, number⟩ answer =
      some resumed) (unreached : resumed.reached = none) (past : resumed.Past) :
    next.TaskPast task := by
  obtain ⟨entry, found, _, _, stands⟩ := (step_resolved stands stepped goes unreached).1
  exact ⟨entry, found, stands ▸ past.stage⟩

/-- A task that takes a step goes on somehow. -/
theorem step_goes {role : TaskRole} {stage : TaskStage}
    (stands : engine.TaskAt task role ident stage)
    (stepped : engine.Steps host (.resume task answer) next) :
    ∃ number resumed, engine.resumeTask host ⟨role, stage, some ident, number⟩ answer =
      some resumed := by
  -- A stage that is resolved is continued by the task's own resumption.
  obtain ⟨entry, resumed, found, went, _⟩ := step_resume stepped
  obtain ⟨own, foundOwn, rfl, known, rfl⟩ := stands
  cases found.symm.trans foundOwn
  refine ⟨entry.entry, resumed, ?_⟩
  rw [← known]
  exact went

/-- A step of a held action's first run begins the gesture of its relay, or gives up the queue. -/
theorem step_first {request : DispatchRequest} {held : HeldAction} {rest : List Effect}
    (stands : engine.TaskAt task (.dispatch request) ident
      (.applyingFirst (.exec (.relay spec) :: queue) held rest))
    (stepped : engine.Steps host (.resume task answer) next) :
    next.TaskPast task ∨ ∃ gesture, spec.gesture answer = some gesture ∧
      next.TaskAt task (.dispatch request) ident (.applyingFirst queue held rest) ∧
      next.relay = engine.relay.begin ident gesture.chord gesture.destination := by
  -- Whatever the number, the first run applies the first effect of its queue.
  have effect : ∀ number, engine.resumeTask host ⟨.dispatch request,
      .applyingFirst (.exec (.relay spec) :: queue) held rest, some ident, number⟩ answer =
      (applyRelay spec .repeatedFirst answer).bind (engine.afterEffect (.dispatch request) ident
        (.applyingFirst queue held rest) fun _ => none) := fun _ => rfl
  obtain ⟨_, resumed, went⟩ := step_goes stands stepped
  rw [effect] at went
  obtain ⟨outcome, applied, after⟩ := Option.bind_eq_some_iff.mp went
  have goes := fun number => (effect number).trans went
  rcases applyRelay_outcomes applied with ⟨_, gesture, begun, rfl⟩ | ⟨tick, _⟩ | rfl | rfl
  · cases after
    obtain ⟨stands, relay⟩ := step_resolved stands stepped goes rfl
    exact .inr ⟨gesture, begun, stands, relay⟩
  -- A repetition belongs to a tick, which this task is not.
  · cases tick
  · cases after
    exact .inl (step_past stands stepped goes rfl ⟨rfl, List.forall_mem_nil _⟩)
  · cases after
    exact .inl (step_past stands stepped goes rfl ⟨rfl, List.forall_mem_nil _⟩)

/-- A step of a tick repeats the gesture there is, or gives up the queue. -/
theorem step_tick {loop : Nat}
    (stands : engine.TaskAt task (.tick loop) ident (.applying (.exec (.relay spec) :: queue)))
    (stepped : engine.Steps host (.resume task answer) next) :
    next.TaskPast task ∨ next.TaskAt task (.tick loop) ident (.applying queue) ∧
      next.relay = (engine.relay.repeatGesture ident).2 := by
  -- A tick applies the first effect that is left, to the gesture of its identifier.
  have effect : ∀ number, engine.resumeTask host ⟨.tick loop,
      .applying (.exec (.relay spec) :: queue), some ident, number⟩ answer =
      (applyRelay spec .repeatedTick answer).bind (engine.afterEffect (.tick loop) ident
        (.applying queue) fun held => some (.calling held queue)) := fun _ => rfl
  obtain ⟨_, resumed, went⟩ := step_goes stands stepped
  rw [effect] at went
  obtain ⟨outcome, applied, after⟩ := Option.bind_eq_some_iff.mp went
  have goes := fun number => (effect number).trans went
  have past := engine.queueOver_past (.tick loop) ident true
  have unreached : (engine.queueOver (.tick loop) ident true).reached = none :=
    (@queueOver_follows engine (.tick loop) ident (by simp [TaskRole.kind]) true).reached
  rcases applyRelay_outcomes applied with ⟨first, _⟩ | ⟨_, rfl⟩ | rfl | rfl
  -- A gesture is begun by the first run only.
  · exact absurd rfl first
  · cases after
    obtain ⟨stands, relay⟩ := step_resolved stands stepped goes rfl
    exact .inr ⟨stands, relay⟩
  · cases after
    exact .inl (step_past stands stepped goes unreached (past.after rfl))
  · cases after
    exact .inl (step_past stands stepped goes unreached (past.after rfl))

/-- The end of a loop that a key-up waited for ends the gesture. -/
theorem step_release {origin : DispatchOrigin} {repeated : Bool} {loop : Nat}
    {notified : Option Chord}
    (stands : engine.TaskAt task (.dispatch ⟨origin, .keyUp, repeated⟩) ident
      (.releasing loop notified))
    (stepped : engine.Steps host (.resume task answer) next) :
    next.relay = (engine.relay.endGesture ident).2 := by
  -- The key-up goes on with its release once the loop has ended.
  obtain ⟨number, resumed, went⟩ := step_goes stands stepped
  have same : resumed = releaseRest notified := by
    unfold resumeTask at went
    cases answer <;> simp at went
    exact went.2.symm
  subst same
  exact (step_resolved stands stepped (fun _ => went) rfl).2

end Steps

/-- Everything that happens to the relayer only posts more. -/
theorem performed_posts (ident : String) (operations : List Operation) (relay : RelayKey) :
    ∃ posts, relay.Posts posts (operations.foldl (Operation.onRelay ident) relay) := by
  -- The induction is on the operations; each posts something, or nothing.
  induction operations generalizing relay with
  | nil => exact ⟨[], (List.append_nil _).symm, rfl⟩
  | cons operation rest ih =>
    have first : ∃ posts, relay.Posts posts (operation.onRelay ident relay) := by
      cases operation with
      | applyRelay run chord destination =>
        have begun := relay.begin_posts ident chord destination
        have ended := (relay.begin ident chord destination).endGesture_posts ident
        unfold Operation.onRelay
        dsimp only
        split
        · refine ⟨relay.sends (relay.releases ident ++ postDown chord false destination) ++
            (relay.begin ident chord destination).sends
              ((relay.begin ident chord destination).releases ident), ?_,
            ended.poster.trans begun.poster⟩
          rw [ended.posted, begun.posted, List.append_assoc]
        · exact ⟨_, begun⟩
      | repeatRelay => exact ⟨_, relay.repeatGesture_posts ident⟩
      | endRelay => exact ⟨_, relay.endGesture_posts ident⟩
      | releaseRelays =>
        have posted := relay.post_posts ((relay.active.entries.map Sigma.snd).flatMap
          fun gesture : ActiveGesture => postUp gesture.chord gesture.destination)
        exact ⟨_, posted.posted, posted.poster⟩
      | _ => exact ⟨[], (List.append_nil _).symm, rfl⟩
    obtain ⟨posts, posted⟩ := first
    obtain ⟨more, further⟩ := ih (operation.onRelay ident relay)
    refine ⟨posts ++ more, ?_, further.poster.trans posted.poster⟩
    rw [List.foldl_cons, further.posted, posted.posted, List.append_assoc]

/-- Every step only posts more. -/
theorem Steps.posts {host : ProcessHost} {engine next : Engine} {choice : EngineChoice}
    (stepped : engine.Steps host choice next) : ∃ posts, engine.relay.Posts posts next.relay := by
  -- Each choice is carried out by operations, and operations only ever add to what is posted.
  have nothing : ∃ posts, engine.relay.Posts posts engine.relay :=
    ⟨[], (List.append_nil _).symm, rfl⟩
  cases choice with
  | call request =>
    cases stepped
    simp only [spawn, carryOut_relay]
    exact performed_posts ..
  | resume task answer =>
    obtain ⟨entry, resumed, _, _, rfl⟩ := step_resume stepped
    simp only [advance, carryOut_relay]
    exact performed_posts ..
  | tick loop =>
    obtain ⟨entry, _, _, rfl | rfl⟩ := tickLoop_cases stepped
    · exact nothing
    · exact nothing
  | loopEnd loop =>
    obtain ⟨_, _, rfl⟩ := Option.map_eq_some_iff.mp stepped
    exact nothing
  | processEnd run =>
    obtain ⟨_, _, rfl⟩ := Option.map_eq_some_iff.mp stepped
    exact nothing
  | register bindings =>
    cases stepped
    exact nothing
  | stopRepeats =>
    cases stepped
    exact nothing
  | releaseRelays =>
    cases stepped
    have posted := engine.relay.post_posts ((engine.relay.active.entries.map Sigma.snd).flatMap
      fun gesture : ActiveGesture => postUp gesture.chord gesture.destination)
    exact ⟨_, posted.posted, posted.poster⟩

end Engine

/-- Whether a choice resumes a task. -/
def EngineChoice.resumes (task : Nat) : EngineChoice → Bool
  | .resume other _ => decide (other = task)
  | _ => false

/-- What a task found when it was resumed, if it was. -/
def EngineChoice.answer (task : Nat) : EngineChoice → Option TaskAnswer
  | .resume other answer => if other = task then some answer else none
  | _ => none

/-- A choice with what was posted in its step. -/
structure PostedChoice where
  choice : EngineChoice
  posts : List RelayPost

/-- What was posted in the steps of a task. -/
def postsOf (task : Nat) (labels : List PostedChoice) : List RelayPost :=
  labels.flatMap fun label => if label.choice.resumes task then label.posts else []

/-- What a task found in its steps. -/
def answersOf (task : Nat) (labels : List PostedChoice) : List TaskAnswer :=
  labels.filterMap fun label => label.choice.answer task

/-- The gestures that relays begin with what is found for their targets. -/
def begunGestures (specs : List RelaySpec) (answers : List TaskAnswer) : List ActiveGesture :=
  (specs.zip answers).filterMap fun pair => pair.1.gesture pair.2

/--
Steps while a task applies its queue: its own steps each apply an effect, and the others leave the
gesture of its identifier alone.
-/
structure QueueSteps (host : ProcessHost) (task : Nat) (ident : String) (engine : Engine)
    (label : PostedChoice) (next : Engine) : Prop where
  stepped : engine.Steps host label.choice next
  posted : engine.relay.Posts label.posts next.relay
  own : label.choice.resumes task = true → ∃ entry effect, engine.tasks[task]? = some entry ∧
    entry.Applies effect
  others : label.choice.resumes task = false →
    next.relay.active.lookup ident = engine.relay.active.lookup ident

/-- A task that takes a step of its own has an effect left. -/
theorem QueueSteps.unfinished {host : ProcessHost} {task : Nat} {ident : String}
    {engine next : Engine} {label : PostedChoice}
    (stepped : QueueSteps host task ident engine label next)
    (resumes : label.choice.resumes task = true) {role : TaskRole} {stage : TaskStage}
    (stands : engine.TaskAt task role ident stage) :
    (∃ effect rest, stage = .applying (effect :: rest)) ∨
      ∃ effect queue held rest, stage = .applyingFirst (effect :: queue) held rest := by
  -- Its step applies an effect, so there was one to apply.
  obtain ⟨other, effect, foundOther, applies⟩ := stepped.own resumes
  obtain ⟨entry, found, _, _, rfl⟩ := stands
  cases found.symm.trans foundOther
  rcases applies with ⟨rest, applying⟩ | ⟨queue, held, rest, applying⟩
  · exact .inl ⟨effect, rest, applying⟩
  · exact .inr ⟨effect, queue, held, rest, applying⟩

/-- A choice that resumes a task answers it. -/
theorem EngineChoice.resumes_cases {choice : EngineChoice} {task : Nat}
    (resumes : choice.resumes task = true) : ∃ answer, choice = .resume task answer := by
  cases choice with
  | resume other answer =>
    obtain rfl : other = task := of_decide_eq_true resumes
    exact ⟨answer, rfl⟩
  | _ => cases resumes

/-- A choice that does not resume a task answers it nothing. -/
theorem EngineChoice.answer_none {choice : EngineChoice} {task : Nat}
    (spares : choice.resumes task = false) : choice.answer task = none := by
  cases choice with
  | resume other answer => exact if_neg (of_decide_eq_false spares)
  | _ => rfl

section Labels

variable {task : Nat} {labels : List PostedChoice} {label : PostedChoice}

/-- A step of the task itself adds what it found and what it posted. -/
theorem labels_own {answer : TaskAnswer} (own : label.choice = .resume task answer) :
    answersOf task (labels ++ [label]) = answersOf task labels ++ [answer] ∧
      postsOf task (labels ++ [label]) = postsOf task labels ++ label.posts := by
  unfold answersOf postsOf
  rw [List.filterMap_append, List.flatMap_append, List.flatMap_singleton]
  simp [own, EngineChoice.answer, EngineChoice.resumes]

/-- A step of another task adds nothing. -/
theorem labels_other (spares : label.choice.resumes task = false) :
    answersOf task (labels ++ [label]) = answersOf task labels ∧
      postsOf task (labels ++ [label]) = postsOf task labels := by
  unfold answersOf postsOf
  rw [List.filterMap_append, List.flatMap_append, List.flatMap_singleton]
  simp [EngineChoice.answer_none spares, spares]

end Labels

/-- A list is what comes before its last element, and that element. -/
theorem dropLast_getLast {Item : Type} (items : List Item) :
    items.dropLast ++ items.getLast?.toList = items := by
  cases items using List.reverseRecOn with
  | nil => rfl
  | append_singleton before last =>
    rw [List.getLast?_concat, List.dropLast_concat]
    rfl

/-- One more relay begins its gesture after those before it. -/
theorem begunGestures_concat {specs : List RelaySpec} {answers : List TaskAnswer}
    (lengths : answers.length = specs.length) {spec : RelaySpec} {answer : TaskAnswer}
    {gesture : ActiveGesture} (begun : spec.gesture answer = some gesture) :
    begunGestures (specs ++ [spec]) (answers ++ [answer]) =
      begunGestures specs answers ++ [gesture] := by
  unfold begunGestures
  rw [List.zip_append lengths.symm, List.filterMap_append]
  simp [begun]

namespace Engine

/-- A step that does not resume a task leaves it as it is. -/
theorem Steps.spared {host : ProcessHost} {engine next : Engine} {choice : EngineChoice}
    (stepped : engine.Steps host choice next) {task : Nat} {entry : EngineTask}
    (found : engine.tasks[task]? = some entry) (spares : choice.resumes task = false) :
    next.tasks[task]? = some entry := by
  -- New tasks come after it, and the task that moves is another one.
  have within := (List.getElem?_eq_some_iff.mp found).1
  cases stepped.tasks with
  | same tasks => rw [tasks, found]
  | spawned request =>
    simp only [spawn, carryOut_tasks]
    rw [List.getElem?_append_left within, found]
  | ticked loop looped _ _ _ tasks => rw [tasks, List.getElem?_append_left within, found]
  | advanced moved answer mover resumed chosen =>
    subst chosen
    have other : moved ≠ task := of_decide_eq_false spares
    simp only [advance, carryOut_tasks]
    rw [List.getElem?_set_ne other, found]

variable {host : ProcessHost} {engine last next : Engine} {task : Nat} {ident : String}
  {labels : List PostedChoice} {label : PostedChoice} {spec : RelaySpec}
  {done todo specs : List RelaySpec}

/-- A task that stands somewhere stands there after the steps of others. -/
theorem TaskAt.spared {role : TaskRole} {stage : TaskStage}
    (stands : last.TaskAt task role ident stage) (stepped : last.Steps host label.choice next)
    (spares : label.choice.resumes task = false) : next.TaskAt task role ident stage := by
  obtain ⟨entry, found, same⟩ := stands
  exact ⟨entry, stepped.spared found spares, same⟩

/-- A task with no effects left has none after any step. -/
theorem TaskPast.kept (past : last.TaskPast task) (stepped : last.Steps host label.choice next) :
    next.TaskPast task := by
  obtain ⟨entry, found, ended⟩ := past
  exact stepped.past found ended

/-- The first run of a held action, part of whose relays are done. -/
structure FirstRunAt (engine : Engine) (task : Nat) (ident : String) (request : DispatchRequest)
    (held : HeldAction) (rest : List Effect) (done todo : List RelaySpec)
    (labels : List PostedChoice) (last : Engine) : Prop where
  stands : last.TaskAt task (.dispatch request) ident
    (.applyingFirst (relayEffects todo) held rest)
  answered : (answersOf task labels).length = done.length
  complete : (begunGestures done (answersOf task labels)).length = done.length
  poster : last.relay.poster = engine.relay.poster
  active : last.relay.active.lookup ident = ((engine.relay.active.lookup ident).toList ++
    begunGestures done (answersOf task labels)).getLast?
  downs : keyDowns (postsOf task labels) =
    engine.relay.delivers (begunGestures done (answersOf task labels))
  ups : keyUps (postsOf task labels) = engine.relay.delivers
    ((engine.relay.active.lookup ident).toList ++
      begunGestures done (answersOf task labels)).dropLast

/-- A tick of a held action, part of whose relays are done. -/
structure TickRunAt (engine : Engine) (task : Nat) (ident : String) (loop : Nat)
    (done todo : List RelaySpec) (labels : List PostedChoice) (last : Engine) : Prop where
  stands : last.TaskAt task (.tick loop) ident (.applying (relayEffects todo))
  poster : last.relay.poster = engine.relay.poster
  active : last.relay.active.lookup ident = engine.relay.active.lookup ident
  downs : keyDowns (postsOf task labels) = engine.relay.delivers
    (List.replicate done.length (engine.relay.active.lookup ident).toList).flatten
  ups : keyUps (postsOf task labels) = []

/--
What holds of a queue of relays wherever its task stands between two of them.

It is given what others leave as it is, what a step of the task brings about that applies one more
relay, and that a task with no relay left applies nothing.
-/
theorem relays_run {At : List RelaySpec → List RelaySpec → List PostedChoice → Engine → Prop}
    (start : At [] specs [] engine)
    (spared : ∀ {done todo labels last label next}, At done todo labels last →
      QueueSteps host task ident last label next → label.choice.resumes task = false →
      At done todo (labels ++ [label]) next)
    (stuck : ∀ {done labels last label next}, At done [] labels last →
      QueueSteps host task ident last label next → label.choice.resumes task = false)
    (step : ∀ {done spec todo labels last label next answer}, At done (spec :: todo) labels last →
      label.choice = .resume task answer → QueueSteps host task ident last label next →
      next.TaskPast task ∨ At (done ++ [spec]) todo (labels ++ [label]) next)
    (run : Run (QueueSteps host task ident) engine labels last) :
    last.TaskPast task ∨ ∃ done todo, specs = done ++ todo ∧ At done todo labels last := by
  -- The induction is on the labels, from the last one back.
  induction labels using List.reverseRecOn generalizing last with
  | nil =>
    cases run
    exact .inr ⟨[], specs, rfl, start⟩
  | append_singleton labels label ih =>
    obtain ⟨middle, before, stepped⟩ := run.split_last
    rcases ih before with past | ⟨done, todo, rfl, at_⟩
    · exact .inl (past.kept stepped.stepped)
    cases resumes : label.choice.resumes task with
    | false => exact .inr ⟨done, todo, rfl, spared at_ stepped resumes⟩
    | true =>
      cases todo with
      | nil => cases resumes.symm.trans (stuck at_ stepped)
      | cons spec todo =>
        obtain ⟨answer, own⟩ := EngineChoice.resumes_cases resumes
        apply (step at_ own stepped).imp_right
        intro further
        exact ⟨done ++ [spec], todo, List.append_cons done spec todo, further⟩

/-- A task that applies effects and has none left to apply does not move. -/
theorem spares_of_empty {role : TaskRole} {stage : TaskStage}
    (stepped : QueueSteps host task ident last label next)
    (stands : last.TaskAt task role ident stage)
    (empty : stage = .applying [] ∨ ∃ held rest, stage = .applyingFirst [] held rest) :
    label.choice.resumes task = false := by
  -- If it moved it would have applied an effect, and there is none.
  cases resumes : label.choice.resumes task with
  | false => rfl
  | true =>
    rcases stepped.unfinished resumes stands with ⟨_, _, rfl⟩ | ⟨_, _, _, _, rfl⟩
    · rcases empty with left | ⟨_, _, left⟩ <;> cases left
    · rcases empty with left | ⟨_, _, left⟩ <;> cases left

section FirstRun

variable {request : DispatchRequest} {held : HeldAction} {rest : List Effect}

/-- A step of another task leaves a first run as far as it was. -/
theorem FirstRunAt.spared
    (at_ : engine.FirstRunAt task ident request held rest done todo labels last)
    (stepped : QueueSteps host task ident last label next)
    (spares : label.choice.resumes task = false) :
    engine.FirstRunAt task ident request held rest done todo (labels ++ [label]) next := by
  -- Others post to other identifiers, so what this run has posted stays as it was.
  obtain ⟨answers, posts⟩ := @labels_other task labels label spares
  constructor
  · exact at_.stands.spared stepped.stepped spares
  · rw [answers]
    exact at_.answered
  · rw [answers]
    exact at_.complete
  · exact stepped.posted.poster.trans at_.poster
  · rw [answers]
    exact (stepped.others spares).trans at_.active
  · rw [answers, posts]
    exact at_.downs
  · rw [answers, posts]
    exact at_.ups

/-- A step of a first run begins the next gesture, or gives up. -/
theorem FirstRunAt.step
    (at_ : engine.FirstRunAt task ident request held rest done (spec :: todo) labels last)
    {answer : TaskAnswer} (own : label.choice = .resume task answer)
    (stepped : QueueSteps host task ident last label next) :
    next.TaskPast task ∨ engine.FirstRunAt task ident request held rest (done ++ [spec]) todo
      (labels ++ [label]) next := by
  have taken := stepped.stepped
  rw [own] at taken
  apply (step_first at_.stands taken).imp_right
  rintro ⟨gesture, begins, stands, relay⟩
  obtain ⟨answers, posts⟩ := @labels_own task labels label answer own
  have begun := begunGestures_concat at_.answered begins
  -- What the step posted releases the gesture before it and presses its own key.
  have posted := stepped.posted
  rw [relay] at posted
  have same := posted.unique (last.relay.begin_posts ident gesture.chord gesture.destination)
  have keys := last.relay.keys_sends (last.relay.releases ident ++
    postDown gesture.chord false gesture.destination)
  rw [← same, keyDowns_append, keyUps_append, (last.relay.keys_releases ident).1,
    (last.relay.keys_releases ident).2, (keyDowns_postDown _ _ _).1, (keyDowns_postDown _ _ _).2,
    RelayKey.delivers_congr at_.poster, RelayKey.delivers_congr at_.poster, List.append_nil] at keys
  constructor
  · exact stands
  · rw [answers, List.length_append, List.length_append, at_.answered]
    rfl
  · rw [answers, begun, List.length_append, List.length_append, at_.complete]
    rfl
  · exact stepped.posted.poster.trans at_.poster
  · rw [relay, RelayKey.begin_active, if_pos rfl, answers, begun, ← List.append_assoc,
      List.getLast?_concat]
  · rw [answers, posts, begun, keyDowns_append, at_.downs, keys.1, List.nil_append,
      RelayKey.delivers_append]
  · rw [answers, posts, begun, keyUps_append, at_.ups, keys.2, ← RelayKey.delivers_append,
      ← List.append_assoc, List.dropLast_concat, at_.active]
    rw [dropLast_getLast]

/-- A first run stands between two of its relays, or it is over. -/
theorem first_runs
    (begins : engine.TaskAt task (.dispatch request) ident
      (.applyingFirst (relayEffects specs) held rest))
    (run : Run (QueueSteps host task ident) engine labels last) :
    last.TaskPast task ∨ ∃ done todo, specs = done ++ todo ∧
      engine.FirstRunAt task ident request held rest done todo labels last := by
  refine relays_run ?_ (fun at_ => at_.spared)
    (fun at_ stepped => spares_of_empty stepped at_.stands (.inr ⟨_, _, rfl⟩))
    (fun at_ => at_.step) run
  -- Before the first relay the gesture there is, if any, is the only one.
  refine ⟨begins, rfl, rfl, rfl, ?_, engine.relay.delivers_nil.symm, ?_⟩
  · show _ = ((engine.relay.active.lookup ident).toList ++ []).getLast?
    cases engine.relay.active.lookup ident <;> rfl
  · show [] = engine.relay.delivers ((engine.relay.active.lookup ident).toList ++ []).dropLast
    rw [List.append_nil]
    cases engine.relay.active.lookup ident <;> exact engine.relay.delivers_nil.symm

end FirstRun

section TickRun

variable {loop : Nat}

/-- A step of another task leaves a tick as far as it was. -/
theorem TickRunAt.spared (at_ : engine.TickRunAt task ident loop done todo labels last)
    (stepped : QueueSteps host task ident last label next)
    (spares : label.choice.resumes task = false) :
    engine.TickRunAt task ident loop done todo (labels ++ [label]) next := by
  -- As for a first run: the gesture and the posted keys are this identifier's alone.
  obtain ⟨_, posts⟩ := @labels_other task labels label spares
  constructor
  · exact at_.stands.spared stepped.stepped spares
  · exact stepped.posted.poster.trans at_.poster
  · exact (stepped.others spares).trans at_.active
  · rw [posts]
    exact at_.downs
  · rw [posts]
    exact at_.ups

/-- A step of a tick presses the key of the gesture there is, or gives up. -/
theorem TickRunAt.step (at_ : engine.TickRunAt task ident loop done (spec :: todo) labels last)
    {answer : TaskAnswer} (own : label.choice = .resume task answer)
    (stepped : QueueSteps host task ident last label next) :
    next.TaskPast task ∨
      engine.TickRunAt task ident loop (done ++ [spec]) todo (labels ++ [label]) next := by
  have taken := stepped.stepped
  rw [own] at taken
  apply (step_tick at_.stands taken).imp_right
  rintro ⟨stands, relay⟩
  obtain ⟨_, posts⟩ := @labels_own task labels label answer own
  -- What the step posted presses the key of the gesture and lifts none.
  have posted := stepped.posted
  rw [relay] at posted
  have same := posted.unique (last.relay.repeatGesture_posts ident)
  have keys := last.relay.keys_sends (last.relay.repeats ident)
  rw [← same, (last.relay.keys_repeats ident).1, (last.relay.keys_repeats ident).2,
    RelayKey.delivers_congr at_.poster, RelayKey.delivers_nil, at_.active] at keys
  constructor
  · exact stands
  · exact stepped.posted.poster.trans at_.poster
  · rw [relay, RelayKey.repeatGesture_active]
    exact at_.active
  · rw [posts, keyDowns_append, at_.downs, keys.1, ← RelayKey.delivers_append,
      List.length_append, List.length_singleton, List.replicate_add, List.flatten_append]
    simp
  · rw [posts, keyUps_append, at_.ups, keys.2]
    rfl

/-- A tick stands between two of its relays, or it is over. -/
theorem tick_runs
    (begins : engine.TaskAt task (.tick loop) ident (.applying (relayEffects specs)))
    (run : Run (QueueSteps host task ident) engine labels last) :
    last.TaskPast task ∨ ∃ done todo, specs = done ++ todo ∧
      engine.TickRunAt task ident loop done todo labels last := by
  exact relays_run ⟨begins, rfl, rfl, engine.relay.delivers_nil.symm, rfl⟩
    (fun at_ => at_.spared) (fun at_ stepped => spares_of_empty stepped at_.stands (.inl rfl))
    (fun at_ => at_.step) run

end TickRun

end Engine

/-- A step that leaves the gesture of an identifier as it is. -/
structure SparingSteps (host : ProcessHost) (ident : String) (engine : Engine)
    (choice : EngineChoice) (next : Engine) : Prop where
  stepped : engine.Steps host choice next
  gesture : next.relay.active.lookup ident = engine.relay.active.lookup ident

/-- The first run of a held action that relays some specs, applied to its end. -/
structure HeldFirstRun (host : ProcessHost) (specs : List RelaySpec) (ident : String) (task : Nat)
    (engine : Engine) (labels : List PostedChoice) (last : Engine) : Prop where
  begun : ∃ request held rest, engine.TaskAt task (.dispatch request) ident
    (.applyingFirst (relayEffects specs) held rest)
  run : Run (QueueSteps host task ident) engine labels last
  applied : ∃ request held rest, last.TaskAt task (.dispatch request) ident
    (.applyingFirst [] held rest)

/-- A tick of a held action that relays some specs, applied to its end. -/
structure HeldTick (host : ProcessHost) (specs : List RelaySpec) (ident : String) (task : Nat)
    (engine : Engine) (labels : List PostedChoice) (last : Engine) : Prop where
  begun : ∃ loop, engine.TaskAt task (.tick loop) ident (.applying (relayEffects specs))
  run : Run (QueueSteps host task ident) engine labels last
  applied : ∃ loop, last.TaskAt task (.tick loop) ident (.applying [])

/-- The step of a key-up that waited for the loop of its identifier to end. -/
structure HeldRelease (host : ProcessHost) (ident : String) (task : Nat) (engine last : Engine) :
    Prop where
  waits : ∃ origin repeated loop notified, engine.TaskAt task
    (.dispatch ⟨origin, .keyUp, repeated⟩) ident (.releasing loop notified)
  stepped : ∃ answer, engine.Steps host (.resume task answer) last

section Held

variable {host : ProcessHost} {specs : List RelaySpec} {ident : String} {task : Nat}
  {engine last : Engine} {labels : List PostedChoice}

/-- A first run applied to its end has begun every gesture. -/
theorem HeldFirstRun.ends (ran : HeldFirstRun host specs ident task engine labels last) :
    ∃ request held rest,
      engine.FirstRunAt task ident request held rest specs [] labels last := by
  obtain ⟨request, held, rest, begins⟩ := ran.begun
  obtain ⟨_, _, _, ended⟩ := ran.applied
  rcases Engine.first_runs begins ran.run with past | ⟨done, todo, rfl, at_⟩
  · exact absurd past (ended.not_past rfl)
  -- The stage it stands in tells that nothing is left.
  obtain ⟨_, found, _, _, stage⟩ := at_.stands
  obtain ⟨_, foundOver, _, _, stageOver⟩ := ended
  cases found.symm.trans foundOver
  have same := stage.symm.trans stageOver
  injection same with none_left
  obtain rfl := List.map_eq_nil_iff.mp none_left
  rw [List.append_nil]
  exact ⟨request, held, rest, at_⟩

/-- A tick applied to its end has repeated the gesture for every relay. -/
theorem HeldTick.ends (ran : HeldTick host specs ident task engine labels last) :
    ∃ loop, engine.TickRunAt task ident loop specs [] labels last := by
  -- The run of the tick stands between two repetitions, and none is left.
  obtain ⟨loop, begins⟩ := ran.begun
  obtain ⟨_, ended⟩ := ran.applied
  rcases Engine.tick_runs begins ran.run with past | ⟨done, todo, rfl, at_⟩
  · exact absurd past (ended.not_past rfl)
  obtain ⟨_, found, _, _, stage⟩ := at_.stands
  obtain ⟨_, foundOver, _, _, stageOver⟩ := ended
  cases found.symm.trans foundOver
  have same := stage.symm.trans stageOver
  injection same with none_left
  obtain rfl := List.map_eq_nil_iff.mp none_left
  rw [List.append_nil]
  exact ⟨loop, at_⟩

/-- Steps that spare a gesture end with it, and with the backend there was. -/
theorem gesture_spared {choices : List EngineChoice}
    (run : Run (SparingSteps host ident) engine choices last) :
    last.relay.active.lookup ident = engine.relay.active.lookup ident ∧
      last.relay.poster = engine.relay.poster := by
  apply run.invariant (fun state => state.relay.active.lookup ident =
    engine.relay.active.lookup ident ∧ state.relay.poster = engine.relay.poster) _ ⟨rfl, rfl⟩
  rintro state choice next ⟨stepped, gesture⟩ ⟨same, poster⟩
  obtain ⟨posts, posted⟩ := stepped.posts
  exact ⟨gesture.trans same, posted.poster.trans poster⟩

/-- Repeating the last of some gestures for each of them gives them all just if they are one. -/
theorem replicate_last_iff (gestures : List ActiveGesture) (before : List ActiveGesture) :
    (List.replicate gestures.length (before ++ gestures).getLast?.toList).flatten = gestures ↔
      ∀ one ∈ gestures, ∀ other ∈ gestures, one = other := by
  -- The last gesture is one of them, so if all are equal they equal the last.
  cases gestures using List.reverseRecOn with
  | nil => simp
  | append_singleton gestures last =>
    rw [← List.append_assoc, List.getLast?_concat, Option.toList_some,
      List.flatten_replicate_singleton, eq_comm, List.eq_replicate_iff]
    constructor
    · rintro ⟨_, same⟩ one memberOne other memberOther
      exact (same one memberOne).trans (same other memberOther).symm
    · exact fun same => ⟨rfl, fun one member => same one member last (by simp)⟩

/--
The first run of a held action presses the keys of all the gestures that its relays begin, and each
tick presses the same just if there is no event backend or these gestures are all one: a tick
repeats the last gesture for every relay. No tick lifts a key. The first run and the release
together lift every gesture once, in order, after the one that there was before.
-/
theorem held_relays_replayed (ran : HeldFirstRun host specs ident task engine labels last) :
    (begunGestures specs (answersOf task labels)).length = specs.length ∧
    keyDowns (postsOf task labels) =
      engine.relay.delivers (begunGestures specs (answersOf task labels)) ∧
    ∀ {choices : List EngineChoice} {later : Engine},
      Run (SparingSteps host ident) last choices later →
      (∀ {tick : Nat} {ticks : List PostedChoice} {ticked : Engine},
        HeldTick host specs ident tick later ticks ticked →
        keyUps (postsOf tick ticks) = [] ∧
        ticked.relay.active.lookup ident = later.relay.active.lookup ident ∧
        (keyDowns (postsOf tick ticks) = keyDowns (postsOf task labels) ↔
          engine.relay.poster = false ∨
          ∀ one ∈ begunGestures specs (answersOf task labels),
            ∀ other ∈ begunGestures specs (answersOf task labels), one = other)) ∧
      ∀ {release : Nat} {released : Engine}, HeldRelease host ident release later released →
        ∃ posts, later.relay.Posts posts released.relay ∧ keyDowns posts = [] ∧
          keyUps (postsOf task labels) ++ keyUps posts = engine.relay.delivers
            ((engine.relay.active.lookup ident).toList ++
              begunGestures specs (answersOf task labels)) := by
  obtain ⟨request, held, rest, at_⟩ := ran.ends
  refine ⟨at_.complete, at_.downs, ?_⟩
  intro choices later spared
  obtain ⟨gesture, poster⟩ := gesture_spared spared
  -- The tick posts the last gesture each time, and the release ends that one only.
  constructor
  · intro tick ticks ticked repeated
    obtain ⟨loop, tick_⟩ := repeated.ends
    refine ⟨tick_.ups, tick_.active, ?_⟩
    rw [tick_.downs, at_.downs, gesture, at_.active,
      RelayKey.delivers_congr (poster.trans at_.poster), ← at_.complete]
    unfold RelayKey.delivers
    cases engine.relay.poster with
    | false => simp
    | true => simpa using replicate_last_iff _ _
  · rintro release released ⟨⟨_, _, _, _, waits⟩, _, stepped⟩
    have posted := later.relay.endGesture_posts ident
    rw [← Engine.step_release waits stepped] at posted
    have keys := later.relay.keys_sends (later.relay.releases ident)
    rw [(later.relay.keys_releases ident).1, (later.relay.keys_releases ident).2, gesture,
      RelayKey.delivers_congr (poster.trans at_.poster),
      RelayKey.delivers_congr (poster.trans at_.poster), RelayKey.delivers_nil] at keys
    refine ⟨_, posted, keys.1, ?_⟩
    rw [keys.2, at_.ups, at_.active, ← RelayKey.delivers_append, dropLast_getLast]

end Held

section Replays

/-- Whether the task of a choice, if it resumes one, has an effect to apply. -/
private def ownApplies (engine : Engine) (task : Nat) : Bool :=
  match engine.tasks[task]?.map EngineTask.stage with
  | some (.applying (_ :: _)) | some (.applyingFirst (_ :: _) _ _) => true
  | _ => false

/-- Such a task applies an effect. -/
private theorem ownApplies_applies {engine : Engine} {task : Nat}
    (applies : ownApplies engine task = true) :
    ∃ entry effect, engine.tasks[task]? = some entry ∧ entry.Applies effect := by
  -- The two stages that apply effects, in a first run and in a tick.
  unfold ownApplies at applies
  cases found : engine.tasks[task]? with
  | none => simp [found] at applies
  | some entry =>
    rw [found] at applies
    dsimp only [Option.map_some] at applies
    split at applies
    · rename_i effect rest stage
      exact ⟨entry, effect, rfl, .inl ⟨rest, Option.some.inj stage⟩⟩
    · rename_i effect queue held rest stage
      exact ⟨entry, effect, rfl, .inr ⟨queue, held, rest, Option.some.inj stage⟩⟩
    · cases applies

/-- A step with its posts, while a task applies its queue. -/
private def postingStep (task : Nat) (ident : String) (engine : Engine) (choice : EngineChoice) :
    Option (Engine × List RelayPost) :=
  (engine.step Engine.plainHost choice).bind fun next =>
    let posts := next.relay.posted.drop engine.relay.posted.length
    if next.relay.posted = engine.relay.posted ++ posts ∧ next.relay.poster = engine.relay.poster ∧
        (if choice.resumes task then ownApplies engine task = true
          else next.relay.active.lookup ident = engine.relay.active.lookup ident) then
      some (next, posts)
    else none

/-- Such steps are those of a queue. -/
private theorem postingStep_queue {task : Nat} {ident : String} {engine next : Engine}
    {label : EngineChoice × List RelayPost}
    (stepped : postingStep task ident engine label.1 = some (next, label.2)) :
    QueueSteps Engine.plainHost task ident engine ⟨label.1, label.2⟩ next := by
  -- The check at each label is the definition of the step's own posts.
  obtain ⟨choice, posts⟩ := label
  obtain ⟨after, taken, checked⟩ := Option.bind_eq_some_iff.mp stepped
  obtain ⟨⟨posted, poster, fits⟩, same⟩ := Option.ite_none_right_eq_some.mp checked
  cases same
  refine ⟨taken, ⟨posted, poster⟩, fun own => ?_, fun spares => ?_⟩
  · rw [if_pos own] at fits
    exact ownApplies_applies fits
  · rwa [if_neg (by simp [spares])] at fits

/-- A step that leaves the gesture of an identifier as it is. -/
private def sparingStep (ident : String) (engine : Engine) (choice : EngineChoice) :
    Option Engine :=
  (engine.step Engine.plainHost choice).filter fun next =>
    next.relay.active.lookup ident == engine.relay.active.lookup ident

/-- Such steps spare the gesture. -/
private theorem sparingStep_sparing {ident : String} {engine next : Engine} {choice : EngineChoice}
    (stepped : sparingStep ident engine choice = some next) :
    SparingSteps Engine.plainHost ident engine choice next := by
  obtain ⟨taken, same⟩ := Option.filter_eq_some_iff.mp stepped
  exact ⟨taken, eq_of_beq same⟩

/-- The relays of some keys to the focused application. -/
private def focusedRelays (keys : List String) : List RelaySpec :=
  keys.map fun key => ⟨key, .focused⟩

/-- A press of a held action up to its first call, which relays some keys. -/
private def calledAction (keys : List String) : List EngineChoice := [
  .register (HashMap.collect [(1, ⟨"v", ⟨∅, .v⟩⟩)]),
  .call ⟨.injected "v", .keyDown, false⟩, .resume 0 .granted,
  .resume 0 (.handled false (.queued [.untilKeyUp ⟨7⟩ none])), .resume 0 .granted,
  .resume 0 (.script (some (relayEffects (focusedRelays keys))))]

/-- The end of the dispatch after the first run, and a tick up to what its call relays. -/
private def tickedAction (keys : List String) : List EngineChoice := [
  .resume 0 .granted, .resume 0 .granted, .resume 0 (.refreshed false), .tick 0,
  .resume 1 (.script (some (relayEffects (focusedRelays keys))))]

/-- The engine at the first effect of the first run. -/
private def calledEngine (keys : List String) : Engine :=
  ((calledAction keys).foldlM (Engine.step Engine.plainHost) (.build true)).getD (.build true)

/-- The first run, which applies one effect after the other. -/
private def firstReplay (keys : List String) : Option (Engine × List (List RelayPost)) :=
  evaluate (postingStep 0 "v") (calledEngine keys)
    (List.replicate keys.length (.resume 0 .granted))

/-- The engine at the end of the first run. -/
private def ranEngine (keys : List String) : Engine :=
  ((firstReplay keys).map Prod.fst).getD (.build true)

/-- The engine at the first effect of the tick. -/
private def tickedEngine (keys : List String) : Engine :=
  ((tickedAction keys).foldlM (sparingStep "v") (ranEngine keys)).getD (.build true)

/-- The tick, which applies one effect after the other. -/
private def tickReplay (keys : List String) : Option (Engine × List (List RelayPost)) :=
  evaluate (postingStep 1 "v") (tickedEngine keys) (List.replicate keys.length (.resume 1 .granted))

/-- The labels of a replay in which a task applies one effect after the other. -/
private def replayLabels (task : Nat) (keys : List String)
    (replay : Option (Engine × List (List RelayPost))) : List PostedChoice :=
  ((List.replicate keys.length (EngineChoice.resume task .granted)).zip
    ((replay.map Prod.snd).getD [])).map fun label => ⟨label.1, label.2⟩

/-- A replay that is made is a run of its labels to its end. -/
private theorem replay_runs {task : Nat} {keys : List String} {engine : Engine}
    {replay : Option (Engine × List (List RelayPost))}
    (is : replay = evaluate (postingStep task "v") engine
      (List.replicate keys.length (.resume task .granted)))
    (made : replay.isSome = true) :
    Run (QueueSteps Engine.plainHost task "v") engine (replayLabels task keys replay)
      ((replay.map Prod.fst).getD (.build true)) := by
  obtain ⟨⟨last, outputs⟩, same⟩ := Option.isSome_iff_exists.mp made
  obtain ⟨last, outputs, seen, run, _⟩ := Run.of_evaluate (postingStep task "v") engine
    (List.replicate keys.length (.resume task .granted)) id (last, outputs)
    (by rw [← is, same]; rfl)
  cases seen
  subst same
  exact run.map_labels fun stepped => postingStep_queue stepped

/-- A computation that is made ends in what it is said to end in. -/
private theorem folded_getD {step : Engine → EngineChoice → Option Engine} {engine other : Engine}
    {choices : List EngineChoice} (made : (choices.foldlM step engine).isSome = true) :
    Run (fun state choice next => step state choice = some next) engine choices
      ((choices.foldlM step engine).getD other) := by
  obtain ⟨last, folded⟩ := Option.isSome_iff_exists.mp made
  obtain ⟨_, rfl, run⟩ := Run.of_foldlM step engine choices id last (by rw [folded]; rfl)
  rw [folded]
  exact run

/-- Whether every part of a press, its first run and a tick is made, up to where they stand. -/
private def replays (keys : List String) : Bool :=
  ((calledAction keys).foldlM (Engine.step Engine.plainHost) (.build true)).isSome &&
  (calledEngine keys).tasks[0]? = some ⟨.dispatch ⟨.injected "v", .keyDown, false⟩,
    .applyingFirst (relayEffects (focusedRelays keys)) ⟨⟨7⟩, none⟩ [], some "v", some 0⟩ &&
  (firstReplay keys).isSome &&
  (ranEngine keys).tasks[0]? = some ⟨.dispatch ⟨.injected "v", .keyDown, false⟩,
    .applyingFirst [] ⟨⟨7⟩, none⟩ [], some "v", some 0⟩ &&
  ((tickedAction keys).foldlM (sparingStep "v") (ranEngine keys)).isSome &&
  (tickedEngine keys).tasks[1]? =
    some ⟨.tick 0, .applying (relayEffects (focusedRelays keys)), some "v", none⟩ &&
  (tickReplay keys).isSome &&
  ((tickReplay keys).bind fun ran => ran.1.tasks[1]?) =
    some ⟨.tick 0, .applying [], some "v", none⟩

/-- Such a press has a first run and a tick. -/
private theorem replays_runs {keys : List String} (made : replays keys = true) :
    Run (Engine.Steps Engine.plainHost) (.build true) (calledAction keys) (calledEngine keys) ∧
    HeldFirstRun Engine.plainHost (focusedRelays keys) "v" 0 (calledEngine keys)
      (replayLabels 0 keys (firstReplay keys)) (ranEngine keys) ∧
    Run (SparingSteps Engine.plainHost "v") (ranEngine keys) (tickedAction keys)
      (tickedEngine keys) ∧
    ∃ ticked, HeldTick Engine.plainHost (focusedRelays keys) "v" 1 (tickedEngine keys)
      (replayLabels 1 keys (tickReplay keys)) ticked := by
  -- The replay is cut at the calls: the press, its first run, the tick and the tick's run.
  unfold replays at made
  simp only [Bool.and_eq_true, decide_eq_true_eq] at made
  obtain ⟨⟨⟨⟨⟨⟨⟨called, begun⟩, first⟩, applied⟩, between⟩, ticking⟩, ticked⟩, done⟩ := made
  refine ⟨folded_getD called, ⟨⟨_, _, _, _, begun, rfl, rfl, rfl⟩, replay_runs rfl first,
    ⟨_, _, _, _, applied, rfl, rfl, rfl⟩⟩, (folded_getD between).mono sparingStep_sparing,
    ((tickReplay keys).map Prod.fst).getD (.build true), ⟨_, _, ticking, rfl, rfl, rfl⟩,
    replay_runs rfl ticked, ?_⟩
  obtain ⟨ran, same⟩ := Option.isSome_iff_exists.mp ticked
  rw [same] at done ⊢
  exact ⟨_, _, done, rfl, rfl, rfl⟩

/-- A held action that relays one key twice is replayed by its ticks. -/
theorem held_relays_replayed_alike :
    keyDowns (postsOf 1 (replayLabels 1 ["b", "b"] (tickReplay ["b", "b"]))) =
      keyDowns (postsOf 0 (replayLabels 0 ["b", "b"] (firstReplay ["b", "b"]))) := by
  obtain ⟨_, ran, between, _, repeated⟩ := @replays_runs ["b", "b"] (by decide +kernel)
  apply (((held_relays_replayed ran).2.2 between).1 repeated).2.2.mpr
  right
  decide +kernel

/-- A held action that relays two keys is not: each tick presses the second one twice. -/
theorem held_relays_replayed_last :
    ∃ (choices : List EngineChoice) (engine last started ticked : Engine)
      (labels ticks : List PostedChoice) (others : List EngineChoice),
      Run (Engine.Steps Engine.plainHost) (.build true) choices engine ∧
      HeldFirstRun Engine.plainHost (focusedRelays ["a", "b"]) "v" 0 engine labels last ∧
      Run (SparingSteps Engine.plainHost "v") last others started ∧
      HeldTick Engine.plainHost (focusedRelays ["a", "b"]) "v" 1 started ticks ticked ∧
      keyDowns (postsOf 0 labels) = [⟨⟨∅, .a⟩, .hid⟩, ⟨⟨∅, .b⟩, .hid⟩] ∧
      keyDowns (postsOf 1 ticks) = [⟨⟨∅, .b⟩, .hid⟩, ⟨⟨∅, .b⟩, .hid⟩] := by
  obtain ⟨called, ran, between, ticked, repeated⟩ := @replays_runs ["a", "b"] (by decide +kernel)
  exact ⟨_, _, _, _, ticked, _, _, _, called, ran, between, repeated, by decide +kernel,
    by decide +kernel⟩

end Replays

end Hotki

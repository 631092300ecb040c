import Hotki.Engine.RelayTarget
import Hotki.Proofs.Engine.Isolation
import Hotki.Proofs.World.Application

/-! A relay to an application without exactly one process posts nothing and ends its queue. -/

namespace Hotki

open Base

/-- Whether a task is about to apply an effect, of its own queue or of a held action's first run. -/
def EngineTask.Applies (entry : EngineTask) (effect : Effect) : Prop :=
  (∃ rest, entry.stage = .applying (effect :: rest)) ∨
    ∃ queue held rest, entry.stage = .applyingFirst (effect :: queue) held rest

/-- Whether a task in a stage has no effects left to apply, and gets none any more. -/
def TaskStage.isPast : TaskStage → Bool
  | .refreshing | .clearing _ _ | .releasing _ _ | .notifying _ | .stopping _ | .finished => true
  | _ => false

/-- What a task does that has no effects left. -/
structure Resumption.Past (resumed : Resumption) : Prop where
  stage : resumed.stage.isPast
  loops : ∀ operation ∈ resumed.operations, operation.startsLoop = false

/-- Operations that start no loop may be put before. -/
theorem Resumption.Past.after {resumed : Resumption} (past : resumed.Past)
    {operations : List Operation} (starts : operations.all fun operation => !operation.startsLoop) :
    (resumed.after operations).Past where
  stage := past.stage
  loops operation member := by
    rcases List.mem_append.mp member with before | own
    · exact Bool.not_eq_true' _ ▸ List.all_eq_true.mp starts operation before
    · exact past.loops operation own

namespace Engine

section Past

variable (engine : Engine) (role : TaskRole) (ident : String)

/-- A task whose queue is over has no effects left. -/
theorem queueOver_past (stop : Bool) : (engine.queueOver role ident stop).Past := by
  -- A tick may start over, and a dispatch is over.
  cases role with
  | dispatch request => exact ⟨rfl, by simp [queueOver]⟩
  | tick loop =>
    unfold queueOver
    dsimp only
    split
    · split
      · exact ⟨rfl, by simp [Operation.startsLoop]⟩
      · exact ⟨rfl, by simp [Operation.startsLoop]⟩
    · exact ⟨rfl, by simp [Operation.startsLoop]⟩

/-- A task that cleared what changed bindings ended has no effects left. -/
theorem afterClearing_past (reloading : Bool) :
    (engine.afterClearing role ident reloading).Past := by
  unfold afterClearing
  split
  · exact engine.queueOver_past role ident true
  · exact ⟨rfl, by simp⟩

/-- A task whose refresh changed bindings has no effects left. -/
theorem bindingsChanged_past (reloading : Bool) :
    (engine.bindingsChanged role ident reloading).Past := by
  unfold bindingsChanged
  split
  · exact (engine.afterClearing_past role ident reloading).after rfl
  · exact ⟨rfl, by simp [Operation.startsLoop]⟩

end Past

/-- A task with no effects left gets none, and starts no loop. -/
theorem resumeTask_past {host : ProcessHost} {engine : Engine} {entry : EngineTask}
    {answer : TaskAnswer} {resumed : Resumption} (past : entry.stage.isPast)
    (went : engine.resumeTask host entry answer = some resumed) : resumed.Past := by
  obtain ⟨role, stage, identifier, number⟩ := entry
  unfold resumeTask at went
  dsimp only at went past
  split at went
  -- Only the stages after a queue are left.
  any_goals first | cases past; done | cases went; done
  · cases went
    exact engine.bindingsChanged_past _ _ false
  · cases went
    exact ⟨rfl, by simp⟩
  · cases went
    exact ⟨rfl, by simp⟩
  · split at went
    · cases went
      exact (engine.afterClearing_past _ _ _).after rfl
    · cases went
  · split at went
    · cases went
      refine ⟨?_, by simp [releaseRest, Operation.startsLoop]⟩
      unfold releaseRest
      dsimp only
      split <;> rfl
    · cases went
  · cases went
    exact ⟨rfl, by simp⟩
  · cases went
    exact ⟨rfl, by simp⟩
  · split at went
    · cases went
      exact ⟨rfl, by simp⟩
    · cases went

/-- A task has no effects left, and the loops it started are among the first ones. -/
structure QueueEnded (task bound : Nat) (engine : Engine) : Prop where
  past : ∃ entry, engine.tasks[task]? = some entry ∧ entry.stage.isPast
  loops : ∀ (index : Nat) (loop : TickerTask ActionLoop),
    engine.actionRepeater.tasks[index]? = some loop → loop.callback.starter = task → index < bound

/-- A step of a task that has no effects left starts no loop of it. -/
theorem Steps.own_loops {host : ProcessHost} {engine next : Engine} {choice : EngineChoice}
    (stepped : engine.Steps host choice next) {task : Nat} {entry : EngineTask}
    (found : engine.tasks[task]? = some entry) (past : entry.stage.isPast) :
    engine.actionRepeater.Evolves (fun loop => loop.callback.starter ≠ task)
      next.actionRepeater := by
  by_cases moves : ∃ answer, choice = .resume task answer
  · -- The task itself moves, and none of its operations starts a loop.
    obtain ⟨answer, rfl⟩ := moves
    obtain ⟨mover, resumed, foundMover, went, rfl⟩ := step_resume stepped
    cases found.symm.trans foundMover
    have evolved := Operation.onLoops_evolves task
      ((entry.moveTo engine.entries resumed).identifier.getD "") resumed.operations
      engine.actionRepeater
    simp only [advance, carryOut_loops]
    refine ⟨evolved.kept, fun index later at_ => (evolved.origin index later at_).imp_right ?_⟩
    rintro ⟨⟨held, member⟩, _⟩ _
    cases (resumeTask_past past went).loops _ member
  · -- Whoever else moves starts no loop in its name.
    refine ⟨stepped.loops.kept, fun index later at_ => ?_⟩
    refine (stepped.loops.origin index later at_).imp_right ?_
    rintro ⟨answer, mover, resumed, chosen, _⟩ same
    rw [same] at chosen
    exact moves ⟨answer, chosen⟩

/-- A task that has no effects left has none after any step. -/
theorem Steps.past {host : ProcessHost} {engine next : Engine} {choice : EngineChoice}
    (stepped : engine.Steps host choice next) {task : Nat} {entry : EngineTask}
    (found : engine.tasks[task]? = some entry) (past : entry.stage.isPast) :
    ∃ after, next.tasks[task]? = some after ∧ after.stage.isPast := by
  -- Nothing puts effects into a queue that is over.
  have within := (List.getElem?_eq_some_iff.mp found).1
  cases stepped.tasks with
  | same tasks => exact ⟨entry, by rw [tasks, found], past⟩
  | spawned request =>
    refine ⟨entry, ?_, past⟩
    simp only [spawn, carryOut_tasks]
    rw [List.getElem?_append_left within, found]
  | ticked loop looped _ _ _ tasks =>
    refine ⟨entry, ?_, past⟩
    rw [tasks, List.getElem?_append_left within, found]
  | advanced moved answer mover resumed _ foundMover went =>
    simp only [advance, carryOut_tasks]
    by_cases same : task = moved
    · subst same
      cases found.symm.trans foundMover
      exact ⟨entry.moveTo engine.entries resumed, List.getElem?_set_self within,
        (resumeTask_past past went).stage⟩
    · exact ⟨entry, by rw [List.getElem?_set_ne (Ne.symm same), found], past⟩

/-- An ended queue stays ended. -/
theorem QueueEnded.step {host : ProcessHost} {engine next : Engine} {choice : EngineChoice}
    {task bound : Nat} (stepped : engine.Steps host choice next)
    (ended : engine.QueueEnded task bound) : next.QueueEnded task bound := by
  obtain ⟨entry, found, past⟩ := ended.past
  refine ⟨stepped.past found past, fun index loop at_ starter => ?_⟩
  rcases (stepped.own_loops found past).origin index loop at_ with ⟨before, foundBefore, kept⟩ | new
  · exact ended.loops index before foundBefore (kept.starter ▸ starter)
  · exact absurd starter new

end Engine

/-- A relay whose named application has not exactly one process ends its queue. -/
theorem applyRelay_unresolved {applications : List RunningApplication} {spec : RelaySpec}
    {appName : String} (target : spec.target = .applicationName appName)
    (unresolved : ∀ pid, resolveApplication applications appName ≠ .found pid) {run : EffectRun}
    (starts : run ≠ .repeatedTick) (sent : Bool) :
    applyRelay spec run (relayAnswer applications spec sent) =
      some (if sent then .terminal [] else .failed []) := by
  -- The chord may not parse; else the target is looked up and not found.
  have answer : relayAnswer applications spec sent =
      if sent then (if (Chord.parse spec.chord).isSome then .destination none else .granted)
      else .failed := by
    unfold relayAnswer
    rw [target]
    cases Chord.parse spec.chord with
    | none => cases sent <;> rfl
    | some chord =>
      cases resolved : resolveApplication applications appName with
      | found pid => exact absurd resolved (unresolved pid)
      | notRunning => cases sent <;> simp [resolved]
      | ambiguous count => cases sent <;> simp [resolved]
  unfold applyRelay
  rw [answer, target]
  cases Chord.parse spec.chord with
  | none => cases sent <;> rfl
  | some chord =>
    cases run with
    | repeatedTick => exact absurd rfl starts
    | oneShot => cases sent <;> rfl
    | repeatedFirst => cases sent <;> rfl

/-- A dispatch that applies such a relay does nothing more than leave its queue. -/
theorem Engine.resumeTask_unresolved (engine : Engine) (host : ProcessHost) {entry : EngineTask}
    {request : DispatchRequest} (role : entry.role = .dispatch request) {spec : RelaySpec}
    (applies : entry.Applies (.exec (.relay spec))) {appName : String}
    (target : spec.target = .applicationName appName) {applications : List RunningApplication}
    (unresolved : ∀ pid, resolveApplication applications appName ≠ .found pid) (sent : Bool) :
    engine.resumeTask host entry (relayAnswer applications spec sent) =
      some { stage := if sent then .refreshing else .finished } := by
  -- The effect stands first in the queue, or first in that of a held action.
  obtain ⟨_, stage, identifier, number⟩ := entry
  cases role
  have outcome := fun run (starts : run ≠ EffectRun.repeatedTick) =>
    applyRelay_unresolved target unresolved starts sent
  rcases applies with ⟨rest, rfl⟩ | ⟨queue, held, rest, rfl⟩
  · show ((applyRelay spec .oneShot _).bind _) = _
    rw [outcome .oneShot (by decide)]
    cases sent <;> rfl
  · show ((applyRelay spec .repeatedFirst _).bind _) = _
    rw [outcome .repeatedFirst (by decide)]
    cases sent <;> rfl

/--
An application name is found just if it stands for one process, ambiguous just if it stands for
several, and not running otherwise, whatever the order and the repetitions of the records. A relay
to a name that is not found posts nothing and leaves the active gestures and the repeat loops as
they were, whether it is applied in a queue of its own or in the first run of a held action; and
from then on, in every run, its task applies no further effect and starts no loop.
-/
theorem application_fails_closed :
    (∀ applications appName,
      (∀ pid, resolveApplication applications appName = .found pid ↔
        answeringPids applications appName = {pid}) ∧
      (∀ count, resolveApplication applications appName = .ambiguous count ↔
        2 ≤ count ∧ (answeringPids applications appName).ncard = count) ∧
      (resolveApplication applications appName = .notRunning ↔
        answeringPids applications appName = ∅) ∧
      ∀ others : List RunningApplication,
        (∀ application, application ∈ others ↔ application ∈ applications) →
        resolveApplication others appName = resolveApplication applications appName) ∧
    ∀ (host : ProcessHost) (engine : Engine) (task : Nat) (entry : EngineTask)
      (request : DispatchRequest) (spec : RelaySpec) (appName : String)
      (applications : List RunningApplication) (sent : Bool),
      engine.tasks[task]? = some entry → entry.role = .dispatch request →
      entry.Applies (.exec (.relay spec)) → spec.target = .applicationName appName →
      (∀ pid, resolveApplication applications appName ≠ .found pid) →
      ∃ next, engine.Steps host (.resume task (relayAnswer applications spec sent)) next ∧
        next.relay = engine.relay ∧ next.actionRepeater = engine.actionRepeater ∧
        ∀ choices last, Run (Engine.Steps host) next choices last →
          last.QueueEnded task engine.actionRepeater.tasks.length := by
  -- The resolution is settled by the answering processes, and the relay by the resolution.
  constructor
  · intro applications appName
    refine ⟨resolveApplication_found applications appName,
      resolveApplication_ambiguous applications appName,
      resolveApplication_notRunning applications appName, fun others same => ?_⟩
    apply resolveApplication_congr
    ext pid
    simp only [answeringPids, same]
  · intro host engine task entry request spec appName applications sent found role applies target
      unresolved
    have went := engine.resumeTask_unresolved host role applies target unresolved sent
    refine ⟨engine.advance task entry { stage := if sent then .refreshing else .finished }, ?_,
      rfl, rfl, fun choices last run => ?_⟩
    · show engine.step host _ = _
      simp only [Engine.step, found, went, Option.bind_eq_bind, Option.bind_some]
    · apply run.invariant (Engine.QueueEnded task engine.actionRepeater.tasks.length)
        fun stepped ended => ended.step stepped
      refine ⟨⟨_, List.getElem?_set_self (List.getElem?_eq_some_iff.mp found).1, ?_⟩,
        fun index loop at_ _ => (List.getElem?_eq_some_iff.mp at_).1⟩
      show TaskStage.isPast (if sent then .refreshing else .finished) = true
      cases sent <;> rfl

/-- Two processes of one name. -/
private def helpers : List RunningApplication :=
  [⟨some "Notes", 7, false⟩, ⟨some "Notes", 8, false⟩]

/-- The engine in the first run of a held action that sends a chord to that name. -/
private def sendingEngine : Engine where
  tasks := [⟨.dispatch ⟨.injected "a", .keyDown, false⟩,
    .applyingFirst [.exec (.relay ⟨"cmd+c", .applicationName "Notes"⟩), .nav .pop] ⟨⟨1⟩, none⟩ [],
    some "a", none⟩]

/-- Neither of two processes is found, and the relay posts nothing. -/
theorem application_fails_closed_twice :
    ∃ next, sendingEngine.Steps plainHost
        (.resume 0 (relayAnswer helpers ⟨"cmd+c", .applicationName "Notes"⟩ true)) next ∧
      next.relay = sendingEngine.relay := by
  -- Two processes answer, so neither is the only one.
  have unresolved : ∀ pid, resolveApplication helpers "Notes" ≠ .found pid := by
    intro pid found
    have single := ((application_fails_closed.1 helpers "Notes").1 pid).mp found
    have first : (7 : Int32) ∈ answeringPids helpers "Notes" :=
      ⟨⟨some "Notes", 7, false⟩, by simp [helpers], rfl, by decide, rfl, rfl⟩
    have second : (8 : Int32) ∈ answeringPids helpers "Notes" :=
      ⟨⟨some "Notes", 8, false⟩, by simp [helpers], rfl, by decide, rfl, rfl⟩
    rw [single] at first second
    exact absurd (first.trans second.symm) (by decide)
  obtain ⟨next, stepped, relay, _⟩ := application_fails_closed.2 plainHost sendingEngine 0 _ _ _ _
    helpers true rfl rfl (.inr ⟨_, _, _, rfl⟩) rfl unresolved
  exact ⟨next, stepped, relay⟩

end Hotki

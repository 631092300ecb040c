import Hotki.Proofs.Engine.Gesture

/-! A released key is quiet: what a key-up stops stays stopped unless a held action begins late. -/

namespace Hotki

open Base

/-- Whether an operation begins a relay that its own step does not end. -/
def Operation.beginsRelay : Operation → Bool
  | .applyRelay run _ _ => decide (run ≠ .oneShot)
  | _ => false

/-- Whether an operation starts a repeat loop. -/
def Operation.startsLoop : Operation → Bool
  | .startLoop _ => true
  | _ => false

namespace Operation

/-- A relay is active after an operation only if it was before or the operation began it. -/
theorem onRelay_active {ident other : String} {relay : RelayKey} (operation : Operation)
    (active : (operation.onRelay ident relay).active.lookup other ≠ none) :
    relay.active.lookup other ≠ none ∨ operation.beginsRelay ∧ other = ident := by
  -- Ending a gesture only removes it, so only an application of a relay can add one.
  cases operation with
  | applyRelay run chord destination =>
    simp only [onRelay] at active
    split at active
    · rw [RelayKey.endGesture_active, RelayKey.begin_active] at active
      split at active
      · exact absurd rfl active
      · exact .inl active
    · rename_i lasting
      rw [RelayKey.begin_active] at active
      split at active
      · exact .inr ⟨by simpa [beginsRelay] using lasting, by assumption⟩
      · exact .inl active
  | repeatRelay =>
    rw [onRelay, RelayKey.repeatGesture_active] at active
    exact .inl active
  | endRelay =>
    rw [onRelay, RelayKey.endGesture_active] at active
    split at active
    · exact absurd rfl active
    · exact .inl active
  | releaseRelays =>
    rw [onRelay, RelayKey.releaseAll_active] at active
    exact absurd rfl active
  | _ => exact .inl active

/-- A relay is active after operations only if it was before or one of them began it. -/
theorem onRelay_foldl {ident other : String} (operations : List Operation) (relay : RelayKey)
    (active : (operations.foldl (onRelay ident) relay).active.lookup other ≠ none) :
    relay.active.lookup other ≠ none ∨
      other = ident ∧ ∃ operation ∈ operations, operation.beginsRelay := by
  -- The induction is on the operations, each of which was the last to act or left what is active.
  induction operations generalizing relay with
  | nil => exact .inl active
  | cons operation rest ih =>
    rcases ih (operation.onRelay ident relay) active with before | ⟨same, later, member, begun⟩
    · rcases operation.onRelay_active before with before | ⟨begun, same⟩
      · exact .inl before
      · exact .inr ⟨same, operation, by simp, begun⟩
    · exact .inr ⟨same, later, by simp [member], begun⟩

/-- Operations that end a relay and begin none leave none active. -/
theorem onRelay_ended {ident : String} {operations : List Operation} (relay : RelayKey)
    (ended : .endRelay ∈ operations)
    (none_begun : ∀ operation ∈ operations, operation.beginsRelay = false) :
    (operations.foldl (onRelay ident) relay).active.lookup ident = none := by
  -- Whatever comes before the end, nothing is active right after it.
  obtain ⟨before, later, split⟩ := List.append_of_mem ended
  subst split
  rw [List.foldl_append, List.foldl_cons]
  by_contra active
  rcases onRelay_foldl later _ active with still | ⟨_, operation, member, begun⟩
  · rw [onRelay, RelayKey.endGesture_active, if_pos rfl] at still
    exact still rfl
  · rw [none_begun operation (by simp [member])] at begun
    cases begun

/-- A loop is registered after an operation only if one was before or the operation started it. -/
theorem onLoops_entries {task : Nat} {ident other : String} {loops : Ticker ActionLoop}
    (operation : Operation)
    (registered : (operation.onLoops task ident loops).entries.lookup other ≠ none) :
    loops.entries.lookup other ≠ none ∨ operation.startsLoop ∧ other = ident := by
  -- Only starting a loop registers one; the rest stop loops or leave them.
  cases operation with
  | startLoop held =>
    rw [onLoops, Ticker.start_entries] at registered
    split at registered
    · exact .inr ⟨rfl, by assumption⟩
    · exact .inl registered
  | stopLoop =>
    rw [onLoops, Ticker.stop_entries] at registered
    split at registered
    · exact absurd rfl registered
    · exact .inl registered
  | clearLoops =>
    rw [onLoops, Ticker.clear_entries] at registered
    exact absurd rfl registered
  | _ => exact .inl registered

/-- A loop is registered after operations only if one was before or one of them started it. -/
theorem onLoops_foldl {task : Nat} {ident other : String} (operations : List Operation)
    (loops : Ticker ActionLoop)
    (registered : (operations.foldl (onLoops task ident) loops).entries.lookup other ≠ none) :
    loops.entries.lookup other ≠ none ∨
      other = ident ∧ ∃ operation ∈ operations, operation.startsLoop := by
  -- The induction is on the operations, as for relays.
  induction operations generalizing loops with
  | nil => exact .inl registered
  | cons operation rest ih =>
    rcases ih (operation.onLoops task ident loops) registered with
      before | ⟨same, later, member, started⟩
    · rcases operation.onLoops_entries before with before | ⟨started, same⟩
      · exact .inl before
      · exact .inr ⟨same, operation, by simp, started⟩
    · exact .inr ⟨same, later, by simp [member], started⟩

/-- Operations that stop a loop and start none leave none registered. -/
theorem onLoops_stopped {task : Nat} {ident : String} {operations : List Operation}
    (loops : Ticker ActionLoop) (stopped : .stopLoop ∈ operations)
    (none_started : ∀ operation ∈ operations, operation.startsLoop = false) :
    (operations.foldl (onLoops task ident) loops).entries.lookup ident = none := by
  -- After the last stop nothing registers a loop again.
  obtain ⟨before, later, split⟩ := List.append_of_mem stopped
  subst split
  rw [List.foldl_append, List.foldl_cons]
  by_contra registered
  rcases onLoops_foldl later _ registered with still | ⟨_, operation, member, started⟩
  · rw [onLoops, Ticker.stop_entries, if_pos rfl] at still
    exact still rfl
  · rw [none_started operation (by simp [member])] at started
    cases started

/-- An operation that begins nothing begins no relay and starts no loop. -/
theorem begins_false {operation : Operation} (quiet : operation.begins = false) :
    operation.beginsRelay = false ∧ operation.startsLoop = false := by
  cases operation <;> first | exact ⟨quiet, rfl⟩ | exact ⟨rfl, quiet⟩

/-- A relay or loop that begins is something that begins. -/
theorem begins_of {operation : Operation}
    (begun : operation.beginsRelay ∨ operation.startsLoop) : operation.begins := by
  cases operation <;> simp_all [Operation.beginsRelay, Operation.startsLoop, Operation.begins]

end Operation

namespace Engine

/-- A key-up got past some point that was started after every key-down of its identifier. -/
def UpIsLast (engine : Engine) (passed : TaskStage → Bool) (ident : String) : Prop :=
  ∃ (up : Nat) (entry : EngineTask), engine.tasks[up]? = some entry ∧
    entry.Serves .keyUp ident ∧ passed entry.stage ∧
    ∀ (down : Nat) (other : EngineTask), engine.tasks[down]? = some other →
      other.Serves .keyDown ident → down < up

/-- The last key-up of an identifier, with no key-down after it, has run its stops. -/
def Released (engine : Engine) : String → Prop := engine.UpIsLast TaskStage.isReleased

/-- The last key-up of an identifier, with no key-down after it, has reached the key tracker. -/
def Raised (engine : Engine) : String → Prop := engine.UpIsLast fun _ => true

/-- Steps in which no held action begins a relay or starts a loop for a key that is released. -/
def TimelySteps (host : ProcessHost) (engine : Engine) (choice : EngineChoice) (next : Engine) :
    Prop :=
  engine.Steps host choice next ∧ ∀ task answer entry resumed, choice = .resume task answer →
    engine.tasks[task]? = some entry → engine.resumeTask host entry answer = some resumed →
    ∀ operation ∈ resumed.operations,
      (operation.beginsRelay → ¬ engine.Released (entry.identifier.getD "")) ∧
      (operation.startsLoop → ¬ engine.Raised (entry.identifier.getD ""))

/-- A step of a task makes the last key-up pass a point only if it is that task that passes it. -/
theorem upIsLast_advance {host : ProcessHost} {engine : Engine} {task : Nat} {entry : EngineTask}
    {answer : TaskAnswer} {resumed : Resumption} (sound : entry.Sound)
    (found : engine.tasks[task]? = some entry)
    (went : engine.resumeTask host entry answer = some resumed) {passed : TaskStage → Bool}
    {ident : String} (last : (engine.advance task entry resumed).UpIsLast passed ident) :
    engine.UpIsLast passed ident ∨
      (entry.moveTo engine.entries resumed).Serves .keyUp ident ∧ passed resumed.stage ∧
        (entry.identifier = none ∨ passed entry.stage = false) := by
  obtain ⟨up, other, found', serves, passes, latest⟩ := last
  simp only [advance, carryOut_tasks] at found' latest
  have length := (List.getElem?_eq_some_iff.mp found).1
  -- A key-down that is resolved already still serves its identifier afterwards.
  have kept : entry.identifier ≠ none →
      (entry.moveTo engine.entries resumed).identifier = entry.identifier := by
    intro known
    simp [EngineTask.moveTo, engine.resumeTask_reached sound went known]
  have downs : ∀ (down : Nat) (older : EngineTask), engine.tasks[down]? = some older →
      older.Serves .keyDown ident → down < up := by
    intro down older foundDown servesDown
    by_cases same : down = task
    · subst same
      cases found.symm.trans foundDown
      apply latest down (entry.moveTo engine.entries resumed)
      · rw [List.getElem?_set_self length]
      · exact ⟨servesDown.1, (kept (by simp [servesDown.2])).trans servesDown.2⟩
    · apply latest down older
      · rw [List.getElem?_set_ne (Ne.symm same)]
        exact foundDown
      · exact servesDown
  by_cases same : up = task
  · subst same
    rw [List.getElem?_set_self length] at found'
    cases found'
    by_cases fresh : entry.identifier = none ∨ passed entry.stage = false
    · exact .inr ⟨serves, passes, fresh⟩
    · obtain ⟨known, passedBefore⟩ := not_or.mp fresh
      refine .inl ⟨up, entry, found, ⟨serves.1, ?_⟩, by simpa using passedBefore, downs⟩
      rw [← kept known]
      exact serves.2
  · rw [List.getElem?_set_ne (Ne.symm same)] at found'
    exact .inl ⟨up, other, found', serves, passes, downs⟩

/-- A started dispatch makes the last key-up pass a point only if it is that key-up. -/
theorem upIsLast_spawn {engine : Engine} {request : DispatchRequest} {passed : TaskStage → Bool}
    {ident : String} (last : (engine.spawn request).UpIsLast passed ident) :
    engine.UpIsLast passed ident ∨
      request.kind = .keyUp ∧ (engine.beginDispatch request).reached = some ident ∧
        passed (engine.beginDispatch request).stage := by
  -- The new dispatch comes last, so it can be the last key-up but not an earlier key-down.
  obtain ⟨up, other, found, serves, passes, latest⟩ := last
  simp only [spawn, carryOut_tasks] at found latest
  have downs : ∀ (down : Nat) (older : EngineTask), engine.tasks[down]? = some older →
      older.Serves .keyDown ident → down < up := by
    intro down older foundDown servesDown
    apply latest down older _ servesDown
    rw [List.getElem?_append_left (List.getElem?_eq_some_iff.mp foundDown).1]
    exact foundDown
  by_cases old : up < engine.tasks.length
  · rw [List.getElem?_append_left old] at found
    exact .inl ⟨up, other, found, serves, passes, downs⟩
  · right
    rw [List.getElem?_append_right (by omega)] at found
    obtain ⟨_, same⟩ := List.getElem?_eq_some_iff.mp found
    rw [List.getElem_singleton] at same
    subst same
    obtain ⟨kind, known⟩ := serves
    refine ⟨Option.some.inj kind, ?_, passes⟩
    simpa [EngineTask.moveTo] using known

end Engine

namespace Repeater

/-- Nothing repeats: no repeat loop is registered, and release cancels no run. -/
structure OneShot (repeater : Repeater) : Prop where
  loops : repeater.ticker.entries = ∅
  runs : ∀ run ∈ repeater.runs, run.cancelOnRelease = false

/-- Changing runs otherwise leaves them one-shot. -/
theorem OneShot.update {repeater : Repeater} (oneShot : repeater.OneShot) (run : Nat)
    {change : ProcessRunState → ProcessRunState}
    (kept : ∀ state, (change state).cancelOnRelease = state.cancelOnRelease) :
    ∀ state ∈ (repeater.update run change).runs, state.cancelOnRelease = false := by
  -- Runs keep what they were started as.
  intro state member
  obtain ⟨index, found⟩ := List.mem_iff_getElem?.mp member
  simp only [Repeater.update, List.getElem?_modify, Option.map_eq_map,
    Option.map_eq_some_iff] at found
  obtain ⟨older, foundOlder, same⟩ := found
  have before := oneShot.runs older (List.mem_of_getElem? foundOlder)
  subst same
  split
  · rw [kept, before]
  · exact before

/-- Aborting the registered run leaves everything one-shot. -/
theorem OneShot.abortRun {repeater : Repeater} (oneShot : repeater.OneShot) (id : String) :
    (repeater.abortRun id).OneShot := by
  unfold Repeater.abortRun
  split
  · exact ⟨oneShot.loops, oneShot.update _ fun _ => rfl⟩
  · exact oneShot

/-- A process that is started once leaves everything one-shot. -/
theorem OneShot.start {repeater : Repeater} (oneShot : repeater.OneShot) (id : String)
    (process : ProcessSpec) : (repeater.start id process false).OneShot := by
  -- The start aborts the run under its id and adds one that does not repeat.
  have absent : repeater.ticker.entries.lookup id = none := by
    rw [oneShot.loops]
    rfl
  have aborted : repeater.ticker.abort id = repeater.ticker := by
    simp only [Ticker.abort, absent]
  simp only [Repeater.start, aborted]
  have before := oneShot.abortRun id
  refine ⟨before.loops, ?_⟩
  intro run member
  rcases List.mem_append.mp member with old | new
  · exact before.runs run old
  · rw [List.mem_singleton.mp new]

/-- Where nothing repeats there is no loop to stop. -/
theorem OneShot.unstopped {repeater : Repeater} (oneShot : repeater.OneShot) (id : String) :
    repeater.ticker.stop id = (none, repeater.ticker) := by
  have absent : repeater.ticker.entries.lookup id = none := by
    rw [oneShot.loops]
    rfl
  simp only [Ticker.stop, absent]

/-- Stopping leaves everything one-shot. -/
theorem OneShot.stop {repeater : Repeater} (oneShot : repeater.OneShot) (id : String) :
    (repeater.stop id).OneShot := by
  unfold Repeater.stop
  simp only [oneShot.unstopped]
  split
  · exact ⟨oneShot.loops, oneShot.update _ fun _ => rfl⟩
  · exact oneShot

/-- Stopping held repeats leaves everything one-shot. -/
theorem OneShot.stopRepeats {repeater : Repeater} (oneShot : repeater.OneShot) :
    repeater.stopRepeats.OneShot := by
  refine ⟨rfl, ?_⟩
  intro run member
  obtain ⟨index, found⟩ := List.mem_iff_getElem?.mp member
  simp only [Repeater.stopRepeats, List.getElem?_mapIdx, Option.map_eq_some_iff] at found
  obtain ⟨older, foundOlder, same⟩ := found
  have before := oneShot.runs older (List.mem_of_getElem? foundOlder)
  subst same
  split <;> exact before

/-- The return of a run leaves everything one-shot. -/
theorem OneShot.finish {repeater next : Repeater} (oneShot : repeater.OneShot) {run : Nat}
    (finished : repeater.finish run = some next) : next.OneShot := by
  obtain ⟨state, _, rest⟩ := Option.bind_eq_some_iff.mp finished
  split at rest
  · cases rest
  · cases rest
    have kept : ∀ state ∈ (repeater.update run fun state => { state with finished := true }).runs,
        state.cancelOnRelease = false := oneShot.update run fun _ => rfl
    split
    · exact ⟨oneShot.loops, kept⟩
    · exact ⟨oneShot.loops, kept⟩

/-- Nothing repeats under any id of a one-shot repeater. -/
theorem OneShot.not_repeating {repeater : Repeater} (oneShot : repeater.OneShot) (id : String) :
    repeater.repeating id = false := by
  -- Neither a ticker nor a registered run repeats under any id.
  have inactive : repeater.ticker.isActive id = false := by
    rw [Ticker.isActive, oneShot.loops]
    rfl
  unfold repeating
  rw [inactive, Bool.false_or]
  cases repeater.processStates.lookup id with
  | none => rfl
  | some run =>
    simp only [Option.any_some]
    cases found : repeater.runs[run]? with
    | none => rfl
    | some state => exact oneShot.runs state (List.mem_of_getElem? found)

/-- Operations leave everything one-shot. -/
theorem OneShot.performed {repeater : Repeater} (oneShot : repeater.OneShot) (ident : String)
    (operations : List Operation) :
    (operations.foldl (Operation.onRepeater ident) repeater).OneShot := by
  -- The induction is on the operations, each of which starts or stops a process.
  induction operations generalizing repeater with
  | nil => exact oneShot
  | cons operation rest ih =>
    apply ih
    cases operation with
    | startProcess run process => exact oneShot.start ident process
    | stopProcess => exact oneShot.stop ident
    | noteOsRepeat =>
      simp only [Operation.onRepeater, oneShot.unstopped]
      exact oneShot
    | stopProcessRepeats => exact oneShot.stopRepeats
    | _ => exact oneShot

end Repeater

namespace Engine

/-- Carrying out acts on the process repeater under the task's identifier. -/
theorem carryOut_repeater (engine : Engine) (task : Nat) (entry : EngineTask)
    (resumed : Resumption) (tasks : List EngineTask) :
    (engine.carryOut task entry resumed tasks).repeater =
      resumed.operations.foldl (Operation.onRepeater (entry.identifier.getD ""))
        engine.repeater :=
  (List.foldl_hom Engine.repeater fun _ _ => rfl).symm

/-- What holds in every state of a run of timely steps. -/
structure Quiet (engine : Engine) : Prop where
  sound : engine.Sound
  relays : ∀ ident, engine.relay.active.lookup ident ≠ none → ¬ engine.Released ident
  loops : ∀ ident, engine.actionRepeater.entries.lookup ident ≠ none → ¬ engine.Raised ident
  processes : engine.repeater.OneShot

/-- A resumption whose key-up passes its stops ends the relay and begins none. -/
theorem Continues.ends {engine : Engine} {entry : EngineTask} {resumed : Resumption}
    (continues : engine.Continues entry resumed) (up : entry.role.kind = some .keyUp)
    (before : entry.stage.isReleased = false) :
    .endRelay ∈ resumed.operations ∧
      ∀ operation ∈ resumed.operations, operation.beginsRelay = false := by
  -- The release is the only stage that passes the stops, and it ends the relay first.
  cases continues with
  | release loop notified => simp [releaseRest, Operation.beginsRelay]
  | notified chord _ stage =>
    rw [stage] at before
    cases before
  | quiet notUp => exact absurd up notUp
  | first effect queue held rest operations down => cases up.symm.trans down
  | loop held rest down => cases up.symm.trans down

/-- A task that gets its identifier in a step is resolved in it. -/
theorem resumeTask_resolves {host : ProcessHost} {engine : Engine} {entry : EngineTask}
    {answer : TaskAnswer} {resumed : Resumption} (sound : entry.Sound)
    (went : engine.resumeTask host entry answer = some resumed)
    (unknown : entry.identifier = none) {ident : String}
    (known : (entry.moveTo engine.entries resumed).identifier = some ident) :
    ∃ request, entry.role = .dispatch request ∧ resumed.Resolves request := by
  -- Only resolving gives a task its identifier.
  simp only [EngineTask.moveTo, unknown, Option.or_none] at known
  rcases engine.resumeTask_cases sound went with
    ⟨request, role, _, resolves⟩ | ⟨_, done⟩ | continues
  · exact ⟨request, role, resolves⟩
  · rw [done] at known
    cases known
  · rw [continues.keeps.1] at known
    cases known

/-- What begins in a step is begun under an identifier that its task had before. -/
theorem begun_known {host : ProcessHost} {engine : Engine} {entry : EngineTask}
    {answer : TaskAnswer} {resumed : Resumption} (sound : entry.Sound)
    (went : engine.resumeTask host entry answer = some resumed)
    {operation : Operation} (member : operation ∈ resumed.operations) (begun : operation.begins) :
    (entry.moveTo engine.entries resumed).identifier = entry.identifier := by
  rcases engine.resumeTask_cases sound went with ⟨_, _, _, resolves⟩ | ⟨_, done⟩ | continues
  · rw [resolves.begins operation member] at begun
    cases begun
  · rw [done] at member
    cases member
  · simp [EngineTask.moveTo, continues.keeps.1]

/-- A task that moves in time leaves no relay active under a released identifier. -/
theorem Quiet.advance_relays {host : ProcessHost} {engine : Engine} {task : Nat}
    {entry : EngineTask} {answer : TaskAnswer} {resumed : Resumption} (quiet : engine.Quiet)
    (found : engine.tasks[task]? = some entry)
    (went : engine.resumeTask host entry answer = some resumed)
    (timely : ∀ operation ∈ resumed.operations, operation.beginsRelay →
      ¬ engine.Released (entry.identifier.getD ""))
    (ident : String)
    (active : (engine.advance task entry resumed).relay.active.lookup ident ≠ none) :
    ¬ (engine.advance task entry resumed).Released ident := by
  intro released
  have sound := quiet.sound entry (List.mem_of_getElem? found)
  simp only [advance, carryOut_relay] at active
  rcases upIsLast_advance sound found went released with before | ⟨serves, passes, fresh⟩
  · -- The key was released already, so the relay is new, and began too late.
    rcases Operation.onRelay_foldl _ _ active with still | ⟨same, operation, member, begun⟩
    · exact quiet.relays ident still before
    · rw [begun_known sound went member (Operation.begins_of (.inl begun))] at same
      rw [same] at before
      exact timely operation member begun before
  · -- The key-up that passes its stops in this step ends the relay itself.
    suffices ends : .endRelay ∈ resumed.operations ∧
        ∀ operation ∈ resumed.operations, operation.beginsRelay = false by
      rw [serves.2] at active
      exact active (Operation.onRelay_ended _ ends.1 ends.2)
    by_cases unknown : entry.identifier = none
    · obtain ⟨request, role, resolves⟩ := resumeTask_resolves sound went unknown serves.2
      have up : request.kind = .keyUp := by
        have kind := serves.1
        simp only [EngineTask.moveTo, role, TaskRole.kind] at kind
        exact Option.some.inj kind
      exact ⟨resolves.ends up passes, fun operation member =>
        (Operation.begins_false (resolves.begins operation member)).1⟩
    · rcases engine.resumeTask_cases sound went with
        ⟨_, _, unresolved, _⟩ | ⟨unresolved, _⟩ | continues
      · exact absurd unresolved unknown
      · exact absurd unresolved unknown
      · exact continues.ends serves.1 (fresh.resolve_left unknown)

/-- A task that moves in time leaves no loop registered under a raised identifier. -/
theorem Quiet.advance_loops {host : ProcessHost} {engine : Engine} {task : Nat}
    {entry : EngineTask} {answer : TaskAnswer} {resumed : Resumption} (quiet : engine.Quiet)
    (found : engine.tasks[task]? = some entry)
    (went : engine.resumeTask host entry answer = some resumed)
    (timely : ∀ operation ∈ resumed.operations, operation.startsLoop →
      ¬ engine.Raised (entry.identifier.getD ""))
    (ident : String)
    (registered :
      (engine.advance task entry resumed).actionRepeater.entries.lookup ident ≠ none) :
    ¬ (engine.advance task entry resumed).Raised ident := by
  intro raised
  have sound := quiet.sound entry (List.mem_of_getElem? found)
  simp only [advance, carryOut_loops] at registered
  rcases upIsLast_advance sound found went raised with before | ⟨serves, _, fresh⟩
  -- The key was released already, so the loop is new, and was started too late.
  · rcases Operation.onLoops_foldl _ _ registered with still | ⟨same, operation, member, started⟩
    · exact quiet.loops ident still before
    · rw [begun_known sound went member (Operation.begins_of (.inr started))] at same
      rw [same] at before
      exact timely operation member started before
  · -- The key-up that reaches the key tracker in this step stops the loop itself.
    have unknown : entry.identifier = none := fresh.resolve_right (by simp)
    obtain ⟨request, role, resolves⟩ := resumeTask_resolves sound went unknown serves.2
    have up : request.kind = .keyUp := by
      have kind := serves.1
      simp only [EngineTask.moveTo, role, TaskRole.kind] at kind
      exact Option.some.inj kind
    rw [serves.2] at registered
    exact registered (Operation.onLoops_stopped _ (resolves.stops up) fun operation member =>
      (Operation.begins_false (resolves.begins operation member)).2)

/-- A started dispatch leaves every released key quiet. -/
theorem Quiet.spawn {engine : Engine} (quiet : engine.Quiet) (request : DispatchRequest)
    (ident : String) :
    ((engine.spawn request).relay.active.lookup ident ≠ none →
      ¬ (engine.spawn request).Released ident) ∧
    ((engine.spawn request).actionRepeater.entries.lookup ident ≠ none →
      ¬ (engine.spawn request).Raised ident) := by
  -- A dispatch that starts begins nothing before it is resolved.
  have begins : ∀ operation ∈ (engine.beginDispatch request).operations,
      operation.begins = false := by
    intro operation member
    rcases engine.beginDispatch_resolves request with waits | resolves
    · rw [waits] at member
      cases member
    · exact resolves.begins operation member
  refine ⟨fun active released => ?_, fun registered raised => ?_⟩
  · simp only [Engine.spawn, carryOut_relay] at active
    rcases upIsLast_spawn released with before | ⟨up, reached, passes⟩
    · rcases Operation.onRelay_foldl _ _ active with still | ⟨_, operation, member, begun⟩
      · exact quiet.relays ident still before
      · rw [(Operation.begins_false (begins operation member)).1] at begun
        cases begun
    · rcases engine.beginDispatch_resolves request with waits | resolves
      · rw [waits] at reached
        cases reached
      · simp only [EngineTask.moveTo, reached] at active
        exact active (Operation.onRelay_ended _ (resolves.ends up passes) fun operation member =>
          (Operation.begins_false (begins operation member)).1)
  · simp only [Engine.spawn, carryOut_loops] at registered
    rcases upIsLast_spawn raised with before | ⟨up, reached, _⟩
    · rcases Operation.onLoops_foldl _ _ registered with still | ⟨_, operation, member, started⟩
      · exact quiet.loops ident still before
      · rw [(Operation.begins_false (begins operation member)).2] at started
        cases started
    · rcases engine.beginDispatch_resolves request with waits | resolves
      · rw [waits] at reached
        cases reached
      · simp only [EngineTask.moveTo, reached] at registered
        exact registered (Operation.onLoops_stopped _ (resolves.stops up) fun operation member =>
          (Operation.begins_false (begins operation member)).2)

/-- A tick among the tasks is no key-up. -/
theorem upIsLast_tick {engine : Engine} {loop : Nat} {ident : String} {ticker : Ticker ActionLoop}
    {passed : TaskStage → Bool} {other : String}
    (last : UpIsLast { engine with
      actionRepeater := ticker
      tasks := engine.tasks ++ [⟨.tick loop, .ticking, some ident, none⟩] } passed other) :
    engine.UpIsLast passed other := by
  -- The tick comes last and is no dispatch, so the key-up is found among the earlier tasks.
  obtain ⟨up, entry, found, serves, passes, latest⟩ := last
  refine ⟨up, entry, ?_, serves, passes, ?_⟩
  · rcases Nat.lt_or_ge up engine.tasks.length with old | new
    · simpa [List.getElem?_append_left old] using found
    · obtain ⟨_, same⟩ := List.getElem?_eq_some_iff.mp
        ((List.getElem?_append_right new).symm.trans found)
      rw [List.getElem_singleton] at same
      subst same
      cases serves.1
  · intro down older foundDown
    apply latest down older
    exact (List.getElem?_append_left (List.getElem?_eq_some_iff.mp foundDown).1).trans foundDown

/-- Every timely step keeps every released key quiet. -/
theorem Quiet.step {host : ProcessHost} {engine next : Engine} {choice : EngineChoice}
    (stepped : engine.TimelySteps host choice next) (quiet : engine.Quiet) : next.Quiet := by
  -- One case for each choice; only a resumption can begin a relay or start a loop.
  obtain ⟨stepped, timely⟩ := stepped
  have sound := Steps.sound stepped quiet.sound
  cases choice with
  | call request =>
    cases stepped
    refine ⟨sound, fun ident => (quiet.spawn request ident).1,
      fun ident => (quiet.spawn request ident).2, ?_⟩
    simp only [Engine.spawn, carryOut_repeater]
    exact quiet.processes.performed _ _
  | resume task answer =>
    obtain ⟨entry, resumed, found, went, same⟩ := step_resume stepped
    subst same
    -- What it begins, it begins before the key-up: that is the care taken.
    have timely := timely task answer entry resumed rfl found went
    refine ⟨sound,
      quiet.advance_relays found went fun operation member => (timely operation member).1,
      quiet.advance_loops found went fun operation member => (timely operation member).2, ?_⟩
    simp only [Engine.advance, carryOut_repeater]
    exact quiet.processes.performed _ _
  | tick loop =>
    obtain ⟨entry, _, _, same | same⟩ := tickLoop_cases stepped
    · subst same
      exact quiet
    · subst same
      exact ⟨sound, fun ident active released => quiet.relays ident active (upIsLast_tick released),
        fun ident registered raised => quiet.loops ident registered (upIsLast_tick raised),
        quiet.processes⟩
  | loopEnd loop =>
    obtain ⟨ticker, finished, same⟩ := Option.map_eq_some_iff.mp stepped
    subst same
    refine ⟨sound, quiet.relays, fun ident registered => ?_, quiet.processes⟩
    rw [Ticker.finish_entries finished] at registered
    exact quiet.loops ident registered
  | processEnd run =>
    obtain ⟨repeater, finished, same⟩ := Option.map_eq_some_iff.mp stepped
    subst same
    exact ⟨sound, quiet.relays, quiet.loops, quiet.processes.finish finished⟩
  | register bindings =>
    cases stepped
    exact ⟨sound, quiet.relays, quiet.loops, quiet.processes⟩
  -- Nothing is registered after it, and what ran is stopped.
  | stopRepeats =>
    cases stepped
    exact ⟨sound, quiet.relays, fun ident registered => absurd rfl registered,
      quiet.processes.stopRepeats⟩
  | releaseRelays =>
    cases stepped
    exact ⟨sound, fun ident active => absurd rfl active, quiet.loops, quiet.processes⟩

/-- Nothing is active before any dispatch. -/
theorem build_quiet (relayEnabled : Bool) : (build relayEnabled).Quiet where
  sound entry member := by cases member
  relays ident active := absurd rfl active
  loops ident registered := absurd rfl registered
  processes := ⟨rfl, fun run member => by cases member⟩

/-- Nothing is active under an identifier: no relay gesture, no repeat loop and no process
repeat. -/
def Inactive (engine : Engine) (ident : String) : Prop :=
  engine.relay.active.lookup ident = none ∧ engine.actionRepeater.isActive ident = false ∧
    engine.repeater.repeating ident = false

/-- A key-up is over, every key-down started before it is over, and none was started after it. -/
def Over (engine : Engine) (ident : String) : Prop :=
  ∃ (up : Nat) (entry : EngineTask), engine.tasks[up]? = some entry ∧
    entry.Serves .keyUp ident ∧ entry.stage = .finished ∧
    ∀ (down : Nat) (other : EngineTask), engine.tasks[down]? = some other →
      other.Serves .keyDown ident → down < up ∧ other.stage = .finished

/-- Where held actions begin in time, a key whose dispatches are all over is quiet. -/
theorem released_quiet (host : ProcessHost) (relayEnabled : Bool) {choices : List EngineChoice}
    {engine : Engine} (run : Run (TimelySteps host) (build relayEnabled) choices engine)
    (ident : String) (ended : engine.Over ident) : engine.Inactive ident := by
  -- A key whose dispatches are all over has a last key-up, after which it stays quiet.
  have quiet : engine.Quiet := run.invariant Quiet
    (fun stepped before => before.step stepped) (build_quiet relayEnabled)
  obtain ⟨up, entry, found, serves, finished, downs⟩ := ended
  have last : ∀ (down : Nat) (other : EngineTask), engine.tasks[down]? = some other →
      other.Serves .keyDown ident → down < up := fun down other foundDown servesDown =>
    (downs down other foundDown servesDown).1
  refine ⟨?_, ?_, quiet.processes.not_repeating ident⟩
  · by_contra active
    exact quiet.relays ident active ⟨up, entry, found, serves, by simp [finished,
      TaskStage.isReleased], last⟩
  · rw [Ticker.isActive, Option.isSome_eq_false_iff, Option.isNone_iff_eq_none]
    by_contra registered
    exact quiet.loops ident registered ⟨up, entry, found, serves, rfl, last⟩

/-- Whether a task is the key-up that ends an identifier's dispatches. -/
private def overAt (engine : Engine) (ident : String) (up : Nat) : Bool :=
  (engine.tasks[up]?.any fun entry => entry.role.kind == some .keyUp &&
    entry.identifier == some ident && entry.stage == .finished) &&
  engine.tasks.zipIdx.all fun (entry, index) => entry.role.kind != some .keyDown ||
    entry.identifier != some ident || decide (index < up) && entry.stage == .finished

/-- What the check finds is true. -/
private theorem over_of_overAt {engine : Engine} {ident : String} {up : Nat}
    (checked : engine.overAt ident up = true) : engine.Over ident := by
  -- The check looks for the key-up, and then at every dispatch of a key-down.
  obtain ⟨upChecked, downChecked⟩ := Bool.and_eq_true_iff.mp checked
  obtain ⟨entry, found, ended⟩ := (Option.any_eq_true _ _).mp upChecked
  simp only [Bool.and_eq_true, beq_iff_eq] at ended
  refine ⟨up, entry, found, ⟨ended.1.1, ended.1.2⟩, ended.2, ?_⟩
  intro down other foundDown serves
  have member : (other, down) ∈ engine.tasks.zipIdx :=
    List.mk_mem_zipIdx_iff_getElem?.mpr foundDown
  have checkedDown := List.all_eq_true.mp downChecked _ member
  simp only [serves.1, serves.2] at checkedDown
  simpa using checkedDown

/-- Surroundings that name no shell. -/
def plainHost : ProcessHost := ⟨none, id⟩

/-- A held action that relays a key. -/
private def relayed : List Effect := [.exec (.relay ⟨"b", .focused⟩)]

/-- A key-down that is injected for a registered identifier, up to the call of its held action. -/
private def pressedKey : List EngineChoice := [
  .register (HashMap.collect [(1, ⟨"a", ⟨∅, .a⟩⟩)]),
  .call ⟨.injected "a", .keyDown, false⟩, .resume 0 .granted,
  .resume 0 (.handled false (.queued [.untilKeyUp ⟨7⟩ none])), .resume 0 .granted]

/-- The first run of the held action, to the end of its dispatch. -/
private def firstRun : List EngineChoice := [
  .resume 0 (.script (some relayed)), .resume 0 .granted, .resume 0 .granted, .resume 0 .granted,
  .resume 0 (.refreshed false)]

/-- The key-up, which finds no loop to wait for. -/
private def lifted : List EngineChoice := [.call ⟨.injected "a", .keyUp, false⟩]

/-- The key-up after a loop was started, which waits for its end. -/
private def awaited : List EngineChoice := lifted ++ [.loopEnd 0, .resume 1 .granted]

/-- Whether a step begins something that outlasts it. -/
private def beginning (engine : Engine) : EngineChoice → Bool
  | .resume task answer =>
    (engine.tasks[task]?.bind fun entry => engine.resumeTask plainHost entry answer).any
      fun resumed => resumed.operations.any Operation.begins
  | _ => false

/-- Steps in which something held begins only while no key-up was dispatched yet. -/
private def timelyStep (engine : Engine) (choice : EngineChoice) : Option Engine :=
  if engine.beginning choice && engine.tasks.any fun entry => entry.role.kind == some .keyUp then
    none
  else engine.step plainHost choice

/-- Such steps are timely. -/
private theorem timelyStep_timely {engine next : Engine} {choice : EngineChoice}
    (stepped : engine.timelyStep choice = some next) :
    engine.TimelySteps plainHost choice next := by
  unfold timelyStep at stepped
  split at stepped
  · cases stepped
  · rename_i early
    refine ⟨stepped, ?_⟩
    rintro task answer entry resumed rfl found went operation member
    -- Whatever begins does so without any key-up among the tasks.
    have noUp : ∀ passed ident, operation.begins → ¬ engine.UpIsLast passed ident := by
      intro passed ident begun last
      obtain ⟨up, other, foundUp, serves, _⟩ := last
      apply early
      rw [Bool.and_eq_true]
      constructor
      · simp only [beginning, found, Option.bind_some, went, Option.any_some]
        exact List.any_eq_true.mpr ⟨operation, member, begun⟩
      · apply List.any_eq_true.mpr
        exact ⟨other, List.mem_of_getElem? foundUp, by simp [serves.1]⟩
    exact ⟨fun begun => noUp _ _ (Operation.begins_of (.inl begun)),
      fun started => noUp _ _ (Operation.begins_of (.inr started))⟩

/-- The same where a loop is started and stopped by the key-up. -/
theorem released_quiet_awaited :
    ∃ choices engine, Run (TimelySteps plainHost) (build true) choices engine ∧
      engine.Over "a" ∧ engine.Inactive "a" := by
  obtain ⟨engine, seen, run⟩ := Run.of_foldlM timelyStep (build true)
    (pressedKey ++ firstRun ++ awaited) (fun engine => engine.overAt "a" 1) true (by decide +kernel)
  have timely := run.mono timelyStep_timely
  exact ⟨_, engine, timely, over_of_overAt seen,
    released_quiet plainHost true timely "a" (over_of_overAt seen)⟩

/-- A first run that begins its relay after the key-up leaves it active for good. -/
theorem released_quiet_late :
    ∃ choices engine, Run (Steps plainHost) (build true) choices engine ∧
      engine.Over "a" ∧ ¬ engine.Inactive "a" := by
  obtain ⟨engine, seen, run⟩ := Run.of_foldlM (step plainHost) (build true)
    (pressedKey ++ lifted ++ firstRun)
    (fun engine => (engine.overAt "a" 1, (engine.relay.active.lookup "a").isSome))
    (true, true) (by decide +kernel)
  simp only [Prod.mk.injEq] at seen
  refine ⟨_, engine, run, over_of_overAt seen.1, fun inactive => ?_⟩
  rw [inactive.1] at seen
  cases seen.2

end Engine

end Hotki

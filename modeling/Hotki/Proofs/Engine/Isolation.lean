import Hotki.Proofs.Engine.ActionLoops
import Hotki.Proofs.Engine.Released

/-! Gestures of one identifier keep apart as long as their key-up outlives their tasks. -/

namespace Hotki

open Base

namespace Engine

/-- A task is a key-down of an identifier that reached the key tracker before a given number. -/
def Earlier (engine : Engine) (ident : String) (number task : Nat) : Prop :=
  ∃ entry own, engine.tasks[task]? = some entry ∧ entry.Serves .keyDown ident ∧
    entry.entry = some own ∧ own < number

/-- A loop belongs to a gesture of an identifier that began before a given number. -/
def LoopOf (engine : Engine) (ident : String) (number : Nat) (loop : TickerTask ActionLoop) :
    Prop :=
  loop.id = ident ∧ engine.Earlier ident number loop.callback.starter

/-- A task is a tick of such a gesture. -/
def TickOf (engine : Engine) (ident : String) (number : Nat) (entry : EngineTask) : Prop :=
  ∃ index loop, entry.role = .tick index ∧ engine.actionRepeater.tasks[index]? = some loop ∧
    engine.LoopOf ident number loop

/-- A key-up of an identifier with the number under which it reached the key tracker. -/
def UpAt (engine : Engine) (ident : String) (number up : Nat) (entry : EngineTask) : Prop :=
  engine.tasks[up]? = some entry ∧ entry.Serves .keyUp ident ∧ entry.entry = some number

/-- No tick of the gestures before a number is unfinished, and no cancelled loop is yet to end. -/
def Settled (engine : Engine) (ident : String) (number : Nat) : Prop :=
  (∀ entry ∈ engine.tasks, engine.TickOf ident number entry → entry.stage = .finished) ∧
    ∀ loop ∈ engine.actionRepeater.tasks, engine.LoopOf ident number loop → loop.cancelled →
      loop.ended

/-- Steps in which a key-up comes after its key-downs are over, and is itself over only after
every tick and every cancelled loop of the gestures it ends. A key-down counts whether or not it
holds an action: the refresh at its end may still clear every loop, a later gesture's too. -/
def SettledSteps (host : ProcessHost) (engine : Engine) (choice : EngineChoice) (next : Engine) :
    Prop :=
  engine.Steps host choice next ∧
    (∀ ident up entry, next.UpAt ident engine.entries up entry →
      ∀ other ∈ engine.tasks, other.Serves .keyDown ident → other.stage = .finished) ∧
    ∀ ident number up entry, next.UpAt ident number up entry → entry.stage = .finished →
      (∀ before, engine.tasks[up]? = some before → before.stage ≠ .finished) →
      next.Settled ident number

/-- What holds in every state of a run of settled steps. -/
structure Isolated (engine : Engine) : Prop where
  sound : engine.Sound
  counted : ∀ entry ∈ engine.tasks, ∀ number, entry.entry = some number → number < engine.entries
  registered : engine.actionRepeater.Registered
  /-- The key-downs before a key-up are over. -/
  downs : ∀ ident number up entry, engine.UpAt ident number up entry → ∀ (down : Nat)
    (other : EngineTask), engine.Earlier ident number down → engine.tasks[down]? = some other →
    other.stage = .finished
  /-- The loops of the gestures before a key-up are cancelled. -/
  loops : ∀ ident number up entry, engine.UpAt ident number up entry →
    ∀ loop ∈ engine.actionRepeater.tasks, engine.LoopOf ident number loop → loop.cancelled
  /-- Once a key-up is over, so are the loops and the ticks of the gestures before it. -/
  settled : ∀ ident number up entry, engine.UpAt ident number up entry →
    entry.stage = .finished → engine.Settled ident number

/-- A key-down that is earlier after a step was so before it. -/
theorem Steps.earlier {host : ProcessHost} {engine next : Engine} {choice : EngineChoice}
    (stepped : engine.Steps host choice next) (sound : engine.Sound) {ident : String}
    {number task : Nat} (bound : number ≤ engine.entries)
    (earlier : next.Earlier ident number task) : engine.Earlier ident number task := by
  obtain ⟨after, own, found, serves, numbered, before⟩ := earlier
  rcases stepped.numbered sound found numbered with
    ⟨same, _⟩ | ⟨entry, foundBefore, numberedBefore, known, kept⟩
  · omega
  · refine ⟨entry, own, foundBefore, ⟨?_, known.trans serves.2⟩, numberedBefore, before⟩
    rw [← kept.role]
    exact serves.1

/-- What a loop is like that a step starts: its task moves in the step. -/
def StartedIn (host : ProcessHost) (engine : Engine) (choice : EngineChoice)
    (loop : TickerTask ActionLoop) : Prop :=
  ∃ answer entry resumed, choice = .resume loop.callback.starter answer ∧
    engine.tasks[loop.callback.starter]? = some entry ∧
    engine.resumeTask host entry answer = some resumed

/-- Every step keeps the loops, adding only those the moving task starts. -/
theorem Steps.loops {host : ProcessHost} {engine next : Engine} {choice : EngineChoice}
    (stepped : engine.Steps host choice next) :
    engine.actionRepeater.Evolves (StartedIn host engine choice) next.actionRepeater := by
  cases choice with
  | call request =>
    cases stepped
    simp only [spawn, carryOut_loops]
    have evolved := Operation.onLoops_evolves engine.tasks.length
      ((EngineTask.moveTo ⟨.dispatch request, .resolving, none, none⟩ engine.entries
        (engine.beginDispatch request)).identifier.getD "")
      (engine.beginDispatch request).operations engine.actionRepeater
    refine ⟨evolved.kept, fun index later found => (evolved.origin index later found).imp_right ?_⟩
    -- A dispatch that is only being started starts no loop.
    rintro ⟨⟨held, member⟩, _⟩
    rcases engine.beginDispatch_resolves request with waits | resolves
    · rw [waits] at member
      cases member
    · cases resolves.begins _ member
  | resume task answer =>
    obtain ⟨entry, resumed, found, went, same⟩ := step_resume stepped
    subst same
    simp only [advance, carryOut_loops]
    have evolved := Operation.onLoops_evolves task
      ((entry.moveTo engine.entries resumed).identifier.getD "") resumed.operations
      engine.actionRepeater
    refine ⟨evolved.kept, fun index later at_ => (evolved.origin index later at_).imp_right ?_⟩
    rintro ⟨_, _, starter⟩
    subst starter
    exact ⟨answer, entry, resumed, rfl, found, went⟩
  | tick loop =>
    obtain ⟨entry, _, _, same | same⟩ := tickLoop_cases stepped
    · subst same
      exact .refl _
    · subst same
      exact Ticker.update_evolves _ _ _ fun _ =>
        ⟨rfl, rfl, fun cancelled => cancelled, fun ended => ended⟩
  | loopEnd loop =>
    obtain ⟨ticker, finished, same⟩ := Option.map_eq_some_iff.mp stepped
    subst same
    obtain ⟨entry, _, rest⟩ := Option.bind_eq_some_iff.mp finished
    split at rest
    · cases rest
      exact Ticker.update_evolves _ _ _ fun _ =>
        ⟨rfl, rfl, fun cancelled => cancelled, fun _ => rfl⟩
    · cases rest
  | processEnd run =>
    obtain ⟨_, _, same⟩ := Option.map_eq_some_iff.mp stepped
    subst same
    exact .refl _
  | register bindings =>
    cases stepped
    exact .refl _
  | stopRepeats =>
    cases stepped
    exact engine.actionRepeater.clear_evolves
  | releaseRelays =>
    cases stepped
    exact .refl _

/-- Every step leaves every live loop registered. -/
theorem Steps.registered {host : ProcessHost} {engine next : Engine} {choice : EngineChoice}
    (stepped : engine.Steps host choice next) (registered : engine.actionRepeater.Registered) :
    next.actionRepeater.Registered := by
  -- One case for each choice.
  cases choice with
  | call request =>
    cases stepped
    simp only [spawn, carryOut_loops]
    exact Operation.onLoops_registered _ _ _ registered
  | resume task answer =>
    obtain ⟨entry, resumed, _, _, same⟩ := step_resume stepped
    subst same
    simp only [advance, carryOut_loops]
    exact Operation.onLoops_registered _ _ _ registered
  | tick loop =>
    obtain ⟨entry, _, _, same | same⟩ := tickLoop_cases stepped
    · subst same
      exact registered
    · subst same
      exact registered.update loop fun _ => ⟨rfl, rfl⟩
  | loopEnd loop =>
    obtain ⟨ticker, finished, same⟩ := Option.map_eq_some_iff.mp stepped
    subst same
    obtain ⟨entry, _, rest⟩ := Option.bind_eq_some_iff.mp finished
    split at rest
    · cases rest
      exact registered.update loop fun _ => ⟨rfl, rfl⟩
    · cases rest
  | processEnd run =>
    obtain ⟨_, _, same⟩ := Option.map_eq_some_iff.mp stepped
    subst same
    exact registered
  | register bindings =>
    cases stepped
    exact registered
  | stopRepeats =>
    cases stepped
    exact registered.clear
  | releaseRelays =>
    cases stepped
    exact registered

/-- The key-up that reaches the key tracker in a step leaves no loop registered. -/
theorem Steps.stopped {host : ProcessHost} {engine next : Engine} {choice : EngineChoice}
    (stepped : engine.Steps host choice next) (isolated : engine.Isolated) {ident : String}
    {up : Nat} {entry : EngineTask} (reached : next.UpAt ident engine.entries up entry) :
    next.actionRepeater.entries.lookup ident = none := by
  obtain ⟨found, serves, numbered⟩ := reached
  -- Every other task has a smaller number.
  have fresh : ∀ older, engine.tasks[up]? = some older → older.entry ≠ some engine.entries := by
    intro older foundOlder same
    exact absurd (isolated.counted older (List.mem_of_getElem? foundOlder) _ same) (by omega)
  cases stepped.tasks with
  | same tasks =>
    rw [tasks] at found
    exact absurd numbered (fresh entry found)
  | spawned request =>
    simp only [spawn, carryOut_tasks, carryOut_loops] at found ⊢
    rcases Nat.lt_or_ge up engine.tasks.length with old | new
    · rw [List.getElem?_append_left old] at found
      exact absurd numbered (fresh entry found)
    · rw [List.getElem?_append_right new] at found
      obtain ⟨_, same⟩ := List.getElem?_eq_some_iff.mp found
      rw [List.getElem_singleton] at same
      subst same
      rw [serves.2]
      rcases engine.beginDispatch_resolves request with waits | resolves
      · rw [waits] at numbered
        cases numbered
      · exact Operation.onLoops_stopped _ (resolves.stops (Option.some.inj serves.1))
          fun operation member =>
            (Operation.begins_false (resolves.begins operation member)).2
  | ticked loop looped _ _ _ tasks =>
    rw [tasks] at found
    rcases Nat.lt_or_ge up engine.tasks.length with old | new
    · rw [List.getElem?_append_left old] at found
      exact absurd numbered (fresh entry found)
    · rw [List.getElem?_append_right new] at found
      obtain ⟨_, same⟩ := List.getElem?_eq_some_iff.mp found
      rw [List.getElem_singleton] at same
      subst same
      cases numbered
  | advanced moved answer before resumed _ foundMoved went =>
    simp only [advance, carryOut_tasks, carryOut_loops] at found ⊢
    by_cases same : up = moved
    · subst same
      rw [List.getElem?_set_self (List.getElem?_eq_some_iff.mp foundMoved).1] at found
      cases found
      have sound := isolated.sound before (List.mem_of_getElem? foundMoved)
      have unknown : before.identifier = none := by
        by_contra known
        have unreached := engine.resumeTask_reached sound went known
        apply fresh before foundMoved
        simpa [EngineTask.moveTo, unreached] using numbered
      obtain ⟨request, role, resolves⟩ := resumeTask_resolves sound went unknown serves.2
      have up : request.kind = .keyUp := by
        have kind := serves.1
        simp only [EngineTask.moveTo, role, TaskRole.kind] at kind
        exact Option.some.inj kind
      rw [serves.2]
      exact Operation.onLoops_stopped _ (resolves.stops up) fun operation member =>
        (Operation.begins_false (resolves.begins operation member)).2
    · rw [List.getElem?_set_ne (Ne.symm same)] at found
      exact absurd numbered (fresh entry found)

/-- A key-up after a step was one before it, or reaches the key tracker in it. -/
theorem Steps.upAt {host : ProcessHost} {engine next : Engine} {choice : EngineChoice}
    (stepped : engine.Steps host choice next) (sound : engine.Sound) {ident : String}
    {number up : Nat} {entry : EngineTask} (after : next.UpAt ident number up entry) :
    (number = engine.entries ∧
      ∀ before, engine.tasks[up]? = some before → before.stage ≠ .finished) ∨
      ∃ before, engine.UpAt ident number up before := by
  obtain ⟨found, serves, numbered⟩ := after
  rcases stepped.numbered sound found numbered with
    ⟨same, _, unfinished⟩ | ⟨before, foundBefore, numberedBefore, known, kept⟩
  · exact .inl ⟨same, unfinished⟩
  · refine .inr ⟨before, foundBefore, ⟨?_, known.trans serves.2⟩, numberedBefore⟩
    rw [← kept.role]
    exact serves.1

/-- Every settled step keeps gestures apart. -/
theorem Isolated.step {host : ProcessHost} {engine next : Engine} {choice : EngineChoice}
    (stepped : engine.SettledSteps host choice next) (isolated : engine.Isolated) :
    next.Isolated := by
  obtain ⟨stepped, after, settles⟩ := stepped
  have sound := isolated.sound
  have evolved := stepped.loops
  have registered := stepped.registered isolated.registered
  -- Whether the key-up was there before or only comes now, its key-downs are over already.
  have ordered : ∀ ident number up entry, next.UpAt ident number up entry →
      number ≤ engine.entries ∧ ∀ (down : Nat) (other : EngineTask),
        next.Earlier ident number down → engine.tasks[down]? = some other →
        other.stage = .finished := by
    intro ident number up entry reached
    rcases stepped.upAt sound reached with ⟨same, _⟩ | ⟨before, upBefore⟩
    · subst same
      refine ⟨Nat.le_refl _, fun down other earlier found => ?_⟩
      obtain ⟨older, _, foundOlder, serves, _⟩ := stepped.earlier sound (Nat.le_refl _) earlier
      cases foundOlder.symm.trans found
      exact after ident up entry reached other (List.mem_of_getElem? found) serves
    · have bound := (isolated.counted before (List.mem_of_getElem? upBefore.1) _ upBefore.2.2).le
      exact ⟨bound, fun down other earlier found =>
        isolated.downs ident number up before upBefore down other
          (stepped.earlier sound bound earlier) found⟩
  -- So a loop of theirs was there before, since only a task that moves can start one.
  have old : ∀ ident number up entry, next.UpAt ident number up entry →
      ∀ (index : Nat) later, next.actionRepeater.tasks[index]? = some later →
      next.LoopOf ident number later → ∃ loop, engine.actionRepeater.tasks[index]? = some loop ∧
        LoopKept loop later ∧ engine.LoopOf ident number loop := by
    intro ident number up entry reached index later found ofGesture
    obtain ⟨bound, finished⟩ := ordered ident number up entry reached
    rcases evolved.origin index later found with ⟨loop, foundLoop, kept⟩ | started
    · refine ⟨loop, foundLoop, kept, kept.same.symm.trans ofGesture.1, ?_⟩
      rw [← kept.starter]
      exact stepped.earlier sound bound ofGesture.2
    · obtain ⟨answer, starter, resumed, _, foundStarter, went⟩ := started
      exact absurd (finished _ starter ofGesture.2 foundStarter)
        (engine.resumeTask_finished went)
  have cancelled : ∀ ident number up entry, next.UpAt ident number up entry →
      ∀ loop ∈ next.actionRepeater.tasks, next.LoopOf ident number loop → loop.cancelled := by
    intro ident number up entry reached later member ofGesture
    obtain ⟨index, found⟩ := List.mem_iff_getElem?.mp member
    rcases stepped.upAt sound reached with ⟨same, _⟩ | ⟨before, upBefore⟩
    · -- The key-up that comes now has stopped the only loop that was alive.
      subst same
      by_contra live
      have entered := registered index later found (by simpa using live)
      rw [ofGesture.1, stepped.stopped isolated reached] at entered
      cases entered
    · obtain ⟨loop, foundLoop, kept, ofBefore⟩ :=
        old ident number up entry reached index later found ofGesture
      exact kept.cancelled (isolated.loops ident number up before upBefore loop
        (List.mem_of_getElem? foundLoop) ofBefore)
  -- What is left are the numbers, the key-downs, and what an ended key-up leaves.
  refine ⟨Steps.sound stepped sound, ?_, registered, ?_, cancelled, ?_⟩
  · intro entry member number numbered
    obtain ⟨task, found⟩ := List.mem_iff_getElem?.mp member
    rcases stepped.numbered sound found numbered with
      ⟨same, counts, _⟩ | ⟨before, foundBefore, numberedBefore, _, _⟩
    · omega
    · have bound := isolated.counted before (List.mem_of_getElem? foundBefore) _ numberedBefore
      have grown := stepped.entries_le
      omega
  · intro ident number up entry reached down other earlier found
    obtain ⟨bound, finished⟩ := ordered ident number up entry reached
    obtain ⟨older, _, foundOlder, _⟩ := stepped.earlier sound bound earlier
    obtain ⟨later, foundLater, kept⟩ := stepped.task_kept sound foundOlder
    cases foundLater.symm.trans found
    exact kept.finished (finished down older earlier foundOlder)
  · intro ident number up entry reached finished
    by_cases before : ∃ older, engine.tasks[up]? = some older ∧ older.stage = .finished
    · -- A key-up that was over before has left nothing that could still tick.
      obtain ⟨older, foundOlder, finishedBefore⟩ := before
      rcases stepped.upAt sound reached with ⟨_, unfinished⟩ | ⟨same, upBefore⟩
      · exact absurd finishedBefore (unfinished older foundOlder)
      cases foundOlder.symm.trans upBefore.1
      have settled := isolated.settled ident number up older upBefore finishedBefore
      have ended : ∀ loop ∈ engine.actionRepeater.tasks, engine.LoopOf ident number loop →
          loop.ended := fun loop member ofGesture =>
        settled.2 loop member ofGesture
          (isolated.loops ident number up older upBefore loop member ofGesture)
      constructor
      · intro tick member ofGesture
        obtain ⟨index, later, role, foundLater, ofLater⟩ := ofGesture
        obtain ⟨loop, foundLoop, _, ofLoop⟩ :=
          old ident number up entry reached index later foundLater ofLater
        obtain ⟨task, foundTick⟩ := List.mem_iff_getElem?.mp member
        rcases stepped.ticks sound foundTick role with
          ⟨tickBefore, foundBefore, kept⟩ | ⟨live, foundLive, running⟩
        · refine kept.finished (settled.1 tickBefore (List.mem_of_getElem? foundBefore) ?_)
          exact ⟨index, loop, kept.role.symm.trans role, foundLoop, ofLoop⟩
        -- A tick can only be new if its loop is alive, and this one has ended.
        · cases foundLoop.symm.trans foundLive
          rw [ended loop (List.mem_of_getElem? foundLoop) ofLoop] at running
          cases running
      · intro later member ofLater _
        obtain ⟨index, foundLater⟩ := List.mem_iff_getElem?.mp member
        obtain ⟨loop, foundLoop, kept, ofLoop⟩ :=
          old ident number up entry reached index later foundLater ofLater
        exact kept.ended (ended loop (List.mem_of_getElem? foundLoop) ofLoop)
    -- A key-up that is only now over is what the condition on the step is about.
    · exact settles ident number up entry reached finished fun older foundOlder ended =>
        before ⟨older, foundOlder, ended⟩

/-- No gesture has begun before any dispatch. -/
theorem build_isolated (relayEnabled : Bool) : (build relayEnabled).Isolated where
  sound entry member := by cases member
  counted entry member := by cases member
  registered index loop found := by cases found
  downs ident number up entry reached := by cases reached.1
  loops ident number up entry reached := by cases reached.1
  settled ident number up entry reached := by cases reached.1

/-- A task runs code of a gesture that began before a given number: its key-down or a tick. -/
def CodeOf (engine : Engine) (ident : String) (number task : Nat) : Prop :=
  engine.Earlier ident number task ∨
    ∃ entry, engine.tasks[task]? = some entry ∧ engine.TickOf ident number entry

/-- What a step does not do on behalf of the gestures before a number: it applies no effect of
their ticks, and their code leaves the repeat loops of later gestures alone. -/
structure Spares (engine : Engine) (ident : String) (number : Nat) (choice : EngineChoice)
    (next : Engine) : Prop where
  effects : ∀ task entry effect rest answer, engine.tasks[task]? = some entry →
    engine.TickOf ident number entry → entry.stage = .applying (effect :: rest) →
    choice ≠ .resume task answer
  loops : ∀ task answer, choice = .resume task answer → engine.CodeOf ident number task →
    ∀ (index : Nat) loop, engine.actionRepeater.tasks[index]? = some loop → loop.id = ident →
      ¬ engine.Earlier ident number loop.callback.starter →
      next.actionRepeater.tasks[index]? = some loop ∧
        (engine.actionRepeater.entries.lookup ident = some index →
          next.actionRepeater.entries.lookup ident = some index)

/-- Where key-ups come after their key-downs and outlast the ticks of the gestures they end, no
code of an ended gesture does anything to a later one. -/
theorem gestures_isolated (host : ProcessHost) (relayEnabled : Bool) {choices : List EngineChoice}
    {engine next : Engine} {choice : EngineChoice}
    (run : Run (SettledSteps host) (build relayEnabled) choices engine)
    (stepped : engine.Steps host choice next) (ident : String) (number up : Nat)
    (entry : EngineTask) (reached : engine.UpAt ident number up entry)
    (ended : entry.stage = .finished) : engine.Spares ident number choice next := by
  have isolated : engine.Isolated := run.invariant Isolated
    (fun stepped before => before.step stepped) (build_isolated relayEnabled)
  have settled := isolated.settled ident number up entry reached ended
  -- Whatever belongs to the ended gestures is finished, and what is finished does not move.
  have finished : ∀ task other, engine.tasks[task]? = some other →
      engine.CodeOf ident number task → other.stage = .finished := by
    rintro task other found (earlier | ⟨tick, foundTick, ofGesture⟩)
    · exact isolated.downs ident number up entry reached task other earlier found
    · cases foundTick.symm.trans found
      exact settled.1 other (List.mem_of_getElem? found) ofGesture
  constructor
  · intro task tick effect rest answer found ofGesture applying _
    rw [settled.1 tick (List.mem_of_getElem? found) ofGesture] at applying
    cases applying
  · intro task answer same code
    subst same
    obtain ⟨other, resumed, found, went, _⟩ := step_resume stepped
    exact absurd (finished task other found code) (engine.resumeTask_finished went)

/-- Whether no key-up reaches the key tracker in a step while a key-down is unfinished. -/
private def orderly (engine next : Engine) : Bool :=
  (next.tasks.all fun entry =>
    entry.role.kind != some .keyUp || entry.entry != some engine.entries) ||
  engine.tasks.all fun entry => entry.role.kind != some .keyDown || entry.stage == .finished

/-- Whether no key-up is over while a tick is unfinished or a cancelled loop is yet to end. -/
private def outlasted (next : Engine) : Bool :=
  (next.tasks.all fun entry => entry.role.kind != some .keyUp || entry.stage != .finished) ||
  (next.tasks.all fun entry => entry.role.kind != none || entry.stage == .finished) &&
    next.actionRepeater.tasks.all fun loop => !loop.cancelled || loop.ended

/-- Steps that pass both checks. -/
private def settledStep (engine : Engine) (choice : EngineChoice) : Option Engine :=
  (engine.step plainHost choice).filter fun next => engine.orderly next && next.outlasted

/-- Such steps are settled. -/
private theorem settledStep_settled {engine next : Engine} {choice : EngineChoice}
    (stepped : engine.settledStep choice = some next) :
    engine.SettledSteps plainHost choice next := by
  -- The checks look at every task, and so at each one that matters.
  obtain ⟨stepped, checked⟩ := Option.filter_eq_some_iff.mp stepped
  obtain ⟨ordered, outlasts⟩ := Bool.and_eq_true_iff.mp checked
  refine ⟨stepped, ?_, ?_⟩
  · intro ident up entry reached other member serves
    rcases Bool.or_eq_true_iff.mp ordered with absent | finished
    · have checked := List.all_eq_true.mp absent entry (List.mem_of_getElem? reached.1)
      simp [reached.2.1.1, reached.2.2] at checked
    · have checked := List.all_eq_true.mp finished other member
      simpa [serves.1] using checked
  · intro ident number up entry reached ended _
    rcases Bool.or_eq_true_iff.mp outlasts with absent | settled
    · have checked := List.all_eq_true.mp absent entry (List.mem_of_getElem? reached.1)
      simp [reached.2.1.1, ended] at checked
    · obtain ⟨ticks, loops⟩ := Bool.and_eq_true_iff.mp settled
      constructor
      · rintro tick member ⟨index, loop, role, _⟩
        have checked := List.all_eq_true.mp ticks tick member
        simpa [role, TaskRole.kind] using checked
      · intro loop member _ cancelled
        have checked := List.all_eq_true.mp loops loop member
        simpa [cancelled] using checked

/-- The key-down of a held action without effects, with the task it runs in. -/
private def holding (task : Nat) : List EngineChoice := [
  .call ⟨.injected "a", .keyDown, false⟩, .resume task .granted,
  .resume task (.handled false (.queued [.untilKeyUp ⟨7⟩ none])), .resume task .granted,
  .resume task (.script (some [])), .resume task .granted, .resume task .granted,
  .resume task (.refreshed false)]

/-- A held action is ticked, and its key is released. -/
private def tickedOnce (between : List EngineChoice) : List EngineChoice :=
  .register (HashMap.collect [(1, ⟨"a", ⟨∅, .a⟩⟩)]) :: holding 0 ++ .tick 0 :: between ++
    [.call ⟨.injected "a", .keyUp, false⟩, .loopEnd 0, .resume 2 .granted]

/-- The key-up of the first gesture, once it is over. -/
private def firstUp : EngineTask :=
  ⟨.dispatch ⟨.injected "a", .keyUp, false⟩, .finished, some "a", some 1⟩

/-- The key-down of the first gesture, once it is over. -/
private def firstDown : EngineTask :=
  ⟨.dispatch ⟨.injected "a", .keyDown, false⟩, .finished, some "a", some 0⟩

/-- The tick of the first gesture, where it stands. -/
private def firstTick (stage : TaskStage) : EngineTask := ⟨.tick 0, stage, some "a", none⟩

/-- The loop of the first gesture, once it has ended. -/
private def firstLoop (running : Bool) : TickerTask ActionLoop :=
  ⟨"a", ⟨⟨⟨7⟩, none⟩, running, 0⟩, true, true⟩

/-- The loop of the second gesture. -/
private def secondLoop : TickerTask ActionLoop := ⟨"a", ⟨⟨⟨7⟩, none⟩, false, 3⟩, false, false⟩

/-- The key-down of the second gesture, once its loop is started. -/
private def secondDown : EngineTask :=
  ⟨.dispatch ⟨.injected "a", .keyDown, false⟩, .applying [], some "a", some 2⟩

/-- What stands where in a state of these runs is an earlier key-down of the identifier. -/
private theorem earlier_of_firstDown {engine : Engine} (found : engine.tasks[0]? = some firstDown) :
    engine.Earlier "a" 1 0 := ⟨firstDown, 0, found, ⟨rfl, rfl⟩, rfl, by omega⟩

/-- The same where the tick is over before the key-up, and the key is pressed again. -/
theorem gestures_isolated_again :
    ∃ choices engine next, Run (SettledSteps plainHost) (build true) choices engine ∧
      engine.Steps plainHost (.call ⟨.injected "a", .keyDown, false⟩) next ∧
      engine.UpAt "a" 1 2 firstUp ∧
      engine.Spares "a" 1 (.call ⟨.injected "a", .keyDown, false⟩) next := by
  -- The tick is over when the key-up comes, so no later press of the key loses anything.
  obtain ⟨engine, seen, run⟩ := Run.of_foldlM settledStep (build true)
    (tickedOnce [.resume 1 (.script (some [])), .resume 1 .granted])
    (fun engine => engine.tasks[2]?) (some firstUp) (by decide +kernel)
  have settled := run.mono settledStep_settled
  have reached : engine.UpAt "a" 1 2 firstUp := ⟨seen, ⟨rfl, rfl⟩, rfl⟩
  have stepped : engine.Steps plainHost (.call ⟨.injected "a", .keyDown, false⟩)
      (engine.spawn ⟨.injected "a", .keyDown, false⟩) := rfl
  exact ⟨_, engine, _, settled, stepped, reached,
    gestures_isolated plainHost true settled stepped "a" 1 2 firstUp reached rfl⟩

/-- A tick in flight when the key-up is over still applies its effects, and stops the loop of the
next gesture if it ends in an error. -/
theorem gestures_isolated_stale :
    (∃ choices engine next choice, Run (Steps plainHost) (build true) choices engine ∧
      engine.Steps plainHost choice next ∧ engine.UpAt "a" 1 2 firstUp ∧
      ∃ (task : Nat) (entry : EngineTask) (effect : Effect) (rest : List Effect)
        (answer : TaskAnswer), engine.tasks[task]? = some entry ∧
        engine.TickOf "a" 1 entry ∧ entry.stage = .applying (effect :: rest) ∧
        choice = .resume task answer) ∧
    ∃ choices engine next task answer, Run (Steps plainHost) (build true) choices engine ∧
      engine.Steps plainHost (.resume task answer) next ∧ engine.UpAt "a" 1 2 firstUp ∧
      engine.CodeOf "a" 1 task ∧
      engine.actionRepeater.entries.lookup "a" = some 1 ∧
      (∃ loop, engine.actionRepeater.tasks[1]? = some loop ∧ loop.id = "a" ∧
        ¬ engine.Earlier "a" 1 loop.callback.starter) ∧
      next.actionRepeater.entries.lookup "a" = none := by
  constructor
  · -- The script of the tick is only back once the key-up is over.
    obtain ⟨engine, seen, run⟩ := Run.of_foldlM (step plainHost) (build true)
      (tickedOnce [] ++ [.resume 1 (.script (some [.notify .info "t" "b"]))])
      (fun engine => (engine.tasks, engine.actionRepeater.tasks,
        (engine.step plainHost (.resume 1 .granted)).isSome))
      ([firstDown, firstTick (.applying [.notify .info "t" "b"]), firstUp], [firstLoop true], true)
      (by decide +kernel)
    simp only [Prod.mk.injEq] at seen
    obtain ⟨tasks, loops, moves⟩ := seen
    obtain ⟨next, stepped⟩ := Option.isSome_iff_exists.mp moves
    have down : engine.tasks[0]? = some firstDown := by rw [tasks]; rfl
    have tick : engine.tasks[1]? =
      some (firstTick (.applying [.notify .info "t" "b"])) := by rw [tasks]; rfl
    have up : engine.tasks[2]? = some firstUp := by rw [tasks]; rfl
    have loop : engine.actionRepeater.tasks[0]? = some (firstLoop true) := by rw [loops]; rfl
    exact ⟨_, engine, next, _, run, stepped, ⟨up, ⟨rfl, rfl⟩, rfl⟩, 1, _, _, _, _, tick,
      ⟨0, _, rfl, loop, rfl, earlier_of_firstDown down⟩, rfl, rfl⟩
  · -- The key is pressed again, and only then the script of the old tick fails.
    obtain ⟨engine, seen, run⟩ := Run.of_foldlM (step plainHost) (build true)
      (tickedOnce [] ++ [.call ⟨.injected "a", .keyDown, false⟩, .resume 3 .granted,
        .resume 3 (.handled false (.queued [.untilKeyUp ⟨7⟩ none])), .resume 3 .granted,
        .resume 3 (.script (some [])), .resume 3 .granted])
      (fun engine => (engine.tasks, engine.actionRepeater.tasks,
        engine.actionRepeater.entries.lookup "a",
        (engine.step plainHost (.resume 1 (.script none))).map fun next =>
          next.actionRepeater.entries.lookup "a"))
      ([firstDown, firstTick .ticking, firstUp, secondDown], [firstLoop true, secondLoop], some 1,
        some none) (by decide +kernel)
    simp only [Prod.mk.injEq] at seen
    obtain ⟨tasks, loops, entered, moves⟩ := seen
    obtain ⟨next, stepped, gone⟩ := Option.map_eq_some_iff.mp moves
    have down : engine.tasks[0]? = some firstDown := by rw [tasks]; rfl
    have tick : engine.tasks[1]? = some (firstTick .ticking) := by rw [tasks]; rfl
    have up : engine.tasks[2]? = some firstUp := by rw [tasks]; rfl
    have later : engine.tasks[3]? = some secondDown := by rw [tasks]; rfl
    have loop : engine.actionRepeater.tasks[0]? = some (firstLoop true) := by rw [loops]; rfl
    have running : engine.actionRepeater.tasks[1]? = some secondLoop := by rw [loops]; rfl
    refine ⟨_, engine, next, 1, _, run, stepped, ⟨up, ⟨rfl, rfl⟩, rfl⟩, .inr ⟨_, tick, 0, _, rfl,
      loop, rfl, earlier_of_firstDown down⟩, entered, ⟨secondLoop, running, rfl, ?_⟩, gone⟩
    -- The second key-down reached the key tracker after the key-up.
    rintro ⟨entry, own, found, _, numbered, before⟩
    cases later.symm.trans found
    cases numbered
    omega

end Engine

end Hotki

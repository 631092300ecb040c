import Hotki.Proofs.Engine.KeyEffects
import Hotki.Proofs.Engine.Released

/-! The press feedback of the HUD: every press it is told of is followed by its release. -/

namespace Hotki

open Base

/-- A message telling the HUD of a press or a release, with the identifier it is about. -/
structure HudKeyState where
  identifier : String
  chord : Chord
  pressed : Bool
  deriving DecidableEq

/-- The release the HUD is told of by a task that enters a stage. -/
def TaskStage.releases : TaskStage → Option Chord
  | .notifying chord => some chord
  | _ => none

/-- What the HUD is told when a task under an identifier gets as far as a resumption. -/
def Resumption.hud (ident : String) (resumed : Resumption) : List HudKeyState :=
  ((resumed.operations.filterMap Operation.told).map fun chord => ⟨ident, chord, true⟩) ++
    (resumed.stage.releases.map fun chord => ⟨ident, chord, false⟩).toList

/-- What the HUD is told in a step. -/
def Engine.hud (host : ProcessHost) (engine : Engine) : EngineChoice → List HudKeyState
  | .call request =>
    let begun := engine.beginDispatch request
    begun.hud (begun.reached.getD "")
  | .resume task answer =>
    (engine.tasks[task]?.bind fun entry =>
      (engine.resumeTask host entry answer).map fun resumed =>
        resumed.hud ((resumed.reached.or entry.identifier).getD "")).getD []
  | _ => []

/-- Steps that record what the HUD is told, and in which a dispatch reaches the key tracker only
after the other dispatches of its identifier are over. -/
def SerialSteps (host : ProcessHost) (state : List HudKeyState × Engine) (choice : EngineChoice)
    (next : List HudKeyState × Engine) : Prop :=
  state.2.Steps host choice next.2 ∧ next.1 = state.1 ++ state.2.hud host choice ∧
    ∀ (task : Nat) (entry : EngineTask) (ident : String), next.2.tasks[task]? = some entry →
      entry.entry = some state.2.entries → entry.identifier = some ident →
      ∀ other ∈ state.2.tasks, other.role.kind ≠ none → other.identifier = some ident →
        other.stage = .finished

/-- What the HUD was told of an identifier. -/
def messagesOf (log : List HudKeyState) (ident : String) : List (Chord × Bool) :=
  (log.filter fun message => message.identifier == ident).map fun message =>
    (message.chord, message.pressed)

/-- Presses of chords, each followed by its release. -/
def pairsOf (chords : List Chord) : List (Chord × Bool) :=
  chords.flatMap fun chord => [(chord, true), (chord, false)]

/-- The HUD is owed a release: the key is held, or its release is awaiting the loop it stopped. -/
def Engine.Owes (engine : Engine) (ident : String) (chord : Chord) : Prop :=
  (∃ held, engine.keyTracker.lookup ident = some held ∧ held.pressNotified = true ∧
    held.chord = chord) ∨
  ∃ entry ∈ engine.tasks, entry.Serves .keyUp ident ∧
    ∃ loop, entry.stage = .releasing loop (some chord)

/-- Whether a task in a stage neither gives feedback for a press nor for a release. -/
def TaskStage.calm : TaskStage → Bool
  | .handling _ true | .releasing _ _ | .notifying _ => false
  | _ => true

/-- Whether a resumption tells the HUD nothing, now or from the stage it leads to. -/
def Resumption.calm (resumed : Resumption) : Bool :=
  (resumed.operations.all fun operation => operation.told.isNone) && resumed.stage.calm

/-- Operations that tell nothing may be put before a calm resumption. -/
theorem Resumption.calm_after {resumed : Resumption} {operations : List Operation}
    (untold : (operations.all fun operation => operation.told.isNone) = true)
    (calm : resumed.calm = true) : (resumed.after operations).calm = true := by
  obtain ⟨quiet, stage⟩ := Bool.and_eq_true_iff.mp calm
  simp only [Resumption.calm, Resumption.after, List.all_append, untold, quiet, stage,
    Bool.and_self]

section Calm

variable (engine : Engine) (role : TaskRole) (ident : String)

/-- A task whose queue is over tells the HUD nothing. -/
theorem Engine.queueOver_calm (stop : Bool) : (engine.queueOver role ident stop).calm = true := by
  cases role with
  | dispatch request => rfl
  | tick loop =>
    simp only [queueOver]
    split
    · split <;> rfl
    · rfl

/-- A task whose queue failed tells the HUD nothing. -/
theorem Engine.queueFailed_calm : (engine.queueFailed role ident).calm = true := by
  cases role with
  | dispatch request => rfl
  | tick loop => exact engine.queueOver_calm _ ident true

/-- A task that has cleared everything tells the HUD nothing. -/
theorem Engine.afterClearing_calm (reloading : Bool) :
    (engine.afterClearing role ident reloading).calm = true := by
  unfold afterClearing
  split
  · exact engine.queueOver_calm role ident true
  · rfl

/-- A task whose refresh changed bindings tells the HUD nothing. -/
theorem Engine.bindingsChanged_calm (reloading : Bool) :
    (engine.bindingsChanged role ident reloading).calm = true := by
  unfold bindingsChanged
  split
  · exact Resumption.calm_after rfl (engine.afterClearing_calm role ident reloading)
  · rfl

/-- A task tells the HUD nothing after an effect that does not. -/
theorem Engine.afterEffect_calm {next : TaskStage} (stage : next.calm = true)
    {held : HeldAction → Option TaskStage}
    (calling : ∀ action stage, held action = some stage → stage.calm = true)
    {outcome : EffectOutcome}
    (untold : (outcome.operations.all fun operation => operation.told.isNone) = true)
    {resumed : Resumption}
    (went : engine.afterEffect role ident next held outcome = some resumed) :
    resumed.calm = true := by
  -- Whatever the outcome, a task goes on with its queue or is over, and tells the HUD of neither.
  cases outcome with
  | applied operations =>
    cases went
    exact Bool.and_eq_true_iff.mpr ⟨untold, stage⟩
  | terminal operations =>
    cases went
    exact Resumption.calm_after untold (engine.queueOver_calm role ident true)
  | failed operations =>
    cases went
    exact Resumption.calm_after untold (engine.queueFailed_calm role ident)
  | holding action =>
    obtain ⟨stage, found, same⟩ := Option.map_eq_some_iff.mp went
    subst same
    exact Bool.and_eq_true_iff.mpr ⟨rfl, calling action stage found⟩
  | reloaded changed operations =>
    cases went
    apply Resumption.calm_after untold
    split
    · exact engine.bindingsChanged_calm role ident true
    · exact engine.queueOver_calm role ident true

end Calm

/-- No effect tells the HUD of a press. -/
theorem applyEffect_told {host : ProcessHost} {run : EffectRun} {effect : Effect}
    {answer : TaskAnswer} {outcome : EffectOutcome}
    (applied : applyEffect host run effect answer = some outcome) :
    (outcome.operations.all fun operation => operation.told.isNone) = true := by
  -- Presses are told where they are handled, and effects are applied after that.
  unfold applyEffect at applied
  split at applied
  · split at applied <;> cases applied <;> rfl
  · split at applied <;> cases applied
    rfl
  · unfold applyRelay at applied
    split at applied <;> cases applied <;> rfl
  · unfold applyAction at applied
    split at applied <;> cases applied <;> rfl
  all_goals cases applied
  all_goals rfl

/-- A resolved task that is not a release tells the HUD of nothing but a press it has feedback
for. -/
theorem Engine.resumeTask_calm {engine : Engine} {host : ProcessHost} {entry : EngineTask}
    {answer : TaskAnswer} {resumed : Resumption} (resolved : entry.stage ≠ .resolving)
    (notReleasing : ∀ loop notified, entry.stage ≠ .releasing loop notified)
    (went : engine.resumeTask host entry answer = some resumed) :
    resumed.calm = true ∨ ∃ chord outcome, entry.stage = .handling chord true ∧
      resumed = handleKeyEvent chord true outcome := by
  -- Of all stages only the handling of a press and the releases tell the HUD anything.
  obtain ⟨role, stage, identifier, number⟩ := entry
  unfold resumeTask at went
  dsimp only at went resolved notReleasing
  split at went
  · exact absurd rfl resolved
  · cases went
    exact .inl rfl
  · cases went
    left
    unfold handleRepeat
    split
    · split <;> rfl
    · rfl
  · -- The press is told if there is feedback for it and the channel takes the message.
    rename_i chord feedback notified outcome
    cases went
    cases told : feedback && notified with
    | true =>
      obtain ⟨wanted, taken⟩ := Bool.and_eq_true_iff.mp told
      subst wanted
      exact .inr ⟨chord, outcome, rfl, rfl⟩
    | false =>
      left
      cases outcome <;> rfl
  · cases went
    exact .inl (engine.queueOver_calm _ _ false)
  · obtain ⟨outcome, applied, went⟩ := Option.bind_eq_some_iff.mp went
    refine .inl (engine.afterEffect_calm _ _ rfl ?_ (applyEffect_told applied) went)
    intro action stage called
    cases called
    rfl
  · cases went
    exact .inl rfl
  · cases went
    exact .inl (engine.queueOver_calm _ _ true)
  · cases went
    exact .inl (engine.queueFailed_calm _ _)
  · cases went
    left
    split <;> rfl
  · obtain ⟨outcome, applied, went⟩ := Option.bind_eq_some_iff.mp went
    refine .inl (engine.afterEffect_calm _ _ rfl ?_ (applyEffect_told applied) went)
    intro action stage called
    cases called
  · cases went
    exact .inl rfl
  · cases went
    exact .inl (engine.queueOver_calm _ _ true)
  · cases went
    exact .inl (engine.queueFailed_calm _ _)
  · cases went
    exact .inl (engine.bindingsChanged_calm _ _ false)
  · cases went
    exact .inl rfl
  · cases went
    exact .inl rfl
  -- Clearing waits for the loops to end and tells nothing.
  · split at went
    · cases went
      exact .inl (Resumption.calm_after rfl (engine.afterClearing_calm _ _ _))
    · cases went
  · exact absurd rfl (notReleasing _ _)
  · cases went
    exact .inl rfl
  · cases went
    exact .inl rfl
  · split at went
    · cases went
      exact .inl rfl
    · cases went
  · cases went

/-- What the HUD was told up to now and then further. -/
theorem messagesOf_append (log more : List HudKeyState) (ident : String) :
    messagesOf (log ++ more) ident = messagesOf log ident ++ messagesOf more ident := by
  unfold messagesOf
  rw [List.filter_append, List.map_append]

/-- What a resumption tells is about its own identifier. -/
theorem messagesOf_hud (resumed : Resumption) (ident other : String) :
    messagesOf (resumed.hud ident) other =
      if ident = other then
        (resumed.operations.filterMap Operation.told).map (fun chord => (chord, true)) ++
          (resumed.stage.releases.map fun chord => (chord, false)).toList
      else [] := by
  unfold messagesOf Resumption.hud
  by_cases same : ident = other
  · subst same
    cases resumed.stage.releases <;> simp [List.filter_map, Function.comp_def]
  · cases resumed.stage.releases <;> simp [List.filter_map, Function.comp_def, same]

/-- A calm resumption tells the HUD nothing. -/
theorem Resumption.hud_calm {resumed : Resumption} (calm : resumed.calm = true) (ident : String) :
    resumed.hud ident = [] := by
  obtain ⟨untold, stage⟩ := Bool.and_eq_true_iff.mp calm
  have quiet : resumed.operations.filterMap Operation.told = [] := by
    apply List.filterMap_eq_nil_iff.mpr
    intro operation member
    exact Option.isNone_iff_eq_none.mp (List.all_eq_true.mp untold operation member)
  have silent : resumed.stage.releases = none := by
    cases named : resumed.stage <;> first | rfl | (rw [named] at stage; cases stage)
  rw [Resumption.hud, quiet, silent]
  rfl

/-- What the HUD feedback of a held key depends on. -/
def KeyState.feedback (state : KeyState) : Chord × Bool := (state.chord, state.pressNotified)

/-- Two trackers agree on what the HUD feedback of an identifier depends on. -/
def SameFeedback (before after : KeyStateTracker) (ident : String) : Prop :=
  (after.lookup ident).map KeyState.feedback = (before.lookup ident).map KeyState.feedback

/-- What is no part of a resolution and tells nothing leaves the feedback alone. -/
theorem Operation.onTracker_feedback (ident other : String) (tracker : KeyStateTracker)
    {operation : Operation} (apart : operation.resolves = false) (untold : operation.told = none) :
    SameFeedback tracker (operation.onTracker ident tracker) other := by
  cases operation with
  | onKeyDown | onKeyUp => cases apart
  | markPressNotified chord => cases untold
  | forbidRepeat =>
    -- Forbidding repeats changes another field of the state.
    have changed := KeyStateTracker.alter_lookup tracker ident other fun state =>
      { state with repeatAllowed := false }
    show ((tracker.alter ident _).lookup other).map KeyState.feedback = _
    rw [changed]
    split
    · cases tracker.lookup other <;> rfl
    · rfl
  | _ => rfl

/-- Operations of this kind leave the feedback alone. -/
theorem Operation.onTracker_foldl_feedback (ident other : String) {operations : List Operation}
    (apart : ∀ operation ∈ operations, operation.resolves = false ∧ operation.told = none)
    (tracker : KeyStateTracker) :
    SameFeedback tracker (operations.foldl (onTracker ident) tracker) other := by
  induction operations generalizing tracker with
  | nil => rfl
  | cons operation rest ih =>
    have first := apart operation (by simp)
    exact (ih (fun later member => apart later (by simp [member])) _).trans
      (onTracker_feedback ident other tracker first.1 first.2)

/-- What holds in every state of a run of serialised dispatches. -/
structure Paired (log : List HudKeyState) (engine : Engine) : Prop where
  sound : engine.Sound
  named : ∀ entry ∈ engine.tasks, entry.Named
  /-- At most one dispatch of an identifier is unfinished. -/
  alone : ∀ (task other : Nat) (entry also : EngineTask) (ident : String),
    engine.tasks[task]? = some entry → engine.tasks[other]? = some also →
    entry.role.kind ≠ none → also.role.kind ≠ none → entry.identifier = some ident →
    also.identifier = some ident → entry.stage ≠ .finished → also.stage ≠ .finished → task = other
  /-- A press with feedback is retained and the HUD was not told of it yet. -/
  fed : ∀ entry ∈ engine.tasks, ∀ ident chord, entry.role.kind ≠ none →
    entry.identifier = some ident → entry.stage = .handling chord true →
    (engine.keyTracker.lookup ident).map KeyState.feedback = some (chord, false)
  /-- A key whose release is being handled is up. -/
  up : ∀ entry ∈ engine.tasks, ∀ ident, entry.Serves .keyUp ident → entry.stage ≠ .finished →
    engine.keyTracker.lookup ident = none
  /-- The HUD was told of presses and their releases, the last one of which it may be owed. -/
  told : ∀ ident, ∃ chords,
    (∃ chord, engine.Owes ident chord ∧
      messagesOf log ident = pairsOf chords ++ [(chord, true)]) ∨
    ((∀ chord, ¬ engine.Owes ident chord) ∧ messagesOf log ident = pairsOf chords)

/-- What is owed for a held key depends on its feedback. -/
theorem Engine.owes_held {engine : Engine} {ident : String} {chord : Chord} :
    (∃ held, engine.keyTracker.lookup ident = some held ∧ held.pressNotified = true ∧
      held.chord = chord) ↔
      (engine.keyTracker.lookup ident).map KeyState.feedback = some (chord, true) := by
  rw [Option.map_eq_some_iff]
  constructor
  · rintro ⟨held, found, notified, same⟩
    exact ⟨held, found, by rw [KeyState.feedback, notified, same]⟩
  · rintro ⟨held, found, same⟩
    exact ⟨held, found, (Prod.mk.inj same).2, (Prod.mk.inj same).1⟩

/-- What is owed stays as long as the feedback and the releases in progress do. -/
theorem Engine.owes_congr {engine next : Engine} {ident : String}
    (tracker : SameFeedback engine.keyTracker next.keyTracker ident)
    (tasks : ∀ entry : EngineTask, entry.Serves .keyUp ident →
      (∃ loop chord, entry.stage = .releasing loop (some chord)) →
      (entry ∈ next.tasks ↔ entry ∈ engine.tasks)) (chord : Chord) :
    next.Owes ident chord ↔ engine.Owes ident chord := by
  -- What is owed for a held key is the same on both sides, and what is left are the releases.
  unfold Owes
  rw [owes_held, owes_held, tracker]
  apply or_congr_right
  constructor
  · rintro ⟨entry, member, serves, loop, stage⟩
    exact ⟨entry, (tasks entry serves ⟨loop, chord, stage⟩).mp member, serves, loop, stage⟩
  · rintro ⟨entry, member, serves, loop, stage⟩
    exact ⟨entry, (tasks entry serves ⟨loop, chord, stage⟩).mpr member, serves, loop, stage⟩

/-- A step puts a task in its place and leaves the others where they are. -/
structure Engine.Places (engine next : Engine) (task : Nat) (entry : EngineTask) : Prop where
  placed : next.tasks[task]? = some entry
  others : ∀ other : Nat, other ≠ task → next.tasks[other]? = engine.tasks[other]?

/-- Carrying out an advance places the task that moved. -/
theorem Engine.advance_places {engine : Engine} {task : Nat} {before : EngineTask}
    (found : engine.tasks[task]? = some before) (entry : EngineTask) (resumed : Resumption) :
    engine.Places (engine.advance task entry resumed) task (entry.moveTo engine.entries resumed) where
  placed := by
    simp only [advance, carryOut_tasks]
    exact List.getElem?_set_self (List.getElem?_eq_some_iff.mp found).1
  others other different := by
    simp only [advance, carryOut_tasks]
    exact List.getElem?_set_ne (Ne.symm different)

/-- Starting a dispatch places it after the others. -/
theorem Engine.spawn_places (engine : Engine) (request : DispatchRequest) :
    engine.Places (engine.spawn request) engine.tasks.length
      (EngineTask.moveTo ⟨.dispatch request, .resolving, none, none⟩ engine.entries
        (engine.beginDispatch request)) where
  placed := by simp [spawn]
  others other different := by
    simp only [spawn, carryOut_tasks]
    rcases Nat.lt_or_ge other engine.tasks.length with old | fresh
    · exact List.getElem?_append_left old
    · rw [List.getElem?_append_right fresh, List.getElem?_eq_none fresh,
        List.getElem?_eq_none (by simp only [List.length_singleton]; omega)]

/-- Membership after a step that places one task. -/
theorem Engine.Places.mem {engine next : Engine} {task : Nat} {entry : EngineTask}
    (places : engine.Places next task entry) {other : EngineTask} (member : other ∈ next.tasks) :
    other = entry ∨ ∃ index : Nat, index ≠ task ∧ engine.tasks[index]? = some other ∧
      next.tasks[index]? = some other := by
  obtain ⟨index, found⟩ := List.mem_iff_getElem?.mp member
  by_cases same : index = task
  · rw [same, places.placed] at found
    exact .inl (Option.some.inj found).symm
  · exact .inr ⟨index, same, (places.others index same).symm.trans found, found⟩

/-- Another task stays among the tasks. -/
theorem Engine.Places.kept {engine next : Engine} {task : Nat} {entry : EngineTask}
    (places : engine.Places next task entry) {other : EngineTask} (member : other ∈ engine.tasks)
    (moved : engine.tasks[task]? ≠ some other) : other ∈ next.tasks := by
  obtain ⟨index, found⟩ := List.mem_iff_getElem?.mp member
  have different : index ≠ task := by
    intro same
    rw [same] at found
    exact moved found
  exact List.mem_of_getElem? ((places.others index different).trans found)

/-- A step in which a task gets no further than a calm stage keeps the feedback paired. -/
theorem Paired.calm {log : List HudKeyState} {engine next : Engine} (paired : Paired log engine)
    (sound : next.Sound) (named : ∀ entry ∈ next.tasks, entry.Named) {task : Nat}
    {entry : EngineTask} (places : engine.Places next task entry) (stage : entry.stage.calm = true)
    (feedback : ∀ ident, SameFeedback engine.keyTracker next.keyTracker ident)
    (known : ∀ ident, entry.role.kind ≠ none → entry.identifier = some ident →
      entry.stage ≠ .finished → ∃ before, engine.tasks[task]? = some before ∧
        before.role = entry.role ∧ before.identifier = some ident ∧ before.stage ≠ .finished)
    (kept : ∀ before loop notified, engine.tasks[task]? = some before →
      before.stage ≠ .releasing loop notified) : Paired log next := by
  have calmly : ∀ loop notified, entry.stage ≠ .releasing loop notified := by
    intro loop notified same
    rw [same] at stage
    cases stage
  -- Whoever serves an identifier did so before, in the same place and unfinished.
  have served : ∀ (index : Nat) (other : EngineTask) (ident : String),
      next.tasks[index]? = some other → other.role.kind ≠ none → other.identifier = some ident →
      other.stage ≠ .finished → ∃ before, engine.tasks[index]? = some before ∧
        before.role = other.role ∧ before.identifier = some ident ∧
        before.stage ≠ .finished ∧ (other = entry ∨ before = other) := by
    intro index other ident found kind identifier unfinished
    by_cases same : index = task
    · subst same
      cases places.placed.symm.trans found
      obtain ⟨before, at_, role, knownBefore, open_⟩ := known ident kind identifier unfinished
      exact ⟨before, at_, role, knownBefore, open_, .inl rfl⟩
    · exact ⟨other, (places.others index same).symm.trans found, rfl, identifier, unfinished,
        .inr rfl⟩
  -- So each clause is one about the state before.
  refine ⟨sound, named, ?_, ?_, ?_, ?_⟩
  · intro index other first second ident foundFirst foundSecond kindFirst kindSecond ofFirst
      ofSecond openFirst openSecond
    obtain ⟨before, at_, role, identifier, unfinished, _⟩ :=
      served index first ident foundFirst kindFirst ofFirst openFirst
    obtain ⟨also, atAlso, roleAlso, identifierAlso, unfinishedAlso, _⟩ :=
      served other second ident foundSecond kindSecond ofSecond openSecond
    exact paired.alone index other before also ident at_ atAlso (by rwa [role])
      (by rwa [roleAlso]) identifier identifierAlso unfinished unfinishedAlso
  · intro other member ident chord kind identifier handling
    rw [feedback ident]
    rcases places.mem member with same | ⟨index, _, found, _⟩
    · rw [same] at handling
      rw [handling] at stage
      cases stage
    · exact paired.fed other (List.mem_of_getElem? found) ident chord kind identifier handling
  · intro other member ident serves unfinished
    have absent : (next.keyTracker.lookup ident).map KeyState.feedback = none := by
      rw [feedback ident]
      obtain ⟨index, found⟩ := List.mem_iff_getElem?.mp member
      obtain ⟨before, at_, role, identifier, open_, _⟩ := served index other ident found
        (by rw [serves.1]; simp) serves.2 unfinished
      have free := paired.up before (List.mem_of_getElem? at_) ident
        ⟨by rw [role]; exact serves.1, identifier⟩ open_
      rw [free]
      rfl
    exact Option.map_eq_none_iff.mp absent
  · intro ident
    obtain ⟨chords, told⟩ := paired.told ident
    -- The same is owed as before: feedback is kept and no release comes or goes.
    have owes := fun chord => @Engine.owes_congr engine next ident (feedback ident) (by
      rintro other _ ⟨loop, chord, releasing⟩
      constructor
      · intro member
        rcases places.mem member with same | ⟨index, _, found, _⟩
        · rw [same] at releasing
          exact absurd releasing (calmly _ _)
        · exact List.mem_of_getElem? found
      · intro member
        exact places.kept member fun found => kept other loop (some chord) found releasing) chord
    refine ⟨chords, told.imp ?_ ?_⟩
    · rintro ⟨chord, owed, messages⟩
      exact ⟨chord, (owes chord).mpr owed, messages⟩
    · rintro ⟨free, messages⟩
      exact ⟨fun chord owed => free chord ((owes chord).mp owed), messages⟩

/-- What is owed under an identifier without an unfinished dispatch is owed for its held key. -/
theorem Engine.owes_settled {engine : Engine} {ident : String}
    (settled : ∀ entry ∈ engine.tasks, entry.role.kind ≠ none → entry.identifier = some ident →
      entry.stage = .finished) (chord : Chord) :
    engine.Owes ident chord ↔
      (engine.keyTracker.lookup ident).map KeyState.feedback = some (chord, true) := by
  -- A release in progress would be an unfinished dispatch.
  unfold Owes
  rw [owes_held]
  constructor
  · rintro (held | ⟨entry, member, serves, loop, stage⟩)
    · exact held
    · have done := settled entry member (by rw [serves.1]; simp) serves.2
      rw [stage] at done
      cases done
  · exact .inl

/-- What is owed under an identifier whose only unfinished dispatch is placed. -/
theorem Engine.owes_placed {engine next : Engine} {task : Nat} {entry : EngineTask}
    (places : engine.Places next task entry) {ident : String}
    (settled : ∀ (index : Nat) (other : EngineTask), index ≠ task →
      engine.tasks[index]? = some other → other.role.kind ≠ none →
      other.identifier = some ident → other.stage = .finished) (chord : Chord) :
    next.Owes ident chord ↔
      (next.keyTracker.lookup ident).map KeyState.feedback = some (chord, true) ∨
        entry.Serves .keyUp ident ∧ ∃ loop, entry.stage = .releasing loop (some chord) := by
  -- Every other task under the identifier is over, so only this one can be releasing.
  unfold Owes
  rw [owes_held]
  apply or_congr_right
  constructor
  · rintro ⟨other, member, serves, loop, stage⟩
    rcases places.mem member with same | ⟨index, different, found, _⟩
    · rw [← same]
      exact ⟨serves, loop, stage⟩
    · have done := settled index other different found (by rw [serves.1]; simp) serves.2
      rw [stage] at done
      cases done
  · rintro ⟨serves, loop, stage⟩
    exact ⟨entry, List.mem_of_getElem? places.placed, serves, loop, stage⟩

/-- A step of the only unfinished dispatch of an identifier keeps the feedback paired, if it does so
for that identifier. -/
theorem Paired.only {log more : List HudKeyState} {engine next : Engine}
    (paired : Paired log engine) (sound : next.Sound) (named : ∀ entry ∈ next.tasks, entry.Named)
    {task : Nat} {entry : EngineTask} (places : engine.Places next task entry) {ident : String}
    (identifier : entry.identifier = some ident)
    (before : ∀ earlier known, engine.tasks[task]? = some earlier →
      earlier.identifier = some known → known = ident)
    (settled : ∀ (index : Nat) (other : EngineTask), index ≠ task →
      engine.tasks[index]? = some other → other.role.kind ≠ none →
      other.identifier = some ident → other.stage = .finished)
    (tracker : ∀ other, other ≠ ident → SameFeedback engine.keyTracker next.keyTracker other)
    (messages : ∀ other, other ≠ ident → messagesOf more other = [])
    (fed : ∀ chord, entry.stage = .handling chord true →
      (next.keyTracker.lookup ident).map KeyState.feedback = some (chord, false))
    (up : entry.role.kind = some .keyUp → entry.stage ≠ .finished →
      next.keyTracker.lookup ident = none)
    (told : ∃ chords,
      (∃ chord, next.Owes ident chord ∧
        messagesOf (log ++ more) ident = pairsOf chords ++ [(chord, true)]) ∨
      ((∀ chord, ¬ next.Owes ident chord) ∧ messagesOf (log ++ more) ident = pairsOf chords)) :
    Paired (log ++ more) next := by
  refine ⟨sound, named, ?_, ?_, ?_, ?_⟩
  · intro index other first second known foundFirst foundSecond kindFirst kindSecond ofFirst
      ofSecond openFirst openSecond
    -- Two unfinished dispatches would both be those placed, or both be elsewhere.
    by_cases atFirst : index = task <;> by_cases atSecond : other = task
    · rw [atFirst, atSecond]
    · rw [atFirst, places.placed] at foundFirst
      cases foundFirst
      cases identifier.symm.trans ofFirst
      rw [places.others other atSecond] at foundSecond
      exact absurd (settled other second atSecond foundSecond kindSecond ofSecond) openSecond
    · rw [atSecond, places.placed] at foundSecond
      cases foundSecond
      cases identifier.symm.trans ofSecond
      rw [places.others index atFirst] at foundFirst
      exact absurd (settled index first atFirst foundFirst kindFirst ofFirst) openFirst
    · rw [places.others index atFirst] at foundFirst
      rw [places.others other atSecond] at foundSecond
      exact paired.alone index other first second known foundFirst foundSecond kindFirst
        kindSecond ofFirst ofSecond openFirst openSecond
  · intro other member known chord kind identified handling
    rcases places.mem member with same | ⟨index, different, found, _⟩
    · rw [same] at identified handling
      cases identifier.symm.trans identified
      exact fed chord handling
    · by_cases sameIdent : known = ident
      · subst sameIdent
        -- Nobody else handles a press of this identifier.
        have done := settled index other different found kind identified
        rw [handling] at done
        cases done
      · rw [tracker known sameIdent]
        exact paired.fed other (List.mem_of_getElem? found) known chord kind identified handling
  · intro other member known serves unfinished
    rcases places.mem member with same | ⟨index, different, found, _⟩
    · rw [same] at serves unfinished
      cases identifier.symm.trans serves.2
      exact up serves.1 unfinished
    · by_cases sameIdent : known = ident
      · subst sameIdent
        exact absurd (settled index other different found (by rw [serves.1]; simp) serves.2)
          unfinished
      · have absent : (next.keyTracker.lookup known).map KeyState.feedback = none := by
          rw [tracker known sameIdent, paired.up other (List.mem_of_getElem? found) known serves
            unfinished]
          rfl
        exact Option.map_eq_none_iff.mp absent
  · intro known
    by_cases sameIdent : known = ident
    · rw [sameIdent]
      exact told
    · -- Nothing happens under another identifier.
      obtain ⟨chords, toldBefore⟩ := paired.told known
      have owes := fun chord => @Engine.owes_congr engine next known (tracker known sameIdent) (by
        rintro other serves _
        constructor
        · intro member
          rcases places.mem member with same | ⟨index, _, found, _⟩
          · rw [same] at serves
            exact absurd (Option.some.inj (serves.2.symm.trans identifier)) sameIdent
          · exact List.mem_of_getElem? found
        · intro member
          exact places.kept member fun found =>
            sameIdent (before other known found serves.2)) chord
      rw [messagesOf_append, messages known sameIdent, List.append_nil]
      refine ⟨chords, toldBefore.imp ?_ ?_⟩
      · rintro ⟨chord, owed, same⟩
        exact ⟨chord, (owes chord).mpr owed, same⟩
      · rintro ⟨free, same⟩
        exact ⟨fun chord owed => free chord ((owes chord).mp owed), same⟩

/-- What a resolution tells the HUD, which is at most a release. -/
theorem Engine.dispatchResolved_told (engine : Engine) (request : DispatchRequest)
    (binding : HeldBinding) :
    (engine.dispatchResolved request binding).operations.filterMap Operation.told = [] := by
  obtain ⟨origin, kind, repeated⟩ := request
  cases kind with
  | keyDown => cases repeated <;> rfl
  | keyUp =>
    simp only [dispatchResolved]
    split <;> rfl

/-- The chord whose release is to be told is the retained one of a press that was told. -/
theorem feedback_notified (state : Option KeyState) (chord : Chord) :
    (state.filter KeyState.pressNotified).map KeyState.chord = some chord ↔
      state.map KeyState.feedback = some (chord, true) := by
  cases state with
  | none => simp
  | some held =>
    obtain ⟨own, repeats, notified⟩ := held
    cases notified <;> simp [KeyState.feedback]

/-- A dispatch that reaches the key tracker after the others of its identifier keeps the feedback
paired. -/
theorem Paired.resolved {log more : List HudKeyState} {engine next : Engine}
    (paired : Paired log engine) (sound : next.Sound) (named : ∀ entry ∈ next.tasks, entry.Named)
    {task : Nat} {entry : EngineTask} (places : engine.Places next task entry)
    (request : DispatchRequest) (binding : HeldBinding) (role : entry.role = .dispatch request)
    (identifier : entry.identifier = some binding.identifier)
    (stage : entry.stage = (engine.dispatchResolved request binding).stage)
    (unknown : ∀ before, engine.tasks[task]? = some before → before.identifier = none)
    (serial : ∀ other ∈ engine.tasks, other.role.kind ≠ none →
      other.identifier = some binding.identifier → other.stage = .finished)
    (tracker : next.keyTracker = request.onTracker binding engine.keyTracker)
    (messages : ∀ ident, messagesOf more ident =
      if binding.identifier = ident then
        (((engine.dispatchResolved request binding).stage.releases).map fun chord =>
          (chord, false)).toList
      else []) : Paired (log ++ more) next := by
  have settled : ∀ (index : Nat) (other : EngineTask), index ≠ task →
      engine.tasks[index]? = some other → other.role.kind ≠ none →
      other.identifier = some binding.identifier → other.stage = .finished :=
    fun index other _ found => serial other (List.mem_of_getElem? found)
  obtain ⟨chords, told⟩ := paired.told binding.identifier
  have owed := fun chord => Engine.owes_settled serial chord
  have owes := fun chord => Engine.owes_placed places settled chord
  have own := messages binding.identifier
  rw [if_pos rfl] at own
  obtain ⟨origin, kind, repeated⟩ := request
  refine paired.only sound named places identifier ?_ settled ?_ ?_ ?_ ?_ ?_
  · intro earlier known found identified
    rw [unknown earlier found] at identified
    cases identified
  · -- Only the state of the identifier itself can change.
    intro other different
    rw [tracker]
    unfold SameFeedback DispatchRequest.onTracker
    cases kind with
    | keyDown =>
      cases repeated with
      | true => rfl
      | false =>
        simp only [KeyStateTracker.onKeyDown]
        split
        · rw [HashMap.lookup_insert_ite, if_neg different]
        · rfl
    | keyUp =>
      simp only [KeyStateTracker.onKeyUp]
      rw [HashMap.lookup_erase_ite, if_neg different]
  · intro other different
    rw [messages, if_neg (Ne.symm different)]
  · intro chord handling
    rw [stage] at handling
    cases kind with
    | keyDown =>
      cases repeated with
      | true => cases handling
      | false =>
        -- Feedback is only given for a key that was not down.
        simp only [Engine.dispatchResolved, TaskStage.handling.injEq, Bool.not_eq_true',
          KeyStateTracker.isDown, Option.isSome_eq_false_iff, Option.isNone_iff_eq_none]
          at handling
        rw [tracker]
        simp only [DispatchRequest.onTracker, KeyStateTracker.onKeyDown, handling.2]
        rw [HashMap.lookup_insert_ite, if_pos rfl, handling.1]
        rfl
    | keyUp =>
      simp only [Engine.dispatchResolved] at handling
      split at handling
      · cases handling
      · simp only [Engine.releaseRest, Resumption.after] at handling
        split at handling <;> cases handling
  · intro up _
    rw [role] at up
    cases up
    rw [tracker]
    exact AList.lookup_erase binding.identifier engine.keyTracker
  · rw [messagesOf_append, own]
    cases kind with
    | keyDown =>
      -- A key-down tells nothing yet, and leaves what is owed.
      have silent : (engine.dispatchResolved ⟨origin, .keyDown, repeated⟩ binding).stage.releases =
          none := by cases repeated <;> rfl
      rw [silent, Option.map_none, Option.toList_none, List.append_nil]
      have same : ∀ chord, next.Owes binding.identifier chord ↔
          engine.Owes binding.identifier chord := by
        intro chord
        rw [owes, owed, tracker]
        have notUp : ¬ entry.Serves .keyUp binding.identifier := by
          intro serves
          rw [EngineTask.Serves, role] at serves
          cases serves.1
        simp only [notUp, false_and, or_false]
        cases repeated with
        | true => rfl
        | false =>
          simp only [DispatchRequest.onTracker, KeyStateTracker.onKeyDown]
          split
          · rename_i absent
            rw [HashMap.lookup_insert_ite, if_pos rfl, absent]
            simp [KeyState.feedback]
          · rfl
      refine ⟨chords, told.imp ?_ ?_⟩
      · rintro ⟨chord, before, log⟩
        exact ⟨chord, (same chord).mpr before, log⟩
      · rintro ⟨free, log⟩
        exact ⟨fun chord after => free chord ((same chord).mp after), log⟩
    | keyUp =>
      -- A key-up answers what is owed, at once or after the loop it stopped.
      have absent : next.keyTracker.lookup binding.identifier = none := by
        rw [tracker]
        exact AList.lookup_erase binding.identifier engine.keyTracker
      have serves : entry.Serves .keyUp binding.identifier := ⟨by rw [role]; rfl, identifier⟩
      simp only [absent, Option.map_none, reduceCtorEq, false_or, serves, true_and, stage] at owes
      simp only [Engine.dispatchResolved, KeyStateTracker.onKeyUp] at owes ⊢
      have notes := feedback_notified (engine.keyTracker.lookup binding.identifier)
      cases notified : ((engine.keyTracker.lookup binding.identifier).filter
          KeyState.pressNotified).map KeyState.chord with
      | none =>
        rw [notified] at owes notes
        have free : ∀ chord, ¬ engine.Owes binding.identifier chord := by
          intro chord before
          have noted := (notes chord).mpr ((owed chord).mp before)
          cases noted
        have log := (told.resolve_left (by
          rintro ⟨chord, before, _⟩
          exact free chord before)).2
        refine ⟨chords, .inr ⟨?_, ?_⟩⟩
        · intro chord after
          obtain ⟨loop, at_⟩ := (owes chord).mp after
          split at at_
          · cases at_
          · simp only [Engine.releaseRest, Resumption.after] at at_
            cases at_
        · rw [log]
          split <;> simp [TaskStage.releases, Engine.releaseRest, Resumption.after]
      | some held =>
        rw [notified] at owes notes
        have before : engine.Owes binding.identifier held := (owed held).mpr ((notes held).mp rfl)
        have log : messagesOf log binding.identifier = pairsOf chords ++ [(held, true)] := by
          rcases told with ⟨chord, other, log⟩ | ⟨free, _⟩
          · have same := (notes chord).mpr ((owed chord).mp other)
            cases same
            exact log
          · exact absurd before (free held)
        rw [log]
        split at owes
        · rename_i loop _
          -- The loop it stopped is still to end.
          refine ⟨chords, .inl ⟨held, (owes held).mpr ⟨loop, rfl⟩, ?_⟩⟩
          simp [TaskStage.releases]
        · refine ⟨chords ++ [held], .inr ⟨?_, ?_⟩⟩
          · intro chord after
            obtain ⟨loop, at_⟩ := (owes chord).mp after
            simp only [Engine.releaseRest, Resumption.after] at at_
            cases at_
          · simp [TaskStage.releases, Engine.releaseRest, Resumption.after, pairsOf]

/-- The other dispatches of the identifier of an unfinished one are over. -/
theorem Paired.settled {log : List HudKeyState} {engine : Engine} (paired : Paired log engine)
    {task : Nat} {entry : EngineTask} (found : engine.tasks[task]? = some entry)
    (kind : entry.role.kind ≠ none) {ident : String} (identifier : entry.identifier = some ident)
    (unfinished : entry.stage ≠ .finished) (index : Nat) (other : EngineTask)
    (different : index ≠ task) (foundOther : engine.tasks[index]? = some other)
    (kindOther : other.role.kind ≠ none) (ofOther : other.identifier = some ident) :
    other.stage = .finished := by
  by_contra open_
  exact different (paired.alone index task other entry ident foundOther found kindOther kind
    ofOther identifier open_ unfinished)

/-- A press the HUD is told of keeps the feedback paired. -/
theorem Paired.pressed {log : List HudKeyState} {engine : Engine} (paired : Paired log engine)
    {task : Nat} {entry : EngineTask} (found : engine.tasks[task]? = some entry) {chord : Chord}
    (handling : entry.stage = .handling chord true) (outcome : KeyOutcome) {ident : String}
    (kind : entry.role.kind ≠ none) (identifier : entry.identifier = some ident)
    (sound : (engine.advance task entry (Engine.handleKeyEvent chord true outcome)).Sound)
    (named : ∀ other ∈ (engine.advance task entry
      (Engine.handleKeyEvent chord true outcome)).tasks, other.Named) :
    Paired (log ++ (Engine.handleKeyEvent chord true outcome).hud ident)
      (engine.advance task entry (Engine.handleKeyEvent chord true outcome)) := by
  -- The press is the only unfinished dispatch of its identifier, so no release is in progress.
  have mine := List.mem_of_getElem? found
  have unfinished : entry.stage ≠ .finished := by rw [handling]; simp
  have settled := paired.settled found kind identifier unfinished
  have fed := paired.fed entry mine ident chord kind identifier handling
  have places := Engine.advance_places found entry (Engine.handleKeyEvent chord true outcome)
  have silent : (Engine.handleKeyEvent chord true outcome).stage.releases = none := by
    cases outcome <;> rfl
  have calm : (Engine.handleKeyEvent chord true outcome).stage.calm = true := by
    cases outcome <;> rfl
  have tracker : (engine.advance task entry (Engine.handleKeyEvent chord true outcome)).keyTracker =
      KeyStateTracker.markPressNotified engine.keyTracker ident := by
    simp only [Engine.advance, Engine.carryOut_tracker]
    simp [EngineTask.moveTo, Engine.handleKeyEvent, identifier, Operation.onTracker]
  -- A release under way would have forgotten the press.
  have down : entry.role.kind ≠ some .keyUp := by
    intro up
    have absent := paired.up entry mine ident ⟨up, identifier⟩ unfinished
    rw [absent] at fed
    cases fed
  -- From here on the tracker knows that the press was told.
  have marked : ((KeyStateTracker.markPressNotified engine.keyTracker ident).lookup ident).map
      KeyState.feedback = some (chord, true) := by
    rw [KeyStateTracker.markPressNotified, KeyStateTracker.alter_lookup, if_pos rfl]
    obtain ⟨state, held, same⟩ := Option.map_eq_some_iff.mp fed
    rw [held]
    simp only [Option.map_some, KeyState.feedback] at same ⊢
    rw [(Prod.mk.inj same).1]
  have kept : (entry.moveTo engine.entries
      (Engine.handleKeyEvent chord true outcome)).identifier = some ident := by
    simp [EngineTask.moveTo, Engine.handleKeyEvent, identifier]
  refine paired.only sound named places kept ?_ settled ?_ ?_ ?_ ?_ ?_
  · intro earlier known foundEarlier identified
    cases found.symm.trans foundEarlier
    exact Option.some.inj (identified.symm.trans identifier)
  · intro other different
    rw [tracker, SameFeedback, KeyStateTracker.markPressNotified, KeyStateTracker.alter_lookup,
      if_neg different]
  · intro other different
    rw [messagesOf_hud, if_neg (Ne.symm different)]
  · intro other again
    have same : (Engine.handleKeyEvent chord true outcome).stage = .handling other true := again
    rw [same] at calm
    cases calm
  · intro up
    exact absurd up down
  · -- Nothing was owed before, and now the release of this press is.
    have free : ∀ other, ¬ engine.Owes ident other := by
      rintro other (held | ⟨another, member, serves, loop, releasing⟩)
      · rw [Engine.owes_held, fed] at held
        cases held
      · obtain ⟨index, foundOther⟩ := List.mem_iff_getElem?.mp member
        by_cases same : index = task
        · subst same
          cases found.symm.trans foundOther
          rw [releasing] at handling
          cases handling
        · have done := settled index another same foundOther (by rw [serves.1]; simp) serves.2
          rw [releasing] at done
          cases done
    obtain ⟨chords, told⟩ := paired.told ident
    have before := (told.resolve_left (by
      rintro ⟨other, owed, _⟩
      exact free other owed)).2
    refine ⟨chords, .inl ⟨chord, .inl (Engine.owes_held.mpr ?_), ?_⟩⟩
    · rw [tracker]
      exact marked
    · rw [messagesOf_append, before, messagesOf_hud, if_pos rfl, silent]
      rfl

/-- A release that goes on once its loop has ended keeps the feedback paired. -/
theorem Paired.released {log : List HudKeyState} {engine : Engine} (paired : Paired log engine)
    {task : Nat} {entry : EngineTask} (found : engine.tasks[task]? = some entry) {loop : Nat}
    {notified : Option Chord} (releasing : entry.stage = .releasing loop notified) {ident : String}
    (up : entry.role.kind = some .keyUp) (identifier : entry.identifier = some ident)
    (sound : (engine.advance task entry (Engine.releaseRest notified)).Sound)
    (named : ∀ other ∈ (engine.advance task entry (Engine.releaseRest notified)).tasks,
      other.Named) :
    Paired (log ++ (Engine.releaseRest notified).hud ident)
      (engine.advance task entry (Engine.releaseRest notified)) := by
  have mine := List.mem_of_getElem? found
  have unfinished : entry.stage ≠ .finished := by rw [releasing]; simp
  have kind : entry.role.kind ≠ none := by rw [up]; simp
  -- The release is the only unfinished dispatch of its identifier.
  have settled := paired.settled found kind identifier unfinished
  have places := Engine.advance_places found entry (Engine.releaseRest notified)
  have absent := paired.up entry mine ident ⟨up, identifier⟩ unfinished
  have tracker : (engine.advance task entry (Engine.releaseRest notified)).keyTracker =
      engine.keyTracker := by
    simp only [Engine.advance, Engine.carryOut_tracker]
    cases notified <;> rfl
  have kept : (entry.moveTo engine.entries (Engine.releaseRest notified)).identifier =
      some ident := by
    cases notified <;> simp [EngineTask.moveTo, Engine.releaseRest, identifier]
  -- What is owed is what this release carries, and is told now.
  have owed : ∀ chord, engine.Owes ident chord ↔ notified = some chord := by
    intro chord
    rw [Engine.owes_placed ⟨found, fun _ _ => rfl⟩ settled, absent, releasing]
    constructor
    · rintro (held | ⟨_, other, same⟩)
      · cases held
      · exact (TaskStage.releasing.inj same).2
    · intro same
      exact .inr ⟨⟨up, identifier⟩, loop, by rw [same]⟩
  have free : ∀ chord, ¬ (engine.advance task entry (Engine.releaseRest notified)).Owes ident
      chord := by
    intro chord owes
    rw [Engine.owes_placed places settled, tracker, absent] at owes
    rcases owes with held | ⟨_, other, same⟩
    · cases held
    · have same : (Engine.releaseRest notified).stage = .releasing other (some chord) := same
      cases notified <;> cases same
  refine paired.only sound named places kept ?_ settled ?_ ?_ ?_ ?_ ?_
  · intro earlier known foundEarlier identified
    cases found.symm.trans foundEarlier
    exact Option.some.inj (identified.symm.trans identifier)
  · intro other _
    rw [tracker]
    rfl
  · intro other different
    rw [messagesOf_hud, if_neg (Ne.symm different)]
  · intro chord handling
    have same : (Engine.releaseRest notified).stage = .handling chord true := handling
    cases notified <;> cases same
  · intro _ _
    rw [tracker]
    exact absent
  · obtain ⟨chords, told⟩ := paired.told ident
    rw [messagesOf_append, messagesOf_hud, if_pos rfl]
    cases notified with
    | none =>
      have before := (told.resolve_left (by
        rintro ⟨chord, owes, _⟩
        have noted := (owed chord).mp owes
        cases noted)).2
      refine ⟨chords, .inr ⟨free, ?_⟩⟩
      rw [before]
      simp [Engine.releaseRest, TaskStage.releases, Operation.told]
    -- The press told last is the one whose release is told now.
    | some chord =>
      have before : messagesOf log ident = pairsOf chords ++ [(chord, true)] := by
        rcases told with ⟨other, owes, same⟩ | ⟨unowed, _⟩
        · cases (owed other).mp owes
          exact same
        · exact absurd ((owed chord).mpr rfl) (unowed chord)
      refine ⟨chords ++ [chord], .inr ⟨free, ?_⟩⟩
      rw [before]
      simp [Engine.releaseRest, TaskStage.releases, Operation.told, pairsOf]

/-- A step that has nothing to do with dispatches keeps the feedback paired. -/
theorem Paired.apart {log : List HudKeyState} {engine next : Engine} (paired : Paired log engine)
    (sound : next.Sound) (named : ∀ entry ∈ next.tasks, entry.Named)
    (tracker : next.keyTracker = engine.keyTracker)
    (kept : ∀ (task : Nat) (entry : EngineTask), engine.tasks[task]? = some entry →
      next.tasks[task]? = some entry)
    (old : ∀ (task : Nat) (entry : EngineTask), next.tasks[task]? = some entry →
      entry.role.kind ≠ none → engine.tasks[task]? = some entry) : Paired log next := by
  -- The same tasks stand in the same stages, so the same is owed.
  have before : ∀ entry ∈ next.tasks, entry.role.kind ≠ none → entry ∈ engine.tasks := by
    intro entry member kind
    obtain ⟨task, found⟩ := List.mem_iff_getElem?.mp member
    exact List.mem_of_getElem? (old task entry found kind)
  refine ⟨sound, named, ?_, ?_, ?_, ?_⟩
  · intro task other entry also ident found foundAlso kind kindAlso
    exact paired.alone task other entry also ident (old task entry found kind)
      (old other also foundAlso kindAlso) kind kindAlso
  · intro entry member ident chord kind identifier handling
    rw [tracker]
    exact paired.fed entry (before entry member kind) ident chord kind identifier handling
  · intro entry member ident serves unfinished
    rw [tracker]
    exact paired.up entry (before entry member (by rw [serves.1]; simp)) ident serves unfinished
  · intro ident
    obtain ⟨chords, told⟩ := paired.told ident
    have owes := fun chord => @Engine.owes_congr engine next ident
      (by rw [tracker]; rfl) (by
        intro entry serves _
        constructor
        · exact fun member => before entry member (by rw [serves.1]; simp)
        · intro member
          obtain ⟨task, found⟩ := List.mem_iff_getElem?.mp member
          exact List.mem_of_getElem? (kept task entry found)) chord
    refine ⟨chords, told.imp ?_ ?_⟩
    · rintro ⟨chord, owed, same⟩
      exact ⟨chord, (owes chord).mpr owed, same⟩
    · rintro ⟨free, same⟩
      exact ⟨fun chord owed => free chord ((owes chord).mp owed), same⟩

/-- A release that awaits the loop it stopped goes on to the rest. -/
theorem Engine.resumeTask_releasing {engine : Engine} {host : ProcessHost} {entry : EngineTask}
    {answer : TaskAnswer} {resumed : Resumption} (sound : entry.Sound) {loop : Nat}
    {notified : Option Chord} (releasing : entry.stage = .releasing loop notified)
    (went : engine.resumeTask host entry answer = some resumed) :
    entry.role.kind = some .keyUp ∧ resumed = releaseRest notified := by
  -- The chord is told as soon as the loop has ended, and then the rest follows.
  have fits := sound.fits
  rw [releasing] at fits
  obtain ⟨role, stage, identifier, number⟩ := entry
  cases releasing
  constructor
  · cases role with
    | tick loop => cases fits
    | dispatch request =>
      obtain ⟨origin, kind, repeated⟩ := request
      cases kind with
      | keyDown => cases fits
      | keyUp => rfl
  · cases answer <;> try cases went
    simp only [resumeTask] at went
    split at went
    · cases went
      rfl
    · cases went

/-- Every serialised step keeps the feedback paired. -/
theorem Paired.step {host : ProcessHost} {state next : List HudKeyState × Engine}
    {choice : EngineChoice} (stepped : SerialSteps host state choice next)
    (paired : Paired state.1 state.2) : Paired next.1 next.2 := by
  obtain ⟨log, engine⟩ := state
  obtain ⟨longer, later⟩ := next
  obtain ⟨stepped, told, serial⟩ := stepped
  simp only at stepped told serial paired ⊢
  subst told
  have sound := stepped.sound paired.sound
  have named := stepped.named paired.sound paired.named
  cases stepped.keys with
  | apart called resumed tracker held entries members kept old =>
    -- Steps apart from the keys tell the HUD nothing.
    have silent : engine.hud host choice = [] := by
      cases choice with
      | call request => exact absurd rfl (called request)
      | resume task answer => exact absurd rfl (resumed task answer)
      | _ => rfl
    rw [silent, List.append_nil]
    exact paired.apart sound named tracker kept old
  | called request same =>
    subst same
    have places := engine.spawn_places request
    have fresh : engine.tasks[engine.tasks.length]? = none := List.getElem?_eq_none (Nat.le_refl _)
    obtain waits | ⟨binding, noted, notes, begun⟩ := engine.beginDispatch_cases request
    · -- A dispatch that awaits the binding manager has done nothing yet.
      have silent : engine.hud host (.call request) = [] := by
        simp only [Engine.hud, waits]
        exact Resumption.hud_calm rfl _
      rw [silent, List.append_nil]
      refine paired.calm sound named places ?_ ?_ ?_ ?_
      · rw [waits]
        rfl
      · intro ident
        simp [SameFeedback, Engine.spawn, waits]
      · intro ident _ identifier
        rw [waits] at identifier
        cases identifier
      · intro before loop notified found
        rw [fresh] at found
        cases found
    -- One that is resolved at once reaches the key tracker in this very step.
    · have reached := engine.dispatchResolved_reached request binding
      have identifier : (EngineTask.moveTo ⟨.dispatch request, .resolving, none, none⟩
          engine.entries (engine.beginDispatch request)).identifier = some binding.identifier := by
        rw [begun]
        simp [EngineTask.moveTo, Resumption.after, reached]
      have number : (EngineTask.moveTo ⟨.dispatch request, .resolving, none, none⟩
          engine.entries (engine.beginDispatch request)).entry = some engine.entries := by
        rw [begun]
        simp [EngineTask.moveTo, Resumption.after, reached]
      refine paired.resolved sound named places request binding rfl identifier ?_ ?_ ?_ ?_ ?_
      · rw [begun]
        rfl
      · intro before found
        rw [fresh] at found
        cases found
      · exact serial _ _ binding.identifier places.placed number identifier
      · simp only [Engine.spawn, Engine.carryOut_tracker, identifier, Option.getD_some]
        rw [begun, Resumption.after, List.foldl_append, (Operation.notes_quiet notes _ _).1]
        exact engine.dispatchResolved_tracker request binding _
      · intro ident
        simp only [Engine.hud, begun, Resumption.after, reached, Option.getD_some]
        rw [messagesOf_hud]
        simp only [List.filterMap_append,
          (Operation.notes_quiet notes "" engine.keyTracker).2, Engine.dispatchResolved_told,
          List.nil_append, List.map_nil]
  | resumed task answer entry resumed same found went =>
    subst same
    have mine := List.mem_of_getElem? found
    have places := Engine.advance_places found entry resumed
    have told : engine.hud host (.resume task answer) =
        resumed.hud ((resumed.reached.or entry.identifier).getD "") := by
      simp [Engine.hud, found, went]
    rw [told]
    have entrySound := paired.sound entry mine
    by_cases resolving : entry.stage = .resolving
    · have unknown := entrySound.unresolved resolving
      obtain ⟨request, role, _, same⟩ := Engine.resumeTask_resolving entrySound resolving went
      obtain done | ⟨binding, noted, notes, begun⟩ := engine.resumeResolving_cases request
      -- Nothing is bound under the key, and the dispatch ends without a word.
      · rw [done] at same
        subst same
        rw [Resumption.hud_calm rfl, List.append_nil]
        refine paired.calm sound named places rfl ?_ ?_ ?_
        · intro ident
          simp [SameFeedback, Engine.advance]
        · intro ident _ _ unfinished
          exact absurd rfl unfinished
        · intro before loop notified again
          cases found.symm.trans again
          rw [resolving]
          simp
      · rw [begun] at same
        have reached := engine.dispatchResolved_reached request binding
        have identifier : (entry.moveTo engine.entries resumed).identifier =
            some binding.identifier := by
          rw [same]
          simp [EngineTask.moveTo, Resumption.after, reached]
        have number : (entry.moveTo engine.entries resumed).entry = some engine.entries := by
          rw [same]
          simp [EngineTask.moveTo, Resumption.after, reached]
        refine paired.resolved sound named places request binding role identifier ?_ ?_ ?_ ?_ ?_
        · rw [same]
          rfl
        · intro before again
          cases found.symm.trans again
          exact unknown
        · exact serial _ _ binding.identifier places.placed number identifier
        · simp only [Engine.advance, Engine.carryOut_tracker, identifier, Option.getD_some]
          rw [same, Resumption.after, List.foldl_append, (Operation.notes_quiet notes _ _).1]
          exact engine.dispatchResolved_tracker request binding _
        · intro ident
          simp only [same, Resumption.after, reached, Option.some_or, Option.getD_some]
          rw [messagesOf_hud]
          simp only [List.filterMap_append,
            (Operation.notes_quiet notes "" engine.keyTracker).2, Engine.dispatchResolved_told,
            List.nil_append, List.map_nil]
    -- A dispatch that goes on is a release, a calm step, or the press that is told.
    · have continues := engine.resumeTask_continues entrySound.fits resolving went
      have reached := continues.keeps.1
      have unfinished := engine.resumeTask_finished went
      rw [reached, Option.none_or]
      by_cases releasing : ∃ loop notified, entry.stage = .releasing loop notified
      · obtain ⟨loop, notified, stage⟩ := releasing
        obtain ⟨up, rest⟩ := Engine.resumeTask_releasing entrySound stage went
        subst rest
        obtain ⟨ident, identifier⟩ := Option.ne_none_iff_exists'.mp
          (paired.named entry mine (by rw [up]; simp) resolving unfinished)
        rw [identifier]
        exact paired.released found stage up identifier sound named
      · have notReleasing : ∀ loop notified, entry.stage ≠ .releasing loop notified :=
          fun loop notified stage => releasing ⟨loop, notified, stage⟩
        rcases Engine.resumeTask_calm resolving notReleasing went with
          calm | ⟨chord, outcome, stage, same⟩
        · rw [Resumption.hud_calm calm, List.append_nil]
          obtain ⟨untold, calmStage⟩ := Bool.and_eq_true_iff.mp calm
          refine paired.calm sound named places calmStage ?_ ?_ ?_
          · intro ident
            simp only [Engine.advance, Engine.carryOut_tracker]
            apply Operation.onTracker_foldl_feedback
            intro operation member
            exact ⟨continues.apart operation member,
              Option.isNone_iff_eq_none.mp (List.all_eq_true.mp untold operation member)⟩
          · intro ident _ identifier _
            refine ⟨entry, found, rfl, ?_, unfinished⟩
            simpa [EngineTask.moveTo, reached] using identifier
          · intro before loop notified again
            cases found.symm.trans again
            exact notReleasing loop notified
        · subst same
          -- Only a key-down is ever at the stage where the HUD may be told of a press.
          have kind : entry.role.kind ≠ none := by
            intro ticks
            have fits := entrySound.fits
            rw [stage] at fits
            obtain ⟨role, _, _, _⟩ := entry
            cases role with
            | dispatch request => cases ticks
            | tick loop => cases fits
          obtain ⟨ident, identifier⟩ := Option.ne_none_iff_exists'.mp
            (paired.named entry mine kind resolving unfinished)
          rw [identifier]
          exact paired.pressed found stage outcome kind identifier sound named

/-- Nothing is owed before any dispatch. -/
theorem Paired.start (relayEnabled : Bool) : Paired [] (Engine.build relayEnabled) where
  -- There is no held key and no task.
  sound entry member := by cases member
  named entry member := by cases member
  alone task other entry also ident found := by cases found
  fed entry member := by cases member
  up entry member := by cases member
  told ident := by
    refine ⟨[], .inr ⟨?_, rfl⟩⟩
    intro chord owed
    rcases owed with ⟨held, found, _⟩ | ⟨entry, member, _⟩
    · cases found
    · cases member

/-- The HUD is told of a release at a key-up of its identifier. -/
theorem Engine.hud_release {host : ProcessHost} {engine next : Engine} {choice : EngineChoice}
    (stepped : engine.Steps host choice next) (sound : engine.Sound)
    (named : ∀ entry ∈ engine.tasks, entry.Named) {ident : String} {chord : Chord}
    (told : ⟨ident, chord, false⟩ ∈ engine.hud host choice) :
    ∃ entry ∈ next.tasks, entry.Serves .keyUp ident ∧ entry.stage = .notifying chord := by
  have later := stepped.sound sound
  have identified := stepped.named sound named
  -- Whoever tells of a release is at the stage that tells it, where only key-ups get.
  have placed : ∀ (index : Nat) (entry : EngineTask) (resumed : Resumption) (own : String),
      next.tasks[index]? = some entry → entry.stage = resumed.stage →
      own = entry.identifier.getD "" → ⟨ident, chord, false⟩ ∈ resumed.hud own →
      entry.Serves .keyUp ident ∧ entry.stage = .notifying chord := by
    intro index entry resumed own found stage same member
    have mine := List.mem_of_getElem? found
    simp only [Resumption.hud, List.mem_append, List.mem_map, Option.mem_toList,
      Option.map_eq_some_iff, HudKeyState.mk.injEq, Bool.true_eq_false, and_false, exists_false,
      false_or] at member
    obtain ⟨other, releases, sameIdent, sameChord, -⟩ := member
    subst sameChord
    -- Messages of releases come from this stage alone, and operations tell of presses.
    have notifying : entry.stage = .notifying other := by
      rw [stage]
      cases at_ : resumed.stage with
      | notifying told =>
        rw [at_] at releases
        cases releases
        rfl
      | _ =>
        rw [at_] at releases
        cases releases
    -- No other role fits the stage.
    have kind : entry.role.kind = some .keyUp := by
      have fits := (later entry mine).fits
      rw [notifying] at fits
      obtain ⟨role, _, _, _⟩ := entry
      cases role with
      | tick loop => cases fits
      | dispatch request =>
        obtain ⟨origin, kind, repeated⟩ := request
        cases kind with
        | keyDown => cases fits
        | keyUp => rfl
    refine ⟨⟨kind, ?_⟩, notifying⟩
    obtain ⟨known, found⟩ := Option.ne_none_iff_exists'.mp
      (identified entry mine (by rw [kind]; simp) (by rw [notifying]; simp)
        (by rw [notifying]; simp))
    rw [found, ← sameIdent, same, found]
    rfl
  cases stepped.keys with
  | apart called resumed _ _ _ _ _ _ =>
    have silent : engine.hud host choice = [] := by
      cases choice with
      | call request => exact absurd rfl (called request)
      | resume task answer => exact absurd rfl (resumed task answer)
      | _ => rfl
    rw [silent] at told
    cases told
  | called request same =>
    subst same
    have places := engine.spawn_places request
    have found := placed _ _ (engine.beginDispatch request) _ places.placed rfl
      (by simp [EngineTask.moveTo]) told
    exact ⟨_, List.mem_of_getElem? places.placed, found⟩
  | resumed task answer entry resumed same found went =>
    subst same
    have places := Engine.advance_places found entry resumed
    have toldHere : ⟨ident, chord, false⟩ ∈
        resumed.hud ((resumed.reached.or entry.identifier).getD "") := by
      simpa [Engine.hud, found, went] using told
    exact ⟨_, List.mem_of_getElem? places.placed, placed _ _ resumed _ places.placed rfl rfl toldHere⟩

/--
In every run that serialises the dispatches of each identifier, what the HUD is told of an
identifier are presses, each followed by one release with the chord of the press. The release of the
last press may be missing only while the key is still held with the chord retained at its key-down,
or while its key-up awaits the loop it stopped; and releases are told of at key-ups only.
-/
theorem press_feedback_paired (host : ProcessHost) (relayEnabled : Bool)
    {choices : List EngineChoice} {log : List HudKeyState} {engine : Engine}
    (run : Run (SerialSteps host) ([], Engine.build relayEnabled) choices (log, engine))
    (ident : String) :
    (∃ chords,
      (∃ chord, engine.Owes ident chord ∧
        messagesOf log ident = pairsOf chords ++ [(chord, true)]) ∨
      ((∀ chord, ¬ engine.Owes ident chord) ∧ messagesOf log ident = pairsOf chords)) ∧
    ∀ choice next chord, engine.Steps host choice next →
      ⟨ident, chord, false⟩ ∈ engine.hud host choice →
      ∃ entry ∈ next.tasks, entry.Serves .keyUp ident ∧ entry.stage = .notifying chord := by
  -- The pairs are an invariant of the run, and a release of them names the chord it was pressed
  -- with.
  have paired : Paired log engine := run.invariant (fun state => Paired state.1 state.2)
    (fun stepped before => before.step stepped) (.start relayEnabled)
  constructor
  · exact paired.told ident
  · intro choice next chord stepped told
    exact Engine.hud_release stepped paired.sound paired.named told

/-- Whether no dispatch but those already over precedes a task that just got its identifier. -/
private def serialAfter (before : Engine) (entry : EngineTask) : Bool :=
  !(entry.entry == some before.entries) || before.tasks.all fun other =>
    other.role.kind == none || !(other.identifier == entry.identifier) ||
      other.stage == .finished

/-- Steps that wait for the other dispatches of an identifier. -/
private def serialStep (state : List HudKeyState × Engine) (choice : EngineChoice) :
    Option (List HudKeyState × Engine) :=
  (state.2.step Engine.plainHost choice).bind fun next =>
    if next.tasks.all (serialAfter state.2) then
      some (state.1 ++ state.2.hud Engine.plainHost choice, next)
    else none

/-- Such steps are serialised. -/
private theorem serialStep_serial {state next : List HudKeyState × Engine} {choice : EngineChoice}
    (stepped : serialStep state choice = some next) :
    SerialSteps Engine.plainHost state choice next := by
  -- The check looks at every other task under the same identifier.
  obtain ⟨later, taken, checked⟩ := Option.bind_eq_some_iff.mp stepped
  split at checked
  · rename_i waited
    cases checked
    refine ⟨taken, rfl, ?_⟩
    intro task entry ident found number identifier other member kind same
    have waits := List.all_eq_true.mp waited entry (List.mem_of_getElem? found)
    simp only [serialAfter, number, beq_self_eq_true, Bool.not_true, Bool.false_or] at waits
    have settled := List.all_eq_true.mp waits other member
    simpa [identifier, same, kind] using settled
  · cases checked

/-- A press the HUD was told of, and its release once the key is up. -/
theorem press_feedback_paired_once :
    ∃ choices log engine chords, Run (SerialSteps Engine.plainHost) ([], Engine.build true) choices
        (log, engine) ∧ engine.tasks.length = 2 ∧
      log = [⟨"a", ⟨∅, .a⟩, true⟩, ⟨"a", ⟨∅, .a⟩, false⟩] ∧ messagesOf log "a" = pairsOf chords := by
  -- The run presses one key and lets it go.
  let choices : List EngineChoice := [.register (HashMap.collect [(1, ⟨"a", ⟨∅, .a⟩⟩)]),
    .call ⟨.physical 1, .keyDown, false⟩, .resume 0 .granted, .resume 0 (.handled true .ignored),
    .call ⟨.physical 1, .keyUp, false⟩, .resume 1 .granted]
  obtain ⟨⟨log, engine⟩, seen, run⟩ := Run.of_foldlM serialStep ([], Engine.build true) choices
    (fun state => (state.1, state.2.tasks.map EngineTask.stage))
    ([⟨"a", ⟨∅, .a⟩, true⟩, ⟨"a", ⟨∅, .a⟩, false⟩], [.finished, .finished]) (by decide +kernel)
  simp only [Prod.mk.injEq] at seen
  have serial := run.mono serialStep_serial
  obtain ⟨chords, told⟩ := (press_feedback_paired Engine.plainHost true serial "a").1
  refine ⟨choices, log, engine, chords, serial, ?_, seen.1, ?_⟩
  · have length := congrArg List.length seen.2
    simpa using length
  · rcases told with ⟨chord, _, pending⟩ | ⟨_, paired⟩
    · -- The last message is a release, so nothing is pending.
      rw [seen.1] at pending
      have last := congrArg List.getLast? pending
      rw [List.getLast?_concat] at last
      cases last
    · exact paired

end Hotki

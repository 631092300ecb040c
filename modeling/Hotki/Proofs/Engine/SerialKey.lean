import Hotki.Proofs.Engine.OneKey
import Hotki.Proofs.Engine.Owners

/-! A physical key whose dispatches run one after the other, under whichever of its ids. -/

namespace Hotki

open Base

/-- A task was there before a step, or is the one started in it. -/
theorem Engine.Steps.origin {host : ProcessHost} {engine next : Engine} {choice : EngineChoice}
    (stepped : engine.Steps host choice next) (sound : engine.Sound) {task : Nat}
    {after : EngineTask} (found : next.tasks[task]? = some after) :
    (∃ before, engine.tasks[task]? = some before ∧ TaskKept before after ∧
      (after.stage = .resolving → after = before)) ∨
    task = engine.tasks.length ∧ (after.role.kind = none ∨ ∃ request, choice = .call request ∧
      after = EngineTask.moveTo ⟨.dispatch request, .resolving, none, none⟩ engine.entries
        (engine.beginDispatch request)) := by
  -- New tasks come last.
  have added : ∀ {fresh : EngineTask}, (engine.tasks ++ [fresh])[task]? = some after →
      engine.tasks[task]? = some after ∨ task = engine.tasks.length ∧ after = fresh := by
    intro fresh read
    rcases Nat.lt_or_ge task engine.tasks.length with old | late
    · rw [List.getElem?_append_left old] at read
      exact .inl read
    · rw [List.getElem?_append_right late] at read
      obtain ⟨bound, same⟩ := List.getElem?_eq_some_iff.mp read
      rw [List.getElem_singleton] at same
      simp only [List.length_singleton] at bound
      exact .inr ⟨by omega, same.symm⟩
  cases stepped.tasks with
  | same tasks =>
    rw [tasks] at found
    exact .inl ⟨after, found, .refl after, fun _ => rfl⟩
  | spawned request called =>
    simp only [spawn, carryOut_tasks] at found
    rcases added found with old | ⟨last, rfl⟩
    · exact .inl ⟨after, old, .refl after, fun _ => rfl⟩
    · exact .inr ⟨last, .inr ⟨request, called, rfl⟩⟩
  | ticked loop looped _ _ _ tasks =>
    rw [tasks] at found
    rcases added found with old | ⟨last, rfl⟩
    · exact .inl ⟨after, old, .refl after, fun _ => rfl⟩
    · exact .inr ⟨last, .inl rfl⟩
  | advanced moved answer entry resumed _ foundMoved went =>
    simp only [advance, carryOut_tasks] at found
    have mine := sound entry (List.mem_of_getElem? foundMoved)
    by_cases same : task = moved
    · subst same
      rw [List.getElem?_set_self (List.getElem?_eq_some_iff.mp foundMoved).1] at found
      cases found
      refine .inl ⟨entry, foundMoved, .advance mine went, fun resolving => ?_⟩
      -- A task that moves is done with the binding manager.
      have waits : resumed.stage = .resolving := resolving
      rcases engine.resumeTask_cases mine went with
        ⟨request, _, _, resolves⟩ | ⟨_, done⟩ | continues
      · exact absurd waits resolves.waits
      · rw [done] at waits
        cases waits
      · exact absurd waits continues.keeps.2.2
    · rw [List.getElem?_set_ne (Ne.symm same)] at found
      exact .inl ⟨after, found, .refl after, fun _ => rfl⟩

namespace PhysicalKey

variable {key : PhysicalKey} {host : ProcessHost} {engine next : Engine} {choice : EngineChoice}

/-- The move that a started dispatch makes. -/
def called (key : PhysicalKey) : EngineChoice → Option (UInt32 × KeyMove)
  | .call request => key.move ⟨.dispatch request, .resolving, none, none⟩
  | _ => none

/-- A step adds the move of the dispatch it starts. -/
theorem step_moves (stepped : engine.Steps host choice next) :
    key.moves next = key.moves engine ++ (key.called choice).toList := by
  -- Tasks are only added at the end, and a task that moves dispatches what it did.
  cases stepped.tasks with
  | same tasks =>
    have uncalled : key.called choice = none := by
      cases choice with
      | call request =>
        cases stepped
        simp [Engine.spawn] at tasks
      | _ => rfl
    rw [uncalled]
    simp [moves, tasks]
  | spawned request called =>
    subst called
    simp only [moves, Engine.spawn, Engine.carryOut_tasks, List.filterMap_append]
    rfl
  | ticked loop looped chosen _ _ tasks =>
    subst chosen
    simp only [moves, tasks, List.filterMap_append]
    rfl
  | advanced moved answer entry resumed chosen found went =>
    subst chosen
    rw [moves_set found (move_moveTo entry engine.entries resumed)
      (by simp [Engine.advance])]
    simp [PhysicalKey.called]

/-- The tasks that stand behind what is retained of a key. -/
inductive Stands (key : PhysicalKey) (engine : Engine) : Prop where
  /-- Every dispatch of the key has its binding. -/
  | settled : key.Retains engine (heldAfterMoves (key.moves engine)) →
      (∀ entry ∈ engine.tasks, key.move entry ≠ none → entry.stage ≠ .resolving) →
      Stands key engine
  /-- The last one, a press, awaits the binding manager. -/
  | awaits (task : Nat) (entry : EngineTask) (before : List (UInt32 × KeyMove)) (id : UInt32) :
      engine.tasks[task]? = some entry → entry.stage = .resolving →
      key.move entry = some (id, .press) → key.moves engine = before ++ [(id, .press)] →
      key.Retains engine (heldAfterMoves before) → Stands key engine

/-- What holds of a key whose dispatches are started one at a time. -/
structure Serial (key : PhysicalKey) (engine : Engine) : Prop where
  separate : key.Separate engine
  owned : engine.Owned
  /-- A dispatch that is under way is the last. -/
  last : ∀ (task : Nat) (entry : EngineTask), engine.tasks[task]? = some entry →
    key.move entry ≠ none → entry.stage ≠ .finished → ∀ other, key.Dispatches engine other →
      other ≤ task
  stands : key.Stands engine

/-- How the steps of the engine go on with the key: its events are dispatched one at a time and in a
physical order, and a press finds its binding. -/
structure Serves (key : PhysicalKey) (engine : Engine) (choice : EngineChoice) : Prop where
  spares : key.Spares choice
  alone : key.called choice ≠ none → ∀ entry ∈ engine.tasks, key.move entry ≠ none →
    entry.stage = .finished
  order : PhysicalOrder (key.moves engine ++ (key.called choice).toList)
  registered : ∀ (task : Nat) (answer : TaskAnswer) (entry : EngineTask) (id : UInt32),
    choice = .resume task answer → engine.tasks[task]? = some entry → entry.stage = .resolving →
    key.move entry = some (id, .press) → engine.bindings.lookup id ≠ none

/-- A dispatch that may be one of the key's is so just if it is called as one. -/
theorem called_owns {request : DispatchRequest} :
    key.called (.call request) ≠ none ↔ key.owns request = true :=
  move_of_owns rfl

/-- A dispatch of the key was there before a step, or is called in it. -/
theorem Dispatches.before (stepped : engine.Steps host choice next) (sound : engine.Sound)
    {task : Nat} (dispatches : key.Dispatches next task) :
    key.Dispatches engine task ∨ task = engine.tasks.length ∧ key.called choice ≠ none := by
  obtain ⟨after, move, found, moved⟩ := dispatches
  -- A task that was there keeps its role, and of the new ones only a called one has a move.
  rcases stepped.origin sound found with
    ⟨before, read, kept, _⟩ | ⟨last, idle | ⟨request, called, same⟩⟩
  · refine .inl ⟨before, move, read, ?_⟩
    unfold PhysicalKey.move at moved ⊢
    rw [← kept.role]
    exact moved
  · rw [move_of_idle idle] at moved
    cases moved
  · subst called same
    rw [move_moveTo] at moved
    exact .inr ⟨last, by simp [PhysicalKey.called, moved]⟩

/-- A dispatch of the key that is under way was so before a step, or is called in it. -/
theorem underway_before (stepped : engine.Steps host choice next) (sound : engine.Sound)
    {task : Nat} {entry : EngineTask} (found : next.tasks[task]? = some entry)
    (mine : key.move entry ≠ none) (unfinished : entry.stage ≠ .finished) :
    (∃ old, engine.tasks[task]? = some old ∧ key.move old ≠ none ∧ old.stage ≠ .finished) ∨
      task = engine.tasks.length ∧ key.called choice ≠ none := by
  obtain ⟨move, moved⟩ := Option.ne_none_iff_exists'.mp mine
  refine (Dispatches.before stepped sound ⟨entry, move, found, moved⟩).imp_left ?_
  rintro ⟨old, oldMove, read, oldMoved⟩
  obtain ⟨after, same, kept⟩ := stepped.task_kept sound read
  cases found.symm.trans same
  exact ⟨old, read, by simp [oldMoved], fun done => unfinished (kept.finished done)⟩

/-- A dispatch of the key that is under way stays the last. -/
theorem Serial.step_last (serial : key.Serial engine) (serves : key.Serves engine choice)
    (stepped : engine.Steps host choice next) {task : Nat} {entry : EngineTask}
    (found : next.tasks[task]? = some entry) (mine : key.move entry ≠ none)
    (unfinished : entry.stage ≠ .finished) {other : Nat} (dispatches : key.Dispatches next other) :
    other ≤ task := by
  have sound := serial.separate.sound
  rcases underway_before stepped sound found mine unfinished with
    ⟨old, read, moves, underway⟩ | ⟨last, _⟩
  · -- It was under way before, so no other dispatch of the key was called.
    rcases Dispatches.before stepped sound dispatches with older | ⟨_, called⟩
    · exact serial.last task old read moves underway other older
    · exact absurd (serves.alone called old (List.mem_of_getElem? read) moves) underway
  · rcases Dispatches.before stepped sound dispatches with ⟨entry, _, older, _⟩ | ⟨later, _⟩
    · have := (List.getElem?_eq_some_iff.mp older).1
      omega
    · omega

/-- A press of the key that awaits the binding manager is where the key stands. -/
theorem Serial.awaited (serial : key.Serial engine) {task : Nat} {entry : EngineTask}
    (found : engine.tasks[task]? = some entry) (mine : key.move entry ≠ none)
    (resolving : entry.stage = .resolving) : ∃ before id,
      key.move entry = some (id, .press) ∧ key.moves engine = before ++ [(id, .press)] ∧
      key.Retains engine (heldAfterMoves before) := by
  cases serial.stands with
  | settled _ none_ => exact absurd resolving (none_ entry (List.mem_of_getElem? found) mine)
  | awaits other also before id read waits moved moves retains =>
    -- Both are under way, so each is the last.
    obtain ⟨move, same⟩ := Option.ne_none_iff_exists'.mp mine
    have first := serial.last task entry found mine (by simp [resolving]) other
      ⟨also, _, read, moved⟩
    have second := serial.last other also read (by simp [moved]) (by simp [waits]) task
      ⟨entry, move, found, same⟩
    obtain rfl : other = task := by omega
    cases found.symm.trans read
    exact ⟨before, id, moved, moves, retains⟩

/-- What is retained of the key once the binding of its last event is found. -/
theorem Serial.found_retains (serial : key.Serial engine) (serves : key.Serves engine choice)
    (stepped : engine.Steps host choice next) {task : Nat} {id : UInt32} {kind : EventKind}
    {repeated : Bool} {binding : HeldBinding} {noted : List Operation}
    (finds : engine.Finds choice task ⟨.physical id, kind, repeated⟩ binding noted)
    (mine : key.ids id = true)
    (press : (KeyMove.ofEvent kind repeated = .press) ↔ key.called choice = none)
    {before : List (UInt32 × KeyMove)} (retains : key.Retains engine (heldAfterMoves before))
    (moves : key.moves next = before ++ [(id, .ofEvent kind repeated)]) :
    key.Retains next (heldAfterMoves (key.moves next)) := by
  have order : PhysicalOrder (key.moves next) := by
    rw [step_moves stepped]
    exact serves.order
  have follows : (KeyMove.ofEvent kind repeated).Follows id (heldAfterMoves before) :=
    order before _ [] moves
  rw [moves, heldAfterMoves_snoc]
  cases stepped.finds serial.separate.sound with
  | quiet _ _ _ unfound => exact absurd finds (unfound _ _ _ _)
  | finds also entry request other _ how _ _ _ _ tracker held =>
    have names := serial.separate.finds_names serves.spares how
    -- One step finds one binding.
    cases finds with
    | retained called _ found =>
      cases how with
      | retained chosen _ read =>
        cases called.symm.trans chosen
        have later : KeyMove.ofEvent kind repeated ≠ .press := by
          rw [Ne, press, called]
          exact called_owns.mpr mine
        exact retains.resolved follows (names.mpr mine) (by rw [if_neg later]) tracker held
      | lookedUp _ _ chosen => cases called.symm.trans chosen
    | lookedUp _ entry moved found _ role looked =>
      cases how with
      | retained chosen => cases moved.symm.trans chosen
      | lookedUp _ again chosen read _ sameRole known =>
        cases moved.symm.trans chosen
        cases found.symm.trans read
        cases role.symm.trans sameRole
        have now : KeyMove.ofEvent kind repeated = .press := press.mpr (by rw [moved]; rfl)
        exact retains.resolved follows (names.mpr mine) (by rw [if_pos now]) tracker held

/-- The move of a task tells its request. -/
theorem move_eq_some {entry : EngineTask} {id : UInt32} {move : KeyMove}
    (moved : key.move entry = some (id, move)) : ∃ kind repeated,
      entry.role = .dispatch ⟨.physical id, kind, repeated⟩ ∧ key.ids id = true ∧
        move = .ofEvent kind repeated := by
  unfold PhysicalKey.move at moved
  split at moved
  · rename_i current kind repeated role
    split at moved
    · rename_i owned
      cases moved
      exact ⟨kind, repeated, role, owned, rfl⟩
    · cases moved
  · cases moved

/-- A called dispatch of the key finds what is retained, or is a press that waits. -/
theorem Serial.called_stands (serial : key.Serial engine) {request : DispatchRequest}
    (serves : key.Serves engine (.call request))
    (stepped : engine.Steps host (.call request) next) (mine : key.owns request = true) :
    key.Stands next := by
  have sound := serial.separate.sound
  have finished := serves.alone (called_owns.mpr mine)
  -- Every other dispatch of the key is over.
  have retains : key.Retains engine (heldAfterMoves (key.moves engine)) := by
    cases serial.stands with
    | settled retains => exact retains
    | awaits task entry before id found resolving moved =>
      rw [finished entry (List.mem_of_getElem? found) (by simp [moved])] at resolving
      cases resolving
  obtain ⟨origin, kind, repeated⟩ := request
  cases origin with
  | injected ident => cases mine
  | physical id =>
    have owned : key.ids id = true := mine
    have called : key.called (.call ⟨.physical id, kind, repeated⟩) =
        some (id, .ofEvent kind repeated) := by simp [PhysicalKey.called, PhysicalKey.move, owned]
    have moves : key.moves next = key.moves engine ++
        (key.called (.call ⟨.physical id, kind, repeated⟩)).toList := step_moves stepped
    rw [called, Option.toList_some] at moves
    have follows :
        (KeyMove.ofEvent kind repeated).Follows id (heldAfterMoves (key.moves engine)) := by
      have order := serves.order
      rw [called, Option.toList_some] at order
      exact order _ _ [] rfl
    -- Nothing is retained for a press, and something for whatever else the key can do.
    have absent : engine.retained ⟨.physical id, kind, repeated⟩ = none ↔
        KeyMove.ofEvent kind repeated = .press := by
      have later : heldAfterMoves (key.moves engine) = some id →
          engine.heldBindings.lookup id ≠ none := fun held =>
        Option.isSome_iff_ne_none.mp ((retains.bindings id owned).mpr held)
      cases kind with
      | keyDown =>
        cases repeated with
        | false => exact iff_of_true rfl rfl
        | true => exact iff_of_false (later follows) nofun
      | keyUp => exact iff_of_false (later follows) nofun
    cases found : engine.retained ⟨.physical id, kind, repeated⟩ with
    -- A press waits, and leaves what is retained until it has its binding.
    | none =>
      have press := absent.mp found
      have waits := engine.beginDispatch_unretained found
      cases stepped
      refine .awaits engine.tasks.length (EngineTask.moveTo
        ⟨.dispatch ⟨.physical id, kind, repeated⟩, .resolving, none, none⟩ engine.entries
          (engine.beginDispatch ⟨.physical id, kind, repeated⟩)) (key.moves engine) id
        (by simp [Engine.spawn]) (by rw [waits]; rfl) ?_ (by rw [moves, press]) ?_
      · rw [move_moveTo, ← press]
        exact called
      · exact retains.keep (by simp [Engine.spawn, waits])
          fun _ _ => by simp [Engine.spawn, waits]
    -- A repeat or a release goes on with the binding of its press.
    | some binding =>
      have finds : engine.Finds (.call ⟨.physical id, kind, repeated⟩) engine.tasks.length
        ⟨.physical id, kind, repeated⟩ binding _ := .retained rfl rfl found
      refine .settled (serial.found_retains serves stepped finds owned ?_ retains moves) ?_
      · refine iff_of_false (fun press => ?_) (by rw [called]; simp)
        rw [absent.mpr press] at found
        cases found
      · -- The new dispatch has its binding.
        intro entry member dispatches resolving
        obtain ⟨task, read⟩ := List.mem_iff_getElem?.mp member
        rcases stepped.origin sound read with
          ⟨before, old, _, same⟩ | ⟨_, idle | ⟨other, chosen, same⟩⟩
        · rw [same resolving] at dispatches resolving
          rw [finished before (List.mem_of_getElem? old) dispatches] at resolving
          cases resolving
        · exact dispatches (move_of_idle idle)
        · cases chosen
          rcases engine.beginDispatch_resolves ⟨.physical id, kind, repeated⟩ with waits | resolves
          · have reached := engine.beginDispatch_retained found
            rw [waits] at reached
            have none_ := congrArg Resumption.reached reached
            rw [show (Resumption.after _ _).reached = _ from
              engine.dispatchResolved_reached _ binding] at none_
            cases none_
          · rw [same] at resolving
            exact resolves.waits resolving

/-- A press of the key that was looked up leaves every dispatch of the key with its binding. -/
theorem Serial.lookedUp_stands (serial : key.Serial engine) (serves : key.Serves engine choice)
    (stepped : engine.Steps host choice next) {task : Nat} {answer : TaskAnswer}
    {entry : EngineTask} {request : DispatchRequest} {binding : HeldBinding}
    (resumed : choice = .resume task answer) (found : engine.tasks[task]? = some entry)
    (resolving : entry.stage = .resolving) (role : entry.role = .dispatch request)
    (looked : engine.lookedUp request = some binding) (mine : key.owns request = true) :
    key.Stands next := by
  have sound := serial.separate.sound
  have uncalled : key.called choice = none := by
    rw [resumed]
    rfl
  have dispatches : key.move entry ≠ none := (move_of_owns role).mpr mine
  obtain ⟨before, id, moved, listed, retains⟩ := serial.awaited found dispatches resolving
  obtain ⟨kind, repeated, sameRole, owned, press⟩ := move_eq_some moved
  cases role.symm.trans sameRole
  have finds : engine.Finds choice task ⟨.physical id, kind, repeated⟩ binding _ :=
    .lookedUp answer entry resumed found resolving role looked
  have moves : key.moves next = key.moves engine ++ (key.called choice).toList :=
    step_moves stepped
  rw [uncalled, Option.toList_none, List.append_nil, listed, press] at moves
  refine .settled (serial.found_retains serves stepped finds owned
    (iff_of_true press.symm uncalled) retains moves) ?_
  intro other member also waits
  obtain ⟨place, read⟩ := List.mem_iff_getElem?.mp member
  -- Another dispatch that waits did so before, so it is the one that was looked up.
  have older : engine.tasks[place]? = some other := by
    rcases stepped.origin sound read with ⟨old, was, _, same⟩ | ⟨_, idle | ⟨_, called, _⟩⟩
    · rw [same waits]
      exact was
    · exact absurd (move_of_idle idle) also
    · rw [resumed] at called
      cases called
  have same : place = task := by
    obtain ⟨move, shown⟩ := Option.ne_none_iff_exists'.mp also
    have first := serial.last task entry found dispatches (by simp [resolving]) place
      ⟨other, move, older, shown⟩
    have second := serial.last place other older also (by simp [waits]) task
      ⟨entry, _, found, moved⟩
    omega
  subst same resumed
  -- But that one has its binding now.
  obtain ⟨mover, went, foundMover, resumes, rfl⟩ := Engine.step_resume stepped
  cases found.symm.trans foundMover
  simp only [Engine.advance, Engine.carryOut_tasks] at read
  rw [List.getElem?_set_self (List.getElem?_eq_some_iff.mp found).1] at read
  cases read
  obtain ⟨_, sameRole, _, rfl⟩ := Engine.resumeTask_resolving
    (sound entry (List.mem_of_getElem? found)) resolving resumes
  cases role.symm.trans sameRole
  rw [Engine.resumeResolving_lookedUp _ looked] at waits
  exact (engine.dispatchResolved_resolves _ binding).waits waits

/-- A step that finds no binding for the key leaves it where it stands. -/
theorem Serial.other_stands (serial : key.Serial engine) (serves : key.Serves engine choice)
    (stepped : engine.Steps host choice next) (uncalled : key.called choice = none)
    (other : ∀ task request binding noted, engine.Finds choice task request binding noted →
      key.owns request = false) : key.Stands next := by
  have sound := serial.separate.sound
  have moves : key.moves next = key.moves engine := by
    rw [step_moves stepped, uncalled]
    simp
  cases serial.stands with
  -- Whoever waits after the step did so before, and none of the key's dispatches did.
  | settled retains resolved =>
    refine .settled ?_ fun entry member mine resolving => ?_
    · rw [moves]
      exact retains.step serial.separate serves.spares stepped other
    · obtain ⟨task, read⟩ := List.mem_iff_getElem?.mp member
      rcases stepped.origin sound read with
        ⟨old, was, _, same⟩ | ⟨_, idle | ⟨request, called, same⟩⟩
      · rw [same resolving] at mine resolving
        exact resolved old (List.mem_of_getElem? was) mine resolving
      · exact mine (move_of_idle idle)
      · rw [same, move_moveTo] at mine
        rw [called] at uncalled
        exact mine uncalled
  | awaits task entry before id found resolving moved listed retains =>
    obtain ⟨kind, repeated, role, owned, press⟩ := move_eq_some moved
    have unmoved : ∀ answer, choice ≠ .resume task answer := by
      intro answer resumed
      -- It would have found its binding.
      obtain ⟨binding, known⟩ := Option.ne_none_iff_exists'.mp
        (serves.registered task answer entry id resumed found resolving moved)
      have foreign := other task _ binding _
        (.lookedUp answer entry resumed found resolving role known)
      rw [owns_physical, owned] at foreign
      cases foreign
    obtain ⟨after, read, kept⟩ := stepped.task_kept sound found
    have same : next.tasks[task]? = some entry := by
      cases stepped.keys with
      | apart _ _ _ _ _ _ stays => exact stays task entry found
      | called request =>
        simp only [Engine.spawn, Engine.carryOut_tasks]
        rw [List.getElem?_append_left (List.getElem?_eq_some_iff.mp found).1]
        exact found
      | resumed mover answer also resumed chosen =>
        simp only [Engine.advance, Engine.carryOut_tasks]
        have different : mover ≠ task := by
          rintro rfl
          exact unmoved answer chosen
        rw [List.getElem?_set_ne different]
        exact found
    refine .awaits task entry before id same resolving moved (moves.trans listed) ?_
    exact retains.step serial.separate serves.spares stepped other

/-- Every step that serves the key keeps its dispatches one after the other. -/
theorem Serial.step (serial : key.Serial engine) (serves : key.Serves engine choice)
    (stepped : engine.Steps host choice next) : key.Serial next where
  separate := serial.separate.step serves.spares stepped
  owned := serial.owned.step serial.separate.sound serial.separate.named stepped
  last _ _ found mine unfinished _ dispatches :=
    serial.step_last serves stepped found mine unfinished dispatches
  stands := by
    -- An event of the key is called, a press of it finds its binding, or neither.
    by_cases called : key.called choice = none
    · by_cases own : ∃ task request binding noted,
        engine.Finds choice task request binding noted ∧ key.owns request = true
      · obtain ⟨task, request, binding, noted, finds, mine⟩ := own
        cases finds with
        | retained chosen =>
          subst chosen
          exact absurd called (called_owns.mpr mine)
        | lookedUp answer entry resumed found resolving role looked =>
          exact serial.lookedUp_stands serves stepped resumed found resolving role looked mine
      · refine serial.other_stands serves stepped called fun task request binding noted finds => ?_
        by_contra mine
        exact own ⟨task, request, binding, noted, finds, by simpa using mine⟩
    · cases choice with
      | call request => exact serial.called_stands serves stepped (called_owns.mp called)
      | _ => exact absurd rfl called

/-- A new engine serves no key yet. -/
theorem Serial.start (key : PhysicalKey) (relayEnabled : Bool) :
    key.Serial (Engine.build relayEnabled) where
  separate := by
    refine ⟨?_, ?_, ?_, ?_, ?_, ?_⟩ <;> simp [Engine.build, Engine.Sound]
  owned := Engine.build_owned relayEnabled
  last := by simp [Engine.build]
  stands := .settled ⟨rfl, by simp [Engine.build, moves, heldAfterMoves]⟩ (by simp [Engine.build])

/-- Whoever is behind something of the key dispatches one of its events. -/
theorem Serial.begun (serial : key.Serial engine) {owner : Nat}
    (owns : engine.Owns key.ident owner) : key.Dispatches engine owner := by
  obtain ⟨entry, found, named, dispatches⟩ := serial.owned key.ident owner owns
  obtain ⟨move, moved⟩ := Option.ne_none_iff_exists'.mp
    (serial.separate.acts entry (List.mem_of_getElem? found) dispatches named)
  exact ⟨entry, move, found, moved⟩

/-- Once every dispatch of the key is over, the key tracker says whether it is down. -/
theorem Serial.tracked (serial : key.Serial engine)
    (finished : ∀ entry ∈ engine.tasks, key.move entry ≠ none → entry.stage = .finished) :
    KeyStateTracker.isDown engine.keyTracker key.ident =
      (heldAfterMoves (key.moves engine)).isSome := by
  cases serial.stands with
  | settled retains => exact retains.tracker
  | awaits task entry before id found resolving moved =>
    rw [finished entry (List.mem_of_getElem? found) (by simp [moved])] at resolving
    cases resolving

end PhysicalKey

end Hotki

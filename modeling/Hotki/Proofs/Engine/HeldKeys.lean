import Hotki.Proofs.Engine.KeyEffects
import Hotki.Proofs.Engine.Released

/-! What is captured at a key's press is what its repeats and its release resolve to. -/

namespace Hotki

open Base

/-- The physical key a task dispatches, known by the registration id its press was matched to. -/
def TaskRole.physicalId : TaskRole → Option UInt32
  | .dispatch ⟨.physical id, _, _⟩ => some id
  | _ => none

/-- The pressed physical keys, and what their presses were resolved to once dispatched. -/
structure Keyboard where
  pressed : List UInt32 := []
  captured : HashMap UInt32 HeldBinding := ∅

namespace Engine

/-- Whether a dispatch of a physical key still awaits the binding manager. -/
def awaits (engine : Engine) (id : UInt32) : Bool :=
  engine.tasks.any fun entry => entry.stage == .resolving && entry.role.physicalId == some id

/-- The physical key whose press a task resolves when it resumes. -/
def pressed (engine : Engine) (task : Nat) : Option UInt32 :=
  match engine.tasks[task]? with
  | some ⟨.dispatch ⟨.physical id, .keyDown, false⟩, .resolving, _, _⟩ => some id
  | _ => none

end Engine

namespace Keyboard

/-- Whether physical keys allow a choice: a key repeats and is released only while pressed, and
each of its events is dispatched once those before it are resolved. -/
def permits (keyboard : Keyboard) (engine : Engine) : EngineChoice → Bool
  | .call ⟨.physical id, .keyDown, false⟩ =>
    !engine.awaits id && decide (id ∉ keyboard.pressed)
  | .call ⟨.physical id, _, _⟩ => !engine.awaits id && decide (id ∈ keyboard.pressed)
  | .call ⟨.injected _, _, _⟩ => false
  | _ => true

/-- The keys once a press of one of them is captured, if there is one. -/
def capture (keyboard : Keyboard) : Option (UInt32 × HeldBinding) → Keyboard
  | some (id, found) => { keyboard with captured := keyboard.captured.insert id found }
  | none => keyboard

/-- The keys after a choice. -/
def observe (keyboard : Keyboard) (engine : Engine) : EngineChoice → Keyboard
  | .call ⟨.physical id, .keyDown, false⟩ => { keyboard with pressed := id :: keyboard.pressed }
  | .call ⟨.physical id, .keyUp, _⟩ =>
    { pressed := keyboard.pressed.erase id, captured := keyboard.captured.erase id }
  | .resume task .granted =>
    -- A press is captured as it is resolved.
    keyboard.capture ((engine.pressed task).bind fun id =>
      (engine.resolve id).map fun found => (id, found))
  | _ => keyboard

end Keyboard

/-- Steps of the engine in which physical keys are dispatched in their order. -/
def PhysicalSteps (host : ProcessHost) (state : Keyboard × Engine) (choice : EngineChoice)
    (next : Keyboard × Engine) : Prop :=
  state.2.Steps host choice next.2 ∧ state.1.permits state.2 choice = true ∧
    next.1 = state.1.observe state.2 choice

/-- What holds in every state of a run of physical keys. -/
structure Retained (keyboard : Keyboard) (engine : Engine) : Prop where
  sound : engine.Sound
  physical : ∀ entry ∈ engine.tasks, entry.stage = .resolving → entry.role.physicalId ≠ none
  /-- At most one dispatch of a key awaits the binding manager. -/
  single : ∀ (task other : Nat) (entry also : EngineTask), engine.tasks[task]? = some entry →
    engine.tasks[other]? = some also → entry.stage = .resolving → also.stage = .resolving →
    entry.role.physicalId = also.role.physicalId → task = other
  /-- A key-down that awaits the binding manager belongs to a pressed key without a binding. -/
  waiting : ∀ entry ∈ engine.tasks, ∀ id, entry.stage = .resolving →
    entry.role.physicalId = some id → entry.role.kind = some .keyDown →
    id ∈ keyboard.pressed ∧ engine.heldBindings.lookup id = none
  held : ∀ id binding, engine.heldBindings.lookup id = some binding → id ∈ keyboard.pressed
  captured : ∀ id binding, keyboard.captured.lookup id = some binding →
    engine.heldBindings.lookup id = some binding
  tracked : ∀ ident, KeyStateTracker.isDown engine.keyTracker ident →
    ∃ id binding, engine.heldBindings.lookup id = some binding ∧ binding.identifier = ident

/-- A key that is not awaited has no task that awaits the binding manager. -/
theorem Engine.not_awaited {engine : Engine} {id : UInt32} (settled : engine.awaits id = false)
    {entry : EngineTask} (member : entry ∈ engine.tasks) (resolving : entry.stage = .resolving) :
    entry.role.physicalId ≠ some id := by
  intro same
  have checked := List.any_eq_false.mp settled entry member
  simp [resolving, same] at checked

/-- What is left to check of a step that leaves the resolving tasks as they were, or fewer. -/
theorem Retained.keep {keyboard after : Keyboard} {engine next : Engine}
    (retained : Retained keyboard engine) (sound : next.Sound)
    (tasks : ∀ (task : Nat) (entry : EngineTask), next.tasks[task]? = some entry →
      entry.stage = .resolving → engine.tasks[task]? = some entry ∧
        ∀ id, entry.role.physicalId = some id → entry.role.kind = some .keyDown →
          id ∈ after.pressed ∧ next.heldBindings.lookup id = none)
    (held : ∀ id binding, next.heldBindings.lookup id = some binding → id ∈ after.pressed)
    (captured : ∀ id binding, after.captured.lookup id = some binding →
      next.heldBindings.lookup id = some binding)
    (tracked : ∀ ident, KeyStateTracker.isDown next.keyTracker ident →
      ∃ id binding, next.heldBindings.lookup id = some binding ∧ binding.identifier = ident) :
    Retained after next where
  -- A resolving task was one before, and waits for what it waited for.
  sound := sound
  physical entry member resolving := by
    obtain ⟨task, found⟩ := List.mem_iff_getElem?.mp member
    exact retained.physical entry
      (List.mem_of_getElem? (tasks task entry found resolving).1) resolving
  single task other entry also found foundAlso resolving resolvingAlso same :=
    retained.single task other entry also (tasks task entry found resolving).1
      (tasks other also foundAlso resolvingAlso).1 resolving resolvingAlso same
  waiting entry member id resolving physical down := by
    obtain ⟨task, found⟩ := List.mem_iff_getElem?.mp member
    exact (tasks task entry found resolving).2 id physical down
  held := held
  captured := captured
  tracked := tracked

/-- A step that has nothing to do with keys retains what is retained. -/
theorem Retained.apart {keyboard : Keyboard} {engine next : Engine}
    (retained : Retained keyboard engine) (sound : next.Sound)
    (tracker : next.keyTracker = engine.keyTracker)
    (held : next.heldBindings = engine.heldBindings)
    (old : ∀ (task : Nat) (entry : EngineTask), next.tasks[task]? = some entry →
      entry.stage = .resolving → engine.tasks[task]? = some entry) :
    Retained keyboard next := by
  -- Nothing of the keys changes, so each clause is that of before.
  apply retained.keep sound
  · intro task entry found resolving
    refine ⟨old task entry found resolving, fun id physical down => ?_⟩
    rw [held]
    exact retained.waiting entry (List.mem_of_getElem? (old task entry found resolving)) id
      resolving physical down
  · rw [held]
    exact retained.held
  · rw [held]
    exact retained.captured
  · rw [held, tracker]
    exact retained.tracked

/-- A dispatch that awaits the binding manager retains what is retained. -/
theorem Retained.wait {keyboard after : Keyboard} {engine next : Engine}
    (retained : Retained keyboard engine) (sound : next.Sound) (request : DispatchRequest)
    {id : UInt32} (origin : request.origin = .physical id) (settled : engine.awaits id = false)
    (tasks : next.tasks = engine.tasks ++ [⟨.dispatch request, .resolving, none, none⟩])
    (tracker : next.keyTracker = engine.keyTracker)
    (held : next.heldBindings = engine.heldBindings)
    (pressed : ∀ other, other ≠ id → (other ∈ after.pressed ↔ other ∈ keyboard.pressed))
    (down : request.kind = .keyDown → id ∈ after.pressed)
    (absent : engine.heldBindings.lookup id = none)
    (captured : ∀ other binding, after.captured.lookup other = some binding →
      keyboard.captured.lookup other = some binding) : Retained after next := by
  have named : (TaskRole.dispatch request).physicalId = some id := by
    obtain ⟨_, kind, repeated⟩ := request
    cases origin
    rfl
  -- The new task is the only one of its key.
  have placed : ∀ (task : Nat) (entry : EngineTask), next.tasks[task]? = some entry →
      engine.tasks[task]? = some entry ∨
        task = engine.tasks.length ∧ entry = ⟨.dispatch request, .resolving, none, none⟩ := by
    intro task entry found
    rw [tasks] at found
    rcases Nat.lt_or_ge task engine.tasks.length with old | fresh
    · rw [List.getElem?_append_left old] at found
      exact .inl found
    · rw [List.getElem?_append_right fresh] at found
      obtain ⟨bound, same⟩ := List.getElem?_eq_some_iff.mp found
      rw [List.getElem_singleton] at same
      simp only [List.length_singleton] at bound
      exact .inr ⟨by omega, same.symm⟩
  have distinct : ∀ entry ∈ engine.tasks, entry.stage = .resolving →
      entry.role.physicalId ≠ some id := fun entry member => Engine.not_awaited settled member
  -- Nothing is held or let go yet, so only the fields about waiting tasks need an argument.
  refine ⟨sound, ?_, ?_, ?_, ?_, ?_, ?_⟩
  · intro entry member resolving
    obtain ⟨task, found⟩ := List.mem_iff_getElem?.mp member
    rcases placed task entry found with old | ⟨_, same⟩
    · exact retained.physical entry (List.mem_of_getElem? old) resolving
    · subst same
      rw [named]
      simp
  · intro task other entry also found foundAlso resolving resolvingAlso same
    rcases placed task entry found with old | ⟨at_, new⟩ <;>
      rcases placed other also foundAlso with oldAlso | ⟨atAlso, newAlso⟩
    · exact retained.single task other entry also old oldAlso resolving resolvingAlso same
    · subst newAlso
      exact absurd (same.trans named) (distinct entry (List.mem_of_getElem? old) resolving)
    · subst new
      exact absurd (same.symm.trans named)
        (distinct also (List.mem_of_getElem? oldAlso) resolvingAlso)
    · rw [at_, atAlso]
  · intro entry member other resolving physical isDown
    rw [held]
    obtain ⟨task, found⟩ := List.mem_iff_getElem?.mp member
    rcases placed task entry found with old | ⟨_, same⟩
    · have mine := List.mem_of_getElem? old
      obtain ⟨isPressed, free⟩ := retained.waiting entry mine other resolving physical isDown
      refine ⟨(pressed other ?_).mpr isPressed, free⟩
      intro sameId
      subst sameId
      exact distinct entry mine resolving physical
    · subst same
      rw [named] at physical
      cases physical
      exact ⟨down (Option.some.inj isDown), absent⟩
  · intro other binding found
    rw [held] at found
    have isPressed := retained.held other binding found
    refine (pressed other ?_).mpr isPressed
    intro sameId
    subst sameId
    rw [absent] at found
    cases found
  · intro other binding found
    rw [held]
    exact retained.captured other binding (captured other binding found)
  · rw [held, tracker]
    exact retained.tracked

/-- Tasks that an advance leaves resolving were so before, elsewhere. -/
theorem Engine.advance_resolving {engine : Engine} {task : Nat} {entry : EngineTask}
    {resumed : Resumption} (waits : resumed.stage ≠ .resolving) (other : Nat) (also : EngineTask)
    (found : (engine.advance task entry resumed).tasks[other]? = some also)
    (resolving : also.stage = .resolving) :
    other ≠ task ∧ engine.tasks[other]? = some also := by
  -- The task that moves does not resolve any more.
  simp only [advance, carryOut_tasks] at found
  by_cases same : other = task
  · subst same
    have within := (List.getElem?_eq_some_iff.mp found).1
    rw [List.length_set] at within
    rw [List.getElem?_set_self within] at found
    cases found
    exact absurd resolving waits
  · rw [List.getElem?_set_ne (Ne.symm same)] at found
    exact ⟨same, found⟩

/-- A started dispatch that does not await the binding manager adds no resolving task. -/
theorem Engine.spawn_resolving {engine : Engine} {request : DispatchRequest}
    (waits : (engine.beginDispatch request).stage ≠ .resolving) (task : Nat) (entry : EngineTask)
    (found : (engine.spawn request).tasks[task]? = some entry)
    (resolving : entry.stage = .resolving) : engine.tasks[task]? = some entry := by
  -- The new task comes last and does not wait.
  simp only [spawn, carryOut_tasks] at found
  rcases Nat.lt_or_ge task engine.tasks.length with old | fresh
  · rw [List.getElem?_append_left old] at found
    exact found
  · rw [List.getElem?_append_right fresh] at found
    obtain ⟨_, same⟩ := List.getElem?_eq_some_iff.mp found
    rw [List.getElem_singleton] at same
    subst same
    exact absurd resolving waits

/-- A resolved dispatch no longer awaits the binding manager. -/
theorem Engine.dispatchResolved_stage (engine : Engine) (request : DispatchRequest)
    (binding : HeldBinding) : (engine.dispatchResolved request binding).stage ≠ .resolving :=
  (engine.dispatchResolved_resolves request binding).waits

/-- A dispatch of a key that the keys permit retains what is retained. -/
theorem Retained.called {keyboard : Keyboard} {engine : Engine}
    (retained : Retained keyboard engine) {host : ProcessHost} {request : DispatchRequest}
    (permitted : keyboard.permits engine (.call request) = true)
    (stepped : engine.Steps host (.call request) (engine.spawn request)) :
    Retained (keyboard.observe engine (.call request)) (engine.spawn request) := by
  have sound := stepped.sound retained.sound
  obtain ⟨origin, kind, repeated⟩ := request
  cases origin with
  | injected ident => cases permitted
  | physical id =>
    cases kind with
    | keyDown =>
      cases repeated with
      | false =>
        -- A press always asks the binding manager.
        simp only [Keyboard.permits, Bool.and_eq_true, Bool.not_eq_true', decide_eq_true_eq]
          at permitted
        obtain ⟨settled, free⟩ := permitted
        have absent : engine.heldBindings.lookup id = none := by
          by_contra present
          obtain ⟨binding, found⟩ := Option.ne_none_iff_exists'.mp present
          exact free (retained.held id binding found)
        refine retained.wait sound ⟨.physical id, .keyDown, false⟩ rfl settled (by simp [Engine.spawn, Engine.beginDispatch,
          Engine.retained, EngineTask.moveTo]) rfl rfl ?_ ?_ absent fun _ _ found => found
        · intro other different
          simp [Keyboard.observe, different]
        · intro _
          simp [Keyboard.observe]
      | true =>
        simp only [Keyboard.permits, Bool.and_eq_true, Bool.not_eq_true', decide_eq_true_eq]
          at permitted
        obtain ⟨settled, isPressed⟩ := permitted
        cases found : engine.heldBindings.lookup id with
        -- A repeat whose press retained nothing is resolved like a press.
        | none =>
          have begun : engine.beginDispatch ⟨.physical id, .keyDown, true⟩ =
              { stage := .resolving } := by
            simp [Engine.beginDispatch, Engine.retained, found]
          refine retained.wait sound ⟨.physical id, .keyDown, true⟩ rfl settled ?_ ?_ ?_
            (fun _ _ => Iff.rfl)
            (fun _ => isPressed) found fun _ _ captured => captured
          · simp [Engine.spawn, begun, EngineTask.moveTo]
          · simp [Engine.spawn, begun]
          · simp [Engine.spawn, begun]
        | some binding =>
          -- A repeat of a dispatched press only reads what is retained.
          have begun : engine.beginDispatch ⟨.physical id, .keyDown, true⟩ =
              engine.dispatchResolved ⟨.physical id, .keyDown, true⟩ binding := by
            simp [Engine.beginDispatch, Engine.retained, found]
          refine retained.apart sound ?_ ?_ (Engine.spawn_resolving ?_)
          · simp [Engine.spawn, begun, Engine.dispatchResolved]
          · simp [Engine.spawn, begun, Engine.dispatchResolved]
          · rw [begun]
            exact engine.dispatchResolved_stage _ _
    | keyUp =>
      simp only [Keyboard.permits, Bool.and_eq_true, Bool.not_eq_true', decide_eq_true_eq]
        at permitted
      obtain ⟨settled, isPressed⟩ := permitted
      -- The release makes the observer forget the key, and no other.
      have forgotten : ∀ other binding,
          (keyboard.captured.erase id).lookup other = some binding →
          other ≠ id ∧ keyboard.captured.lookup other = some binding := by
        intro other binding found
        rw [HashMap.lookup_erase_ite] at found
        split at found
        · cases found
        · rename_i different
          exact ⟨different, found⟩
      cases found : engine.heldBindings.lookup id with
      | none =>
        have begun : engine.beginDispatch ⟨.physical id, .keyUp, repeated⟩ =
            { stage := .resolving } := by
          simp [Engine.beginDispatch, Engine.retained, found]
        refine retained.wait sound ⟨.physical id, .keyUp, repeated⟩ rfl settled ?_ ?_ ?_ ?_
          (fun down => by cases down) found fun other binding captured => (forgotten other binding captured).2
        · simp [Engine.spawn, begun, EngineTask.moveTo]
        · simp [Engine.spawn, begun]
        · simp [Engine.spawn, begun]
        · intro other different
          simp [Keyboard.observe, List.mem_erase_of_ne different]
      | some binding =>
        -- The release takes the binding and the retained key state of its identifier with it.
        have begun : engine.beginDispatch ⟨.physical id, .keyUp, repeated⟩ =
            (engine.dispatchResolved ⟨.physical id, .keyUp, repeated⟩ binding).after
              [.letGo id] := by
          simp [Engine.beginDispatch, Engine.retained, found]
        have reached := engine.dispatchResolved_reached ⟨.physical id, .keyUp, repeated⟩ binding
        have released : (engine.spawn ⟨.physical id, .keyUp, repeated⟩).heldBindings =
            engine.heldBindings.erase id := by
          simp only [Engine.spawn, begun, Engine.carryOut_held, Resumption.after,
            List.foldl_append, Engine.dispatchResolved_held]
          rfl
        have up : (engine.spawn ⟨.physical id, .keyUp, repeated⟩).keyTracker =
            (KeyStateTracker.onKeyUp engine.keyTracker binding.identifier).2 := by
          simp only [Engine.spawn, begun, Engine.carryOut_tracker, Resumption.after,
            List.foldl_append, EngineTask.moveTo, reached, Option.some_or, Option.getD_some,
            Engine.dispatchResolved_tracker]
          rfl
        have others : ∀ other kept,
            (engine.spawn ⟨.physical id, .keyUp, repeated⟩).heldBindings.lookup other = some kept ↔
              other ≠ id ∧ engine.heldBindings.lookup other = some kept := by
          intro other kept
          rw [released, HashMap.lookup_erase_ite]
          split
          · rename_i same
            simp [same]
          · rename_i different
            simp [different]
        have stays := @Engine.spawn_resolving engine ⟨.physical id, .keyUp, repeated⟩
          (by rw [begun]; exact engine.dispatchResolved_stage _ _)
        -- Every other key is held as before.
        refine retained.keep sound ?_ ?_ ?_ ?_
        · intro task entry at_ resolving
          have old := stays task entry at_ resolving
          refine ⟨old, fun other physical down => ?_⟩
          have mine := List.mem_of_getElem? old
          obtain ⟨pressed, free⟩ := retained.waiting entry mine other resolving physical down
          have different : other ≠ id := by
            intro same
            subst same
            exact Engine.not_awaited settled mine resolving physical
          refine ⟨(List.mem_erase_of_ne different).mpr pressed, ?_⟩
          rw [released, HashMap.lookup_erase_ite, if_neg different]
          exact free
        · intro other kept holding
          obtain ⟨different, before⟩ := (others other kept).mp holding
          exact (List.mem_erase_of_ne different).mpr (retained.held other kept before)
        · intro other kept captured
          obtain ⟨different, before⟩ := forgotten other kept captured
          exact (others other kept).mpr ⟨different, retained.captured other kept before⟩
        · intro ident isDown
          -- The identifier still down is that of another key that is held.
          rw [up, KeyStateTracker.onKeyUp_isDown, Bool.and_eq_true] at isDown
          obtain ⟨other, kept, holding, named⟩ := retained.tracked ident isDown.2
          refine ⟨other, kept, (others other kept).mpr ⟨?_, holding⟩, named⟩
          intro same
          subst same
          cases found.symm.trans holding
          simp [named] at isDown

/-- The key whose press a task resolves, which a repeat or a release does not. -/
theorem Engine.pressed_resolving {engine : Engine} {task : Nat} {entry : EngineTask} {id : UInt32}
    {kind : EventKind} {repeated : Bool} (found : engine.tasks[task]? = some entry)
    (resolving : entry.stage = .resolving)
    (role : entry.role = .dispatch ⟨.physical id, kind, repeated⟩) :
    engine.pressed task = if kind = .keyDown ∧ repeated = false then some id else none := by
  unfold pressed
  rw [found]
  obtain ⟨_, _, _, _⟩ := entry
  cases role
  cases resolving
  cases kind <;> cases repeated <;> rfl

/-- The step of a task that awaited the binding manager retains what is retained. -/
theorem Retained.resolved {keyboard : Keyboard} {engine : Engine}
    (retained : Retained keyboard engine) {task : Nat} {entry : EngineTask}
    {request : DispatchRequest} (found : engine.tasks[task]? = some entry)
    (resolving : entry.stage = .resolving) (role : entry.role = .dispatch request)
    (sound : (engine.advance task entry (engine.resumeResolving request)).Sound) :
    Retained (keyboard.observe engine (.resume task .granted))
      (engine.advance task entry (engine.resumeResolving request)) := by
  have mine := List.mem_of_getElem? found
  have unknown := (retained.sound entry mine).unresolved resolving
  obtain ⟨origin, kind, repeated⟩ := request
  have physical := retained.physical entry mine resolving
  cases origin with
  | injected ident =>
    rw [role] at physical
    exact absurd rfl physical
  | physical id =>
    have named : entry.role.physicalId = some id := by rw [role]; rfl
    have waits : (engine.resumeResolving ⟨.physical id, kind, repeated⟩).stage ≠ .resolving := by
      obtain done | ⟨binding, noted, _, same⟩ :=
        engine.resumeResolving_cases ⟨.physical id, kind, repeated⟩
      · rw [done]
        simp
      · rw [same]
        exact engine.dispatchResolved_stage _ _
    have old := @Engine.advance_resolving engine task entry _ waits
    -- Whoever else awaits the binding manager does so for another key.
    have others : ∀ (other : Nat) (also : EngineTask),
        (engine.advance task entry
          (engine.resumeResolving ⟨.physical id, kind, repeated⟩)).tasks[other]? = some also →
        also.stage = .resolving → ∀ another, also.role.physicalId = some another →
        another ≠ id := by
      intro other also at_ stage another physicalOther same
      subst same
      obtain ⟨different, before⟩ := old other also at_ stage
      exact different (retained.single other task also entry before found stage resolving
        (physicalOther.trans named.symm))
    cases resolved : engine.resolve id with
    | none =>
      -- Nothing is registered under the key any more, and the dispatch ends.
      have gone : engine.resumeResolving ⟨.physical id, kind, repeated⟩ =
          { stage := .finished } := by
        simp [Engine.resumeResolving, resolved]
      have observed : keyboard.observe engine (.resume task .granted) = keyboard := by
        simp only [Keyboard.observe, Engine.pressed_resolving found resolving role]
        split <;> simp [resolved, Keyboard.capture]
      rw [observed]
      refine retained.apart sound ?_ ?_ fun other also at_ stage => (old other also at_ stage).2
      · simp [Engine.advance, gone]
      · simp [Engine.advance, gone]
    | some binding =>
      have reached := engine.dispatchResolved_reached ⟨.physical id, kind, repeated⟩ binding
      cases kind with
      | keyDown =>
        obtain ⟨isPressed, free⟩ := retained.waiting entry mine id resolving named (by rw [role]; rfl)
        -- The binding found is retained from here to the release.
        have went : engine.resumeResolving ⟨.physical id, .keyDown, repeated⟩ =
            (engine.dispatchResolved ⟨.physical id, .keyDown, repeated⟩ binding).after
              [.hold id binding] := by
          simp [Engine.resumeResolving, resolved]
        have held : (engine.advance task entry
            (engine.resumeResolving ⟨.physical id, .keyDown, repeated⟩)).heldBindings =
            engine.heldBindings.insert id binding := by
          simp only [Engine.advance, went, Engine.carryOut_held, Resumption.after,
            List.foldl_append, Engine.dispatchResolved_held]
          rfl
        have tracker : (engine.advance task entry
            (engine.resumeResolving ⟨.physical id, .keyDown, repeated⟩)).keyTracker =
            DispatchRequest.onTracker ⟨.physical id, .keyDown, repeated⟩ binding
              engine.keyTracker := by
          simp only [Engine.advance, went, Engine.carryOut_tracker, Resumption.after,
            List.foldl_append, EngineTask.moveTo, reached, Option.some_or, Option.getD_some,
            Engine.dispatchResolved_tracker]
          rfl
        have pressed : (keyboard.observe engine (.resume task .granted)).pressed =
            keyboard.pressed := by
          simp only [Keyboard.observe, Keyboard.capture]
          split <;> rfl
        have captured : ∀ other kept,
            (keyboard.observe engine (.resume task .granted)).captured.lookup other = some kept →
            (other = id ∧ kept = binding) ∨
              other ≠ id ∧ keyboard.captured.lookup other = some kept := by
          -- The key captured nothing yet, as it holds nothing yet.
          have fresh : keyboard.captured.lookup id = none := by
            by_contra present
            obtain ⟨kept, before⟩ := Option.ne_none_iff_exists'.mp present
            rw [retained.captured id kept before] at free
            cases free
          intro other kept
          simp only [Keyboard.observe, Engine.pressed_resolving found resolving role]
          cases repeated with
          | false =>
            -- Only a press captures its binding.
            simp only [and_self, if_true, Option.bind_some, resolved, Option.map_some,
              Keyboard.capture]
            rw [HashMap.lookup_insert_ite]
            intro at_
            split at at_
            · rename_i same
              exact .inl ⟨same, (Option.some.inj at_).symm⟩
            · rename_i different
              exact .inr ⟨different, at_⟩
          | true =>
            simp only [Bool.true_eq_false, and_false, if_false, Option.bind_none, Keyboard.capture]
            intro at_
            refine .inr ⟨?_, at_⟩
            intro same
            subst same
            rw [fresh] at at_
            cases at_
        refine retained.keep sound ?_ ?_ ?_ ?_
        · intro other also at_ stage
          refine ⟨(old other also at_ stage).2, fun another physicalOther down => ?_⟩
          have before := List.mem_of_getElem? (old other also at_ stage).2
          rw [pressed, held, HashMap.lookup_insert_ite,
            if_neg (others other also at_ stage another physicalOther)]
          exact retained.waiting also before another stage physicalOther down
        · intro other kept at_
          rw [held, HashMap.lookup_insert_ite] at at_
          rw [pressed]
          split at at_
          · rename_i same
            rw [same]
            exact isPressed
          · exact retained.held other kept at_
        · intro other kept at_
          rw [held, HashMap.lookup_insert_ite]
          rcases captured other kept at_ with ⟨same, own⟩ | ⟨different, before⟩
          · rw [if_pos same, own]
          · rw [if_neg different]
            exact retained.captured other kept before
        · intro ident isDown
          rw [tracker] at isDown
          -- The key that came down is held from now on, and the others still are.
          have before : binding.identifier = ident ∨
              KeyStateTracker.isDown engine.keyTracker ident := by
            cases repeated with
            | true => exact .inr isDown
            | false =>
              simp only [DispatchRequest.onTracker] at isDown
              rw [KeyStateTracker.onKeyDown_isDown, Bool.or_eq_true, decide_eq_true_eq] at isDown
              exact isDown.imp_left Eq.symm
          rcases before with own | down
          · exact ⟨id, binding, by rw [held, HashMap.lookup_insert_ite, if_pos rfl], own⟩
          · obtain ⟨other, kept, holding, same⟩ := retained.tracked ident down
            refine ⟨other, kept, ?_, same⟩
            rw [held, HashMap.lookup_insert_ite, if_neg]
            · exact holding
            · intro sameId
              subst sameId
              rw [free] at holding
              cases holding
      | keyUp =>
        have went : engine.resumeResolving ⟨.physical id, .keyUp, repeated⟩ =
            engine.dispatchResolved ⟨.physical id, .keyUp, repeated⟩ binding := by
          simp [Engine.resumeResolving, resolved]
        have observed : keyboard.observe engine (.resume task .granted) = keyboard := by
          simp [Keyboard.observe, Engine.pressed_resolving found resolving role, Keyboard.capture]
        rw [observed]
        have held : (engine.advance task entry
            (engine.resumeResolving ⟨.physical id, .keyUp, repeated⟩)).heldBindings =
            engine.heldBindings := by
          simp only [Engine.advance, went, Engine.carryOut_held, Engine.dispatchResolved_held]
        have tracker : (engine.advance task entry
            (engine.resumeResolving ⟨.physical id, .keyUp, repeated⟩)).keyTracker =
            (KeyStateTracker.onKeyUp engine.keyTracker binding.identifier).2 := by
          simp only [Engine.advance, went, Engine.carryOut_tracker, EngineTask.moveTo, reached,
            Option.some_or, Option.getD_some, Engine.dispatchResolved_tracker]
          rfl
        refine retained.keep sound ?_ ?_ ?_ ?_
        · intro other also at_ stage
          have before := (old other also at_ stage).2
          refine ⟨before, fun another physicalOther down => ?_⟩
          rw [held]
          exact retained.waiting also (List.mem_of_getElem? before) another stage physicalOther
            down
        · rw [held]
          exact retained.held
        · rw [held]
          exact retained.captured
        · intro ident isDown
          rw [tracker, KeyStateTracker.onKeyUp_isDown, Bool.and_eq_true] at isDown
          rw [held]
          exact retained.tracked ident isDown.2

/-- The keys are as they were after a choice that neither dispatches nor resolves. -/
theorem Keyboard.observe_apart (keyboard : Keyboard) (engine : Engine) {choice : EngineChoice}
    (called : ∀ request, choice ≠ .call request)
    (resumed : ∀ task answer, choice ≠ .resume task answer) :
    keyboard.observe engine choice = keyboard := by
  cases choice with
  | call request => exact absurd rfl (called request)
  | resume task answer => exact absurd rfl (resumed task answer)
  | _ => rfl

/-- Every step retains what is retained of the pressed keys. -/
theorem Retained.step {host : ProcessHost} {state next : Keyboard × Engine} {choice : EngineChoice}
    (stepped : PhysicalSteps host state choice next) (retained : Retained state.1 state.2) :
    Retained next.1 next.2 := by
  -- A step is apart from the keys, or it calls, resolves or handles one.
  obtain ⟨keyboard, engine⟩ := state
  obtain ⟨after, later⟩ := next
  obtain ⟨stepped, permitted, observed⟩ := stepped
  simp only at stepped permitted observed retained ⊢
  subst observed
  have sound := stepped.sound retained.sound
  cases stepped.keys with
  | apart called resumed tracker held _ _ _ old =>
    rw [keyboard.observe_apart engine called resumed]
    refine retained.apart sound tracker held fun task entry found resolving => ?_
    exact old task entry found
      ((sound entry (List.mem_of_getElem? found)).dispatches resolving)
  | called request same =>
    subst same
    exact retained.called permitted stepped
  | resumed task answer entry resumed same found went =>
    subst same
    have mine := List.mem_of_getElem? found
    by_cases resolving : entry.stage = .resolving
    · obtain ⟨request, role, granted, same⟩ :=
        Engine.resumeTask_resolving (retained.sound entry mine) resolving went
      subst granted same
      exact retained.resolved found resolving role sound
    · -- Whatever a task does after it was resolved leaves the same keys down.
      have continues := engine.resumeTask_continues (retained.sound entry mine).fits resolving went
      have apart := continues.apart
      have unpressed : keyboard.observe engine (.resume task answer) = keyboard := by
        have none_ : engine.pressed task = none := by
          unfold Engine.pressed
          rw [found]
          split
          · rename_i same
            cases same
            exact absurd rfl resolving
          · rfl
        cases answer <;> simp [Keyboard.observe, none_, Keyboard.capture]
      rw [unpressed]
      -- Only a resolution or a release changes what is held.
      have held : (engine.advance task entry resumed).heldBindings = engine.heldBindings := by
        simp only [Engine.advance, Engine.carryOut_held]
        exact Operation.onHeld_foldl_quiet apart _
      refine retained.keep sound ?_ ?_ ?_ ?_
      · intro other also at_ stage
        have before := (Engine.advance_resolving continues.keeps.2.2 other also at_ stage).2
        refine ⟨before, fun id physical down => ?_⟩
        rw [held]
        exact retained.waiting also (List.mem_of_getElem? before) id stage physical down
      · rw [held]
        exact retained.held
      · rw [held]
        exact retained.captured
      · intro ident isDown
        simp only [Engine.advance, Engine.carryOut_tracker] at isDown
        rw [Operation.onTracker_foldl_isDown _ _ apart] at isDown
        rw [held]
        exact retained.tracked ident isDown

/-- Nothing is retained before any key is pressed. -/
theorem Retained.start (relayEnabled : Bool) : Retained {} (Engine.build relayEnabled) where
  sound entry member := by cases member
  physical entry member := by cases member
  single task other entry also found := by cases found
  waiting entry member := by cases member
  held id binding found := by cases found
  captured id binding found := by cases found
  tracked ident isDown := by cases isDown

/--
In every run of physical keys whose events are dispatched in order, with whatever happens to the
registrations in between, a repeat and the release of a dispatched press resolve to the binding
captured at the press; and once no key is pressed nothing is retained.
-/
theorem held_bindings_resolve (host : ProcessHost) (relayEnabled : Bool)
    {choices : List EngineChoice} {keyboard : Keyboard} {engine : Engine}
    (run : Run (PhysicalSteps host) ({}, Engine.build relayEnabled) choices (keyboard, engine)) :
    (∀ id binding, keyboard.captured.lookup id = some binding →
      engine.beginDispatch ⟨.physical id, .keyDown, true⟩ =
        engine.dispatchResolved ⟨.physical id, .keyDown, true⟩ binding ∧
      ∀ repeated, engine.retained ⟨.physical id, .keyUp, repeated⟩ = some binding ∧
        engine.beginDispatch ⟨.physical id, .keyUp, repeated⟩ =
          (engine.dispatchResolved ⟨.physical id, .keyUp, repeated⟩ binding).after [.letGo id]) ∧
    (keyboard.pressed = [] → engine.heldBindings = ∅ ∧ engine.keyTracker = ∅) := by
  -- The retained binding is the one the key-down was resolved to, whatever is registered now.
  have retained : Retained keyboard engine := run.invariant
    (fun state => Retained state.1 state.2)
    (fun stepped before => before.step stepped) (.start relayEnabled)
  constructor
  · intro id binding captured
    have held := retained.captured id binding captured
    constructor
    · simp [Engine.beginDispatch, Engine.retained, held]
    · intro repeated
      have found : engine.retained ⟨.physical id, .keyUp, repeated⟩ = some binding := held
      refine ⟨found, ?_⟩
      unfold Engine.beginDispatch
      rw [found]
  · intro released
    have free : ∀ id, engine.heldBindings.lookup id = none := by
      intro id
      by_contra present
      obtain ⟨binding, found⟩ := Option.ne_none_iff_exists'.mp present
      have isPressed := retained.held id binding found
      rw [released] at isPressed
      cases isPressed
    refine ⟨HashMap.eq_empty free, HashMap.eq_empty fun ident => ?_⟩
    by_contra present
    obtain ⟨id, binding, found, _⟩ :=
      retained.tracked ident (Option.isSome_iff_ne_none.mpr present)
    rw [free] at found
    cases found

/-- Steps that the physical keys permit. -/
private def physicalStep (state : Keyboard × Engine) (choice : EngineChoice) :
    Option (Keyboard × Engine) :=
  if state.1.permits state.2 choice then
    (state.2.step Engine.plainHost choice).map fun next => (state.1.observe state.2 choice, next)
  else none

/-- Such steps are steps of physical keys. -/
private theorem physicalStep_physical {state next : Keyboard × Engine} {choice : EngineChoice}
    (stepped : physicalStep state choice = some next) :
    PhysicalSteps Engine.plainHost state choice next := by
  unfold physicalStep at stepped
  split at stepped
  · rename_i permitted
    obtain ⟨later, taken, same⟩ := Option.map_eq_some_iff.mp stepped
    subst same
    exact ⟨taken, permitted, rfl⟩
  · cases stepped

/-- A key whose registration is removed while it is pressed, and pressed keys all released. -/
theorem held_bindings_resolve_removed :
    (∃ choices keyboard engine, Run (PhysicalSteps Engine.plainHost) ({}, Engine.build true) choices
        (keyboard, engine) ∧ engine.resolve 1 = none ∧
      engine.beginDispatch ⟨.physical 1, .keyDown, true⟩ =
        engine.dispatchResolved ⟨.physical 1, .keyDown, true⟩ ⟨"a", ⟨∅, .a⟩⟩) ∧
    ∃ choices keyboard engine, Run (PhysicalSteps Engine.plainHost) ({}, Engine.build true) choices
        (keyboard, engine) ∧ engine.tasks.length = 2 ∧ engine.heldBindings = ∅ ∧
      engine.keyTracker = ∅ := by
  -- The registration is gone when the key repeats and when it is raised.
  let held : List EngineChoice := [.register (HashMap.collect [(1, ⟨"a", ⟨∅, .a⟩⟩)]),
    .call ⟨.physical 1, .keyDown, false⟩, .resume 0 .granted, .register ∅]
  constructor
  · obtain ⟨⟨keyboard, engine⟩, seen, run⟩ := Run.of_foldlM physicalStep ({}, Engine.build true)
      held (fun state => (state.1.captured.lookup 1, state.2.resolve 1))
      (some ⟨"a", ⟨∅, .a⟩⟩, none) (by decide +kernel)
    simp only [Prod.mk.injEq] at seen
    have physical := run.mono physicalStep_physical
    exact ⟨held, keyboard, engine, physical, seen.2,
      ((held_bindings_resolve Engine.plainHost true physical).1 1 _ seen.1).1⟩
  · obtain ⟨⟨keyboard, engine⟩, seen, run⟩ := Run.of_foldlM physicalStep ({}, Engine.build true)
      (held ++ [.call ⟨.physical 1, .keyUp, false⟩])
      (fun state => (state.1.pressed, state.2.tasks.length)) ([], 2) (by decide +kernel)
    simp only [Prod.mk.injEq] at seen
    have physical := run.mono physicalStep_physical
    exact ⟨_, keyboard, engine, physical, seen.2,
      (held_bindings_resolve Engine.plainHost true physical).2 seen.1⟩

end Hotki

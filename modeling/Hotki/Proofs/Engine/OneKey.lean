import Hotki.Proofs.Engine.Isolation
import Hotki.Proofs.Engine.KeyEffects

/-! One physical key under all its registration ids: what the engine retains of its presses. -/

namespace Hotki

open Base

/-- A physical key: the identifier of its chord, and the registration ids the chord ever has. -/
structure PhysicalKey where
  ident : String
  ids : UInt32 → Bool

/-- What an event of a key says of the key. -/
inductive KeyMove where
  | press | again | release
  deriving DecidableEq

namespace KeyMove

/-- The move that an event of a kind makes. -/
def ofEvent : EventKind → Bool → KeyMove
  | .keyDown, false => press
  | .keyDown, true => again
  | .keyUp, _ => release

/-- Whether a move presses or releases the key. -/
def isEdge : KeyMove → Bool
  | press | release => true
  | again => false

/-- The id a key is held under after a move under an id. -/
def after (id : UInt32) (held : Option UInt32) : KeyMove → Option UInt32
  | press => some id
  | again => held
  | release => none

/-- Whether a physical key can make a move under an id: it is pressed while it is up, and repeats
and is released under the id its press was matched to. -/
def Follows (id : UInt32) (held : Option UInt32) : KeyMove → Prop
  | press => held = none
  | again | release => held = some id

end KeyMove

/-- The id a key is held under after some moves. -/
def heldAfterMoves (moves : List (UInt32 × KeyMove)) : Option UInt32 :=
  moves.foldl (fun held move => move.2.after move.1 held) none

/-- One more move is made last. -/
theorem heldAfterMoves_snoc (moves : List (UInt32 × KeyMove)) (move : UInt32 × KeyMove) :
    heldAfterMoves (moves ++ [move]) = move.2.after move.1 (heldAfterMoves moves) := by
  unfold heldAfterMoves
  rw [List.foldl_append]
  rfl

/-- Repeats do not matter for whether a key is held. -/
theorem heldAfterMoves_edges (moves : List (UInt32 × KeyMove)) :
    heldAfterMoves (moves.filter fun move => move.2.isEdge) = heldAfterMoves moves := by
  -- The induction is on the moves from the last to the first.
  induction moves using List.reverseRecOn with
  | nil => rfl
  | append_singleton moves move ih =>
    rw [List.filter_append, heldAfterMoves_snoc, ← ih]
    obtain ⟨id, move⟩ := move
    cases move with
    | again =>
      exact congrArg heldAfterMoves (List.append_nil _)
    | press => exact heldAfterMoves_snoc _ (id, .press)
    | release => exact heldAfterMoves_snoc _ (id, .release)

/-- Whether a physical key can make moves in their order. -/
def PhysicalOrder (moves : List (UInt32 × KeyMove)) : Prop :=
  ∀ before move later, moves = before ++ move :: later →
    move.2.Follows move.1 (heldAfterMoves before)

/-- The first moves of a key are in order if all are. -/
theorem PhysicalOrder.left {first second : List (UInt32 × KeyMove)}
    (order : PhysicalOrder (first ++ second)) : PhysicalOrder first := by
  intro before move later same
  apply order before move (later ++ second)
  rw [same, List.append_assoc]
  rfl

/-- One more move is in order that the key can make after the others. -/
theorem PhysicalOrder.snoc {moves : List (UInt32 × KeyMove)} {move : UInt32 × KeyMove}
    (order : PhysicalOrder moves) (follows : move.2.Follows move.1 (heldAfterMoves moves)) :
    PhysicalOrder (moves ++ [move]) := by
  intro before other later same
  rcases List.eq_nil_or_concat later with rfl | ⟨front, last, rfl⟩
  -- The move asked about is the new one, or one of the old.
  · obtain ⟨rfl, ends⟩ := List.append_inj' same rfl
    cases ends
    exact follows
  · rw [List.concat_eq_append, ← List.cons_append, ← List.append_assoc] at same
    exact order before other front (List.append_inj' same rfl).1

/-- A key's repeat or release comes right after another move under the same id. -/
theorem PhysicalOrder.follows_same {before : List (UInt32 × KeyMove)} {id : UInt32}
    (order : PhysicalOrder before) (held : heldAfterMoves before = some id) :
    ∃ front move, before = front ++ [(id, move)] := by
  rcases List.eq_nil_or_concat before with rfl | ⟨front, ⟨other, move⟩, rfl⟩
  -- Before any move the key is up.
  · cases held
  · rw [List.concat_eq_append] at order held ⊢
    rw [heldAfterMoves_snoc] at held
    have follows := order front (other, move) [] rfl
    -- The last move was under the id the key is held under.
    cases move with
    | press =>
      cases held
      exact ⟨front, .press, rfl⟩
    | again =>
      cases follows.symm.trans held
      exact ⟨front, .again, rfl⟩
    | release => cases held

namespace PhysicalKey

variable (key : PhysicalKey)

/-- Whether a dispatch is one of the key's events. -/
def owns (request : DispatchRequest) : Bool :=
  match request.origin with
  | .physical id => key.ids id
  | .injected _ => false

/-- The move of the key that a task dispatches, if it does so. -/
def move (entry : EngineTask) : Option (UInt32 × KeyMove) :=
  match entry.role with
  | .dispatch ⟨.physical id, kind, repeated⟩ =>
    if key.ids id then some (id, .ofEvent kind repeated) else none
  | _ => none

/-- The moves of the key that were dispatched, in the order of their tasks. -/
def moves (engine : Engine) : List (UInt32 × KeyMove) := engine.tasks.filterMap key.move

/-- Whether a task dispatches an event of the key. -/
def Dispatches (engine : Engine) (task : Nat) : Prop :=
  ∃ entry move, engine.tasks[task]? = some entry ∧ key.move entry = some move

/-- Whether a binding found for a dispatch is the key's just if the dispatch is. -/
def Names (request : DispatchRequest) (binding : HeldBinding) : Prop :=
  binding.identifier = key.ident ↔ key.owns request = true

/-- What keeps the identifier and the ids of the key apart from those of all others. -/
structure Separate (engine : Engine) : Prop where
  sound : engine.Sound
  named : ∀ entry ∈ engine.tasks, entry.Named
  registered : ∀ id binding, engine.bindings.lookup id = some binding →
    (binding.identifier = key.ident ↔ key.ids id = true)
  held : ∀ id binding, engine.heldBindings.lookup id = some binding →
    (binding.identifier = key.ident ↔ key.ids id = true)
  /-- Nobody injects the key's events. -/
  injected : ∀ entry ∈ engine.tasks, ∀ request ident, entry.role = .dispatch request →
    request.origin = .injected ident → ident ≠ key.ident
  /-- Who acts under the key's identifier dispatches one of its events. -/
  acts : ∀ entry ∈ engine.tasks, entry.role.kind ≠ none → entry.identifier = some key.ident →
    key.move entry ≠ none

/-- What the engine retains of a key that is held under an id, or up. -/
structure Retains (engine : Engine) (held : Option UInt32) : Prop where
  tracker : KeyStateTracker.isDown engine.keyTracker key.ident = held.isSome
  bindings : ∀ id, key.ids id = true →
    ((engine.heldBindings.lookup id).isSome = true ↔ held = some id)

end PhysicalKey

namespace Engine

/-- The binding the binding manager finds for a dispatch. -/
def lookedUp (engine : Engine) (request : DispatchRequest) : Option HeldBinding :=
  match request.origin with
  | .physical id => engine.resolve id
  | .injected ident => (engine.chordForIdent ident).map fun chord => ⟨ident, chord⟩

/-- What a dispatch notes of a binding that was retained. -/
def letsGo (request : DispatchRequest) : List Operation :=
  match request.origin, request.kind with
  | .physical id, .keyUp => [.letGo id]
  | _, _ => []

/-- What a dispatch notes of a binding that was looked up. -/
def holds (request : DispatchRequest) (binding : HeldBinding) : List Operation :=
  match request.origin, request.kind with
  | .physical id, .keyDown => [.hold id binding]
  | _, _ => []

/-- A dispatch whose binding is retained begins with it, and lets it go on a key-up. -/
theorem beginDispatch_retained (engine : Engine) {request : DispatchRequest} {binding : HeldBinding}
    (found : engine.retained request = some binding) : engine.beginDispatch request =
      (engine.dispatchResolved request binding).after (letsGo request) := by
  -- Only a physical key-up lets a binding go.
  obtain ⟨origin, kind, repeated⟩ := request
  unfold beginDispatch letsGo
  rw [found]
  cases origin <;> cases kind <;> rfl

/-- A dispatch whose binding is not retained awaits the binding manager. -/
theorem beginDispatch_unretained (engine : Engine) {request : DispatchRequest}
    (absent : engine.retained request = none) :
    engine.beginDispatch request = { stage := .resolving } := by
  unfold beginDispatch
  rw [absent]

/-- A dispatch whose binding is looked up goes on with it, and holds it on a key-down. -/
theorem resumeResolving_lookedUp (engine : Engine) {request : DispatchRequest}
    {binding : HeldBinding} (found : engine.lookedUp request = some binding) :
    engine.resumeResolving request =
      (engine.dispatchResolved request binding).after (holds request binding) := by
  obtain ⟨origin, kind, repeated⟩ := request
  unfold lookedUp at found
  unfold resumeResolving holds
  cases origin with
  | physical id =>
    simp only at found ⊢
    rw [found]
    cases kind <;> rfl
  -- An injected event holds nothing, as it has no id.
  | injected ident =>
    obtain ⟨chord, known, rfl⟩ := Option.map_eq_some_iff.mp found
    simp only [known]
    rfl

/-- A dispatch for which nothing is registered ends. -/
theorem resumeResolving_unknown (engine : Engine) {request : DispatchRequest}
    (absent : engine.lookedUp request = none) :
    engine.resumeResolving request = { stage := .finished } := by
  unfold lookedUp at absent
  unfold resumeResolving
  cases origin : request.origin with
  | physical id =>
    simp only [origin] at absent ⊢
    rw [absent]
  | injected ident =>
    simp only [origin] at absent ⊢
    rw [Option.map_eq_none_iff.mp absent]

/-- What a resolved dispatch makes of the key tracker and of the held bindings. -/
theorem carryOut_resolved (engine : Engine) (task : Nat) {entry : EngineTask}
    {request : DispatchRequest} {binding : HeldBinding} {noted : List Operation}
    (notes : ∀ operation ∈ noted, operation.notes = true)
    (named : entry.identifier = some binding.identifier) (tasks : List EngineTask) :
    (engine.carryOut task entry ((engine.dispatchResolved request binding).after noted)
        tasks).keyTracker = request.onTracker binding engine.keyTracker ∧
      (engine.carryOut task entry ((engine.dispatchResolved request binding).after noted)
        tasks).heldBindings = noted.foldl Operation.onHeld engine.heldBindings := by
  have quiet := (Operation.notes_quiet notes binding.identifier engine.keyTracker).1
  constructor
  -- What is noted concerns the held bindings only, and the rest the key tracker only.
  · simp only [carryOut_tracker, Resumption.after, List.foldl_append, named, Option.getD_some,
      quiet, dispatchResolved_tracker]
  · simp only [carryOut_held, Resumption.after, List.foldl_append, dispatchResolved_held]

end Engine

/-- A dispatch under another identifier leaves the key as it was. -/
theorem DispatchRequest.onTracker_isDown (request : DispatchRequest) {binding : HeldBinding}
    {ident : String} (other : binding.identifier ≠ ident) (tracker : KeyStateTracker) :
    KeyStateTracker.isDown (request.onTracker binding tracker) ident =
      KeyStateTracker.isDown tracker ident := by
  obtain ⟨origin, kind, repeated⟩ := request
  cases kind with
  | keyDown =>
    cases repeated with
    | false =>
      simp only [onTracker, KeyStateTracker.onKeyDown_isDown]
      simp [Ne.symm other]
    | true => rfl
  | keyUp =>
    simp only [onTracker, KeyStateTracker.onKeyUp_isDown]
    simp [Ne.symm other]

namespace PhysicalKey

variable {key : PhysicalKey} {engine : Engine}

/-- A dispatch is the key's just if it comes from one of its ids. -/
theorem owns_physical {id : UInt32} {kind : EventKind} {repeated : Bool} :
    key.owns ⟨.physical id, kind, repeated⟩ = key.ids id := rfl

/-- What a dispatch of another key notes leaves the key's bindings. -/
theorem onHeld_other {request : DispatchRequest} (other : key.owns request = false)
    (held : HashMap UInt32 HeldBinding) (binding : HeldBinding) {id : UInt32}
    (mine : key.ids id = true) :
    ((Engine.letsGo request).foldl Operation.onHeld held).lookup id = held.lookup id ∧
      ((Engine.holds request binding).foldl Operation.onHeld held).lookup id = held.lookup id := by
  obtain ⟨origin, kind, repeated⟩ := request
  cases origin with
  | injected ident => exact ⟨rfl, rfl⟩
  | physical current =>
    -- The noted binding is under an id of the other key.
    have different : id ≠ current := by
      rintro rfl
      exact absurd (mine.symm.trans other) (by simp)
    cases kind with
    | keyDown => exact ⟨rfl, by simp [Engine.holds, Operation.onHeld, different]⟩
    | keyUp => exact ⟨by simp [Engine.letsGo, Operation.onHeld, different], rfl⟩

/-- Where the key's tracker entry and bindings stay, so does what is retained. -/
theorem Retains.keep {next : Engine} {held : Option UInt32} (retains : key.Retains engine held)
    (tracker : KeyStateTracker.isDown next.keyTracker key.ident =
      KeyStateTracker.isDown engine.keyTracker key.ident)
    (bindings : ∀ id, key.ids id = true →
      next.heldBindings.lookup id = engine.heldBindings.lookup id) : key.Retains next held where
  tracker := tracker.trans retains.tracker
  bindings id mine := by
    rw [bindings id mine]
    exact retains.bindings id mine

/-- What is retained of the key once one of its events is resolved. -/
theorem Retains.resolved {held : Option UInt32} (retains : key.Retains engine held) {id : UInt32}
    {kind : EventKind} {repeated : Bool}
    (follows : (KeyMove.ofEvent kind repeated).Follows id held) {binding : HeldBinding}
    (named : binding.identifier = key.ident) {noted : List Operation}
    (notes : noted = if KeyMove.ofEvent kind repeated = .press then
      Engine.holds ⟨.physical id, kind, repeated⟩ binding
      else Engine.letsGo ⟨.physical id, kind, repeated⟩) {next : Engine}
    (tracker : next.keyTracker =
      DispatchRequest.onTracker ⟨.physical id, kind, repeated⟩ binding engine.keyTracker)
    (bindings : next.heldBindings = noted.foldl Operation.onHeld engine.heldBindings) :
    key.Retains next ((KeyMove.ofEvent kind repeated).after id held) := by
  cases kind with
  | keyDown =>
    cases repeated with
    | false =>
      -- A press is held from now on, and nothing else was.
      obtain rfl : held = none := follows
      refine ⟨?_, fun other owned => ?_⟩
      · rw [tracker]
        simp [DispatchRequest.onTracker, KeyStateTracker.onKeyDown_isDown, named, KeyMove.ofEvent,
          KeyMove.after]
      · rw [bindings, notes]
        have before := retains.bindings other owned
        by_cases same : other = id
        · simp [KeyMove.ofEvent, KeyMove.after, Engine.holds, Operation.onHeld,
            HashMap.lookup_insert_ite, same]
        · simp only [KeyMove.ofEvent, KeyMove.after, Engine.holds, Operation.onHeld,
            HashMap.lookup_insert_ite, same, if_true, if_false, List.foldl_cons, List.foldl_nil,
            Option.some.injEq]
          rw [before]
          simp [Ne.symm same]
    -- A repeat leaves what was retained at the press.
    | true =>
      refine retains.keep (by rw [tracker]; rfl) fun other owned => ?_
      rw [bindings, notes]
      rfl
  | keyUp =>
    -- The release lets go of what was held.
    obtain rfl : held = some id := follows
    refine ⟨?_, fun other owned => ?_⟩
    · rw [tracker]
      simp [DispatchRequest.onTracker, KeyStateTracker.onKeyUp_isDown, named, KeyMove.ofEvent,
        KeyMove.after]
    · rw [bindings, notes]
      have before := retains.bindings other owned
      by_cases same : other = id
      · simp [KeyMove.ofEvent, KeyMove.after, Engine.letsGo, Operation.onHeld,
          HashMap.lookup_erase_ite, same]
      · simp only [KeyMove.ofEvent, KeyMove.after, Engine.letsGo, Operation.onHeld,
          HashMap.lookup_erase_ite, same, reduceCtorEq, if_false, List.foldl_cons, List.foldl_nil]
        rw [before]
        simp [Ne.symm same]

/-- A binding that is retained for a dispatch is the key's just if the dispatch is. -/
theorem Separate.retained_names (separate : key.Separate engine) {request : DispatchRequest}
    (spared : ∀ ident, request.origin = .injected ident → ident ≠ key.ident)
    {binding : HeldBinding} (found : engine.retained request = some binding) :
    key.Names request binding := by
  obtain ⟨origin, kind, repeated⟩ := request
  cases origin with
  | physical id =>
    have held : engine.heldBindings.lookup id = some binding := by
      cases kind <;> cases repeated <;> first | exact found | cases found
    exact separate.held id binding held
  -- An injected event is answered from the key tracker, under its own identifier.
  | injected ident =>
    have same : binding.identifier = ident := by
      cases kind <;> cases repeated <;>
        first
          | cases found
          | (obtain ⟨_, _, rfl⟩ := Option.map_eq_some_iff.mp found; rfl)
    exact iff_of_false (same ▸ spared ident rfl) (by simp [owns])

/-- A binding that is looked up for a dispatch is the key's just if the dispatch is. -/
theorem Separate.lookedUp_names (separate : key.Separate engine) {request : DispatchRequest}
    (spared : ∀ ident, request.origin = .injected ident → ident ≠ key.ident)
    {binding : HeldBinding} (found : engine.lookedUp request = some binding) :
    key.Names request binding := by
  obtain ⟨origin, kind, repeated⟩ := request
  cases origin with
  | physical id => exact separate.registered id binding found
  | injected ident =>
    obtain ⟨chord, _, rfl⟩ := Option.map_eq_some_iff.mp found
    exact iff_of_false (spared ident rfl) (by simp [owns])

/-- A task that is no dispatch makes no move of the key. -/
theorem move_of_idle {entry : EngineTask} (idle : entry.role.kind = none) :
    key.move entry = none := by
  obtain ⟨role, stage, identifier, number⟩ := entry
  cases role with
  | dispatch request => cases idle
  | tick loop => rfl

/-- A task that moves dispatches what it dispatched. -/
theorem move_moveTo (entry : EngineTask) (entries : Nat) (resumed : Resumption) :
    key.move (entry.moveTo entries resumed) = key.move entry := rfl

/-- The moves dispatched stay the same when a task changes but not what it dispatches. -/
theorem moves_set {next : Engine} {task : Nat} {entry changed : EngineTask}
    (found : engine.tasks[task]? = some entry) (same : key.move changed = key.move entry)
    (tasks : next.tasks = engine.tasks.set task changed) : key.moves next = key.moves engine := by
  -- Only whether each task makes a move, and which, is compared.
  have mapped : (engine.tasks.set task changed).map key.move = engine.tasks.map key.move := by
    rw [List.map_set, same]
    apply List.ext_getElem?
    intro index
    by_cases at_ : task = index
    · subst at_
      rw [List.getElem?_set_self (by simpa using (List.getElem?_eq_some_iff.mp found).1),
        List.getElem?_map, found]
      rfl
    · rw [List.getElem?_set_ne at_]
  have listed := congrArg (List.filterMap id) mapped
  rw [List.filterMap_map, List.filterMap_map, Function.id_comp] at listed
  unfold moves
  rw [tasks, listed]

/-- What a step of the engine may do with the key kept apart: nobody injects its events, and what is
registered names it by its own ids. -/
structure Spares (key : PhysicalKey) (choice : EngineChoice) : Prop where
  injected : ∀ request ident, choice = .call request → request.origin = .injected ident →
    ident ≠ key.ident
  registered : ∀ bindings, choice = .register bindings → ∀ id binding,
    bindings.lookup id = some binding → (binding.identifier = key.ident ↔ key.ids id = true)

/-- A binding noted beside a resolved dispatch is the key's just under one of its ids. -/
theorem Separate.noted (separate : key.Separate engine) {request : DispatchRequest}
    {binding : HeldBinding} (names : key.Names request binding) {noted : List Operation}
    (notes : noted = Engine.letsGo request ∨ noted = Engine.holds request binding) {id : UInt32}
    {found : HeldBinding}
    (held : (noted.foldl Operation.onHeld engine.heldBindings).lookup id = some found) :
    found.identifier = key.ident ↔ key.ids id = true := by
  obtain ⟨origin, kind, repeated⟩ := request
  cases origin with
  | injected ident =>
    rcases notes with rfl | rfl <;> exact separate.held id found held
  | physical current =>
    rcases notes with rfl | rfl
    -- What is let go was there before, and what is held is the binding at hand.
    · cases kind with
      | keyDown => exact separate.held id found held
      | keyUp =>
        -- Letting go only removes a binding.
        simp only [Engine.letsGo, List.foldl_cons, List.foldl_nil, Operation.onHeld,
          HashMap.lookup_erase_ite] at held
        split at held
        · cases held
        · exact separate.held id found held
    · cases kind with
      | keyDown =>
        simp only [Engine.holds, List.foldl_cons, List.foldl_nil, Operation.onHeld,
          HashMap.lookup_insert_ite] at held
        split at held
        · rename_i same
          cases held
          rw [same]
          exact names
        · exact separate.held id found held
      | keyUp => exact separate.held id found held

/-- What a resolved dispatch notes is which binding is held. -/
theorem noted_notes {request : DispatchRequest} {binding : HeldBinding} {noted : List Operation}
    (notes : noted = Engine.letsGo request ∨ noted = Engine.holds request binding) :
    ∀ operation ∈ noted, operation.notes = true := by
  obtain ⟨origin, kind, repeated⟩ := request
  rcases notes with rfl | rfl <;> cases origin <;> cases kind <;>
    simp [Engine.letsGo, Engine.holds, Operation.notes]

/-- Carrying out registers nothing. -/
theorem performed_bindings (task : Nat) (ident : String) (operations : List Operation)
    (engine : Engine) :
    (operations.foldl (Engine.perform task ident) engine).bindings = engine.bindings := by
  induction operations generalizing engine with
  | nil => rfl
  | cons operation rest ih => exact ih _

/-- A step other than a registration leaves the registered bindings. -/
theorem step_bindings {host : ProcessHost} {next : Engine} {choice : EngineChoice}
    (stepped : engine.Steps host choice next) (other : ∀ bindings, choice ≠ .register bindings) :
    next.bindings = engine.bindings := by
  cases choice with
  | call request =>
    cases stepped
    exact performed_bindings _ _ _ _
  | resume task answer =>
    obtain ⟨entry, resumed, _, _, rfl⟩ := Engine.step_resume stepped
    exact performed_bindings _ _ _ _
  | tick loop =>
    obtain ⟨_, _, _, rfl | rfl⟩ := Engine.tickLoop_cases stepped <;> rfl
  | loopEnd loop =>
    obtain ⟨_, _, rfl⟩ := Option.map_eq_some_iff.mp stepped
    rfl
  | processEnd run =>
    obtain ⟨_, _, rfl⟩ := Option.map_eq_some_iff.mp stepped
    rfl
  | register bindings => exact absurd rfl (other bindings)
  | stopRepeats | releaseRelays =>
    cases stepped
    rfl

end PhysicalKey

/-- How a dispatch comes by its binding in a step, and what it notes of it. -/
inductive Engine.Finds (engine : Engine) (choice : EngineChoice) (task : Nat)
    (request : DispatchRequest) (binding : HeldBinding) : List Operation → Prop where
  /-- It is started while the binding is retained. -/
  | retained : choice = .call request → task = engine.tasks.length →
      engine.retained request = some binding →
      Finds engine choice task request binding (letsGo request)
  /-- It awaited the binding manager. -/
  | lookedUp (answer : TaskAnswer) (entry : EngineTask) : choice = .resume task answer →
      engine.tasks[task]? = some entry → entry.stage = .resolving →
      entry.role = .dispatch request → engine.lookedUp request = some binding →
      Finds engine choice task request binding (holds request binding)

/-- The ways in which a step can treat what is retained of keys: no binding is found for any
dispatch, or one is. -/
inductive Engine.FindStep (engine : Engine) (choice : EngineChoice) (next : Engine) : Prop where
  | quiet : (∀ ident, KeyStateTracker.isDown next.keyTracker ident =
        KeyStateTracker.isDown engine.keyTracker ident) →
      next.heldBindings = engine.heldBindings →
      (∀ (task : Nat) (entry : EngineTask), next.tasks[task]? = some entry →
        (∃ old, engine.tasks[task]? = some old ∧ entry.role = old.role ∧
          entry.identifier = old.identifier) ∨
        entry.role.kind = none ∨
        entry.identifier = none ∧ ∃ request, choice = .call request ∧
          entry.role = .dispatch request) →
      (∀ task request binding noted, ¬ engine.Finds choice task request binding noted) →
      FindStep engine choice next
  | finds (task : Nat) (entry : EngineTask) (request : DispatchRequest) (binding : HeldBinding)
      (noted : List Operation) : engine.Finds choice task request binding noted →
      next.tasks[task]? = some entry → entry.role = .dispatch request →
      entry.identifier = some binding.identifier →
      (∀ (other : Nat) (also : EngineTask), next.tasks[other]? = some also → other ≠ task →
        engine.tasks[other]? = some also) →
      next.keyTracker = request.onTracker binding engine.keyTracker →
      next.heldBindings = noted.foldl Operation.onHeld engine.heldBindings →
      FindStep engine choice next

/-- A dispatch finds its binding or waits when it is started. -/
theorem Engine.spawn_finds (engine : Engine) (request : DispatchRequest) :
    engine.FindStep (.call request) (engine.spawn request) := by
  cases found : engine.retained request with
  -- Without a retained binding the dispatch awaits the binding manager.
  | none =>
    have waits := engine.beginDispatch_unretained found
    refine .quiet (fun ident => ?_) ?_ (fun task entry read => ?_) ?_
    · simp [spawn, waits]
    · simp [spawn, waits]
    · simp only [spawn, carryOut_tasks] at read
      rcases Nat.lt_or_ge task engine.tasks.length with old | fresh
      · rw [List.getElem?_append_left old] at read
        exact .inl ⟨entry, read, rfl, rfl⟩
      · rw [List.getElem?_append_right fresh] at read
        obtain ⟨_, same⟩ := List.getElem?_eq_some_iff.mp read
        rw [List.getElem_singleton] at same
        subst same
        exact .inr (.inr ⟨by simp [EngineTask.moveTo, waits], request, rfl, rfl⟩)
    · intro _ _ binding _ finds
      cases finds with
      | retained called _ retained =>
        cases called
        cases found.symm.trans retained
      | lookedUp _ _ resumed => cases resumed
  | some binding =>
    have begun := engine.beginDispatch_retained found
    have reached := engine.dispatchResolved_reached request binding
    have named : (EngineTask.moveTo ⟨.dispatch request, .resolving, none, none⟩ engine.entries
        (engine.beginDispatch request)).identifier = some binding.identifier := by
      rw [begun]
      simp [EngineTask.moveTo, Resumption.after, reached]
    obtain ⟨tracker, held⟩ := engine.carryOut_resolved engine.tasks.length
      (PhysicalKey.noted_notes (Or.inl rfl : letsGo request = letsGo request ∨
        letsGo request = holds request binding)) named (engine.tasks ++
        [EngineTask.moveTo ⟨.dispatch request, .resolving, none, none⟩ engine.entries
          (engine.beginDispatch request)])
    refine .finds engine.tasks.length _ request binding _ (.retained rfl rfl found) ?_ rfl named
      (fun other also read different => ?_) ?_ ?_
    · simp [spawn]
    · simp only [spawn, carryOut_tasks] at read
      rcases Nat.lt_or_ge other engine.tasks.length with old | fresh
      · rwa [List.getElem?_append_left old] at read
      · rw [List.getElem?_append_right fresh] at read
        obtain ⟨bound, _⟩ := List.getElem?_eq_some_iff.mp read
        simp only [List.length_singleton] at bound
        omega
    · rw [← tracker, ← begun]
      rfl
    · rw [← held, ← begun]
      rfl

/-- A task that moves finds its binding, or leaves what is retained of keys. -/
theorem Engine.advance_finds {host : ProcessHost} {engine : Engine} {task : Nat}
    {entry : EngineTask} {answer : TaskAnswer} {resumed : Resumption} (sound : entry.Sound)
    (found : engine.tasks[task]? = some entry)
    (went : engine.resumeTask host entry answer = some resumed) :
    engine.FindStep (.resume task answer) (engine.advance task entry resumed) := by
  have within := (List.getElem?_eq_some_iff.mp found).1
  have others : ∀ (other : Nat) (also : EngineTask),
      (engine.advance task entry resumed).tasks[other]? = some also → other ≠ task →
        engine.tasks[other]? = some also := by
    intro other also read different
    simp only [advance, carryOut_tasks] at read
    rwa [List.getElem?_set_ne (Ne.symm different)] at read
  have own : (engine.advance task entry resumed).tasks[task]? =
      some (entry.moveTo engine.entries resumed) := by
    simp only [advance, carryOut_tasks]
    rw [List.getElem?_set_self within]
  -- A task that reaches nothing keeps its identifier.
  have unnamed (reached : resumed.reached = none) : ∀ (other : Nat) (also : EngineTask),
      (engine.advance task entry resumed).tasks[other]? = some also →
        ∃ old, engine.tasks[other]? = some old ∧ also.role = old.role ∧
          also.identifier = old.identifier := by
    intro other also read
    by_cases same : other = task
    · subst same
      cases own.symm.trans read
      exact ⟨entry, found, rfl, by simp [EngineTask.moveTo, reached]⟩
    · exact ⟨also, others other also read same, rfl, rfl⟩
  by_cases resolving : entry.stage = .resolving
  · obtain ⟨request, role, rfl, rfl⟩ := resumeTask_resolving sound resolving went
    cases looked : engine.lookedUp request with
    -- An id that is no longer registered ends the dispatch.
    | none =>
      have unknown := engine.resumeResolving_unknown looked
      refine .quiet (fun ident => ?_) ?_
        (fun other also read => .inl (unnamed ?_ other also read)) ?_
      · simp [advance, unknown]
      · simp [advance, unknown]
      · rw [unknown]
      · intro _ _ binding _ finds
        cases finds with
        | retained called => cases called
        | lookedUp _ also resumed read _ sameRole known =>
          cases resumed
          cases found.symm.trans read
          cases role.symm.trans sameRole
          cases looked.symm.trans known
    | some binding =>
      have went := engine.resumeResolving_lookedUp looked
      have reached := engine.dispatchResolved_reached request binding
      have named : (entry.moveTo engine.entries
          (engine.resumeResolving request)).identifier = some binding.identifier := by
        rw [went]
        simp [EngineTask.moveTo, Resumption.after, reached]
      obtain ⟨tracker, held⟩ := engine.carryOut_resolved task
        (PhysicalKey.noted_notes (.inr rfl)) named (engine.tasks.set task
          (entry.moveTo engine.entries (engine.resumeResolving request)))
      refine .finds task _ request binding _ (.lookedUp .granted entry rfl found resolving role
        looked) own role named others ?_ ?_
      · rw [← tracker, ← went]
        rfl
      · rw [← held, ← went]
        rfl
  · have continues := engine.resumeTask_continues sound.fits resolving went
    have apart := continues.apart
    refine .quiet (fun ident => ?_) ?_ (fun other also read =>
      .inl (unnamed continues.keeps.1 other also read)) ?_
    · simp only [advance, carryOut_tracker]
      exact Operation.onTracker_foldl_isDown _ _ apart _
    · simp only [advance, carryOut_held]
      exact Operation.onHeld_foldl_quiet apart _
    · intro _ _ binding _ finds
      cases finds with
      | retained called => cases called
      | lookedUp _ also resumed read waits =>
        cases resumed
        cases found.symm.trans read
        exact resolving waits

/-- Every step treats what is retained of keys in one of these ways. -/
theorem Engine.Steps.finds {host : ProcessHost} {engine next : Engine} {choice : EngineChoice}
    (stepped : engine.Steps host choice next) (sound : engine.Sound) :
    engine.FindStep choice next := by
  cases stepped.keys with
  | apart uncalled unmoved tracker held _ tasks _ old =>
    refine .quiet (fun ident => by rw [tracker]) held (fun task entry read => ?_) ?_
    · by_cases dispatch : entry.role.kind = none
      · exact .inr (.inl dispatch)
      · exact .inl ⟨entry, old task entry read dispatch, rfl, rfl⟩
    · intro _ _ _ _ finds
      cases finds with
      | retained called => exact uncalled _ called
      | lookedUp _ _ resumed => exact unmoved _ _ resumed
  | called request same =>
    subst same
    exact engine.spawn_finds request
  | resumed task answer entry resumed same found went =>
    subst same
    exact advance_finds (sound entry (List.mem_of_getElem? found)) found went

namespace PhysicalKey

variable {key : PhysicalKey} {engine next : Engine} {host : ProcessHost} {choice : EngineChoice}

/-- A binding found for a dispatch is the key's just if the dispatch is. -/
theorem Separate.finds_names (separate : key.Separate engine) (spares : key.Spares choice)
    {task : Nat} {request : DispatchRequest} {binding : HeldBinding} {noted : List Operation}
    (finds : engine.Finds choice task request binding noted) : key.Names request binding := by
  cases finds with
  | retained called _ found =>
    exact separate.retained_names (fun ident origin => spares.injected request ident called origin)
      found
  | lookedUp answer entry _ found _ role looked =>
    exact separate.lookedUp_names (fun ident origin =>
      separate.injected entry (List.mem_of_getElem? found) request ident role origin) looked

/-- What is noted of a binding that is found says which binding is held. -/
theorem Finds.notes {task : Nat} {request : DispatchRequest} {binding : HeldBinding}
    {noted : List Operation} (finds : engine.Finds choice task request binding noted) :
    noted = Engine.letsGo request ∨ noted = Engine.holds request binding := by
  cases finds with
  | retained => exact .inl rfl
  | lookedUp => exact .inr rfl

/-- A dispatch that is one of the key's events makes a move of the key. -/
theorem move_of_owns {entry : EngineTask} {request : DispatchRequest}
    (role : entry.role = .dispatch request) :
    key.move entry ≠ none ↔ key.owns request = true := by
  obtain ⟨origin, kind, repeated⟩ := request
  unfold move owns
  rw [role]
  cases origin with
  | physical id => simp
  | injected ident => simp

/-- Every step that spares the key keeps it apart. -/
theorem Separate.step (separate : key.Separate engine) (spares : key.Spares choice)
    (stepped : engine.Steps host choice next) : key.Separate next := by
  have finds := stepped.finds separate.sound
  refine ⟨stepped.sound separate.sound, stepped.named separate.sound separate.named, ?_, ?_, ?_, ?_⟩
  · -- Only a registration changes what is registered.
    by_cases registers : ∃ bindings, choice = .register bindings
    · obtain ⟨bindings, rfl⟩ := registers
      cases stepped
      exact spares.registered bindings rfl
    · rw [step_bindings stepped fun bindings same => registers ⟨bindings, same⟩]
      exact separate.registered
  · cases finds with
    | quiet _ held _ _ =>
      rw [held]
      exact separate.held
    | finds task entry request binding noted how _ _ _ _ _ held =>
      intro id found lookup
      rw [held] at lookup
      exact separate.noted (separate.finds_names spares how) (Finds.notes how) lookup
  · -- Whoever dispatches now did so before, or was called.
    intro entry member request ident role origin
    obtain ⟨task, found⟩ := List.mem_iff_getElem?.mp member
    cases finds with
    | quiet _ _ tasks _ =>
      rcases tasks task entry found with ⟨old, before, sameRole, _⟩ | idle | ⟨_, other, called, own⟩
      · exact separate.injected old (List.mem_of_getElem? before) request ident
          (sameRole.symm.trans role) origin
      · rw [role] at idle
        cases idle
      · cases role.symm.trans own
        exact spares.injected request ident called origin
    | finds current resolved asked binding noted how read roleResolved _ others =>
      by_cases same : task = current
      · subst same
        cases read.symm.trans found
        cases role.symm.trans roleResolved
        cases how with
        | retained called _ _ => exact spares.injected request ident called origin
        | lookedUp answer old _ before _ roleBefore _ =>
          exact separate.injected old (List.mem_of_getElem? before) request ident roleBefore origin
      · exact separate.injected entry (List.mem_of_getElem? (others task entry found same)) request
          ident role origin
  · -- A dispatch acts under the key's identifier since its binding was found.
    intro entry member dispatches named
    obtain ⟨task, found⟩ := List.mem_iff_getElem?.mp member
    cases finds with
    | quiet _ _ tasks _ =>
      rcases tasks task entry found with
        ⟨old, before, sameRole, sameName⟩ | idle | ⟨unnamed, _⟩
      · have acts := separate.acts old (List.mem_of_getElem? before)
          (by rw [← sameRole]; exact dispatches) (sameName.symm.trans named)
        unfold move at acts ⊢
        rw [sameRole]
        exact acts
      · exact absurd idle dispatches
      · rw [unnamed] at named
        cases named
    | finds current resolved asked binding noted how read roleResolved identified others =>
      by_cases same : task = current
      · subst same
        cases read.symm.trans found
        rw [move_of_owns roleResolved]
        exact (separate.finds_names spares how).mp (Option.some.inj (identified.symm.trans named))
      · exact separate.acts entry (List.mem_of_getElem? (others task entry found same)) dispatches
          named

/-- A step that finds no binding for an event of the key leaves what is retained of it. -/
theorem Retains.step {held : Option UInt32} (retains : key.Retains engine held)
    (separate : key.Separate engine) (spares : key.Spares choice)
    (stepped : engine.Steps host choice next)
    (other : ∀ task request binding noted, engine.Finds choice task request binding noted →
      key.owns request = false) : key.Retains next held := by
  -- Either no binding is found, or the one of another key.
  cases stepped.finds separate.sound with
  | quiet tracker bindings _ _ => exact retains.keep (tracker _) fun id _ => by rw [bindings]
  | finds task entry request binding noted how _ _ _ _ tracker bindings =>
    have foreign := other task request binding noted how
    have names := separate.finds_names spares how
    refine retains.keep ?_ fun id mine => ?_
    · rw [tracker]
      exact request.onTracker_isDown (fun same => by
        rw [names.mp same] at foreign
        cases foreign) _
    · rw [bindings]
      obtain ⟨letGo, kept⟩ := onHeld_other foreign engine.heldBindings binding mine
      rcases Finds.notes how with rfl | rfl
      · exact letGo
      · exact kept

end PhysicalKey

end Hotki

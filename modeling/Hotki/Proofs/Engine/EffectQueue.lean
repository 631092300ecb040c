import Hotki.Base.Transcript
import Hotki.Proofs.Engine.Activities
import Mathlib.Order.Bounds.Basic

/-! What comes of an effect queue: how far it is applied, and what the dispatch does after it. -/

namespace Hotki

open Base

namespace Engine.DispatchResult

/-- Different results have different priorities. -/
theorem priority_injective : Function.Injective priority := by
  intro left right same
  cases left <;> cases right <;> first | rfl | cases same

/-- Results are ordered by their strength. -/
instance : LinearOrder DispatchResult := LinearOrder.lift' priority priority_injective

/-- The exit is the weakest result. -/
theorem autoExit_le (result : DispatchResult) : autoExit ≤ result := Nat.zero_le result.priority

/-- Merging keeps the stronger result. -/
theorem combine_eq_max (result other : DispatchResult) : result.combine other = max result other := by
  cases result <;> cases other <;> rfl

/-- A result raised to a stay if one was asked for. -/
def raised (stay : Bool) (result : DispatchResult) : DispatchResult :=
  if stay then max result .stay else result

/-- A stay asked for raises the exit and nothing else. -/
theorem withStay_eq_raised (result : DispatchResult) (requested : Bool) :
    result.withStay requested = result.raised requested := by
  cases result <;> cases requested <;> rfl

/-- Two requests to stay raise as one of them does. -/
theorem raised_raised (result : DispatchResult) (first second : Bool) :
    (result.raised first).raised second = result.raised (first || second) := by
  cases result <;> cases first <;> cases second <;> rfl

/-- A raised result is the exit only of an exit that nobody asked to stay from. -/
theorem raised_eq_autoExit {result : DispatchResult} {stay : Bool} :
    result.raised stay = .autoExit ↔ result = .autoExit ∧ stay = false := by
  cases result <;> cases stay <;> decide

end Engine.DispatchResult

variable {T : Externals} [BEq T.Displays]

namespace Activity

variable {α β : Type} (host : Surroundings T)

/-- Whether a part of an operation ends so, having done its segments in the states it found. -/
def Ends (activity : Activity T α) (did : Transcript (LiveEngine T) (Segment T))
    (ended : Except EngineError α) : Prop :=
  Program.Ends (Segment.perform host) activity.run did ended

variable {host} {did : Transcript (LiveEngine T) (Segment T)}

/-- A part that only returns ends with its value. -/
@[simp] theorem ends_pure {value : α} {ended : Except EngineError α} :
    (pure value : Activity T α).Ends host did ended ↔ did = [] ∧ .ok value = ended :=
  Program.ends_done

/-- A part that only fails ends with its error. -/
@[simp] theorem ends_throw {error : EngineError} {ended : Except EngineError α} :
    (throw error : Activity T α).Ends host did ended ↔ did = [] ∧ .error error = ended :=
  Program.ends_done

/-- Two parts one after the other end as the first does with an error, or else as the second. -/
theorem ends_bind {activity : Activity T α} {next : α → Activity T β}
    {ended : Except EngineError β} :
    (activity >>= next).Ends host did ended ↔
      (∃ error, activity.Ends host did (.error error) ∧ ended = .error error) ∨
      ∃ value before after, did = before ++ after ∧ activity.Ends host before (.ok value) ∧
        (next value).Ends host after ended := by
  -- An error in the first part ends both.
  refine Program.ends_bind.trans ⟨?_, ?_⟩
  · rintro ⟨result, before, after, rfl, first, second⟩
    cases result with
    | ok value => exact .inr ⟨value, before, after, rfl, first, second⟩
    | error error =>
      obtain ⟨rfl, rfl⟩ := ends_throw.mp second
      exact .inl ⟨error, by rwa [List.append_nil], rfl⟩
  · rintro (⟨error, first, rfl⟩ | ⟨value, before, after, rfl, first, second⟩)
    · exact ⟨.error error, did, [], (List.append_nil did).symm, first, .done _⟩
    · exact ⟨.ok value, before, after, rfl, first, second⟩

/-- A segment ends with its answer. -/
theorem ends_segment {segment : Segment T} {ended : Except EngineError segment.Answer} :
    (Activity.segment segment).Ends host did ended ↔
      ∃ engine, did = [(engine, segment)] ∧ .ok (segment.perform host engine).1 = ended := by
  refine Program.ends_call.trans ⟨?_, ?_⟩
  · rintro ⟨engine, further, rfl, following⟩
    obtain ⟨rfl, rfl⟩ := Program.ends_done.mp following
    exact ⟨engine, rfl, rfl⟩
  · rintro ⟨engine, rfl, rfl⟩
    exact ⟨engine, [], rfl, .done _⟩

/-- A segment that may fail ends as it answers. -/
theorem ends_attempt {segment : Segment T} (fallible : segment.Answer = Except EngineError α)
    {ended : Except EngineError α} :
    (attempt segment fallible).Ends host did ended ↔
      ∃ engine, did = [(engine, segment)] ∧ fallible ▸ (segment.perform host engine).1 = ended := by
  -- The equation only renames the type of the answer.
  have renamed : ∀ {Named : Type} (same : segment.Answer = Named) (ended : Named),
      Program.Ends (Segment.perform host)
        (same ▸ (Program.perform segment : Program (@Segment.Answer T) segment.Answer)) did ended ↔
        ∃ engine, did = [(engine, segment)] ∧ same ▸ (segment.perform host engine).1 = ended := by
    intro Named same ended
    subst same
    exact Program.ends_perform
  exact renamed fallible ended

end Activity

/-- One effect of a queue that was applied, with what it did and how it ended. -/
structure AppliedEffect (T : Externals) where
  effect : Effect
  did : Transcript (LiveEngine T) (Segment T)
  ended : Except EngineError EffectApplication

/-- Whether nothing of the queue is applied after an effect: it failed, or is terminal. -/
def AppliedEffect.stops (event : AppliedEffect T) : Bool :=
  match event.ended with
  | .ok outcome => outcome.terminal
  | .error _ => true

/-- A queue applied in order, up to and including the first effect that stops it. -/
structure QueueRun (host : Surroundings T) (apply : Effect → Activity T EffectApplication)
    (queue : List Effect) where
  applied : List (AppliedEffect T)
  /-- The effects that were not applied. -/
  left : List Effect
  inOrder : queue = applied.map AppliedEffect.effect ++ left
  each : ∀ event ∈ applied, (apply event.effect).Ends host event.did event.ended
  unstopped : ∀ event ∈ applied.dropLast, event.stops = false
  stopped : left ≠ [] → ∃ event ∈ applied.getLast?, event.stops = true

namespace QueueRun

variable {host : Surroundings T} {apply : Effect → Activity T EffectApplication}
  {queue rest : List Effect}

/-- What the applied effects did, one after the other. -/
def did (run : QueueRun host apply queue) : Transcript (LiveEngine T) (Segment T) :=
  (run.applied.map AppliedEffect.did).flatten

/-- The results of the applied effects. -/
def results (run : QueueRun host apply queue) : Set Engine.DispatchResult :=
  {result | ∃ event ∈ run.applied, ∃ outcome, event.ended = .ok outcome ∧ outcome.result = result}

/-- What comes of a queue whose effects are merged into a result: the error of the effect that
failed, or the strongest result, terminal if an effect was. -/
structure Outcome (run : QueueRun host apply queue) (start : Engine.DispatchResult)
    (ended : Except EngineError EffectApplication) : Prop where
  failed : ∀ error, ended = .error error ↔ ∃ event ∈ run.applied, event.ended = .error error
  strongest : ∀ outcome, ended = .ok outcome →
    IsGreatest (insert start run.results) outcome.result
  terminal : ∀ outcome, ended = .ok outcome →
    (outcome.terminal = true ↔ ∃ event ∈ run.applied, event.stops = true)

/-- Nothing is applied of an empty queue. -/
def nothing : QueueRun host apply [] where
  applied := []
  left := []
  inOrder := rfl
  each event applied := by cases applied
  unstopped event applied := by cases applied
  stopped nonempty := absurd rfl nonempty

/-- Nothing is applied after an effect that stops the queue. -/
def stop (event : AppliedEffect T) (rest : List Effect)
    (ends : (apply event.effect).Ends host event.did event.ended) (stops : event.stops = true) :
    QueueRun host apply (event.effect :: rest) where
  applied := [event]
  left := rest
  inOrder := rfl
  each other applied := by rwa [List.mem_singleton.mp applied]
  unstopped other applied := by cases applied
  stopped _ := ⟨event, rfl, stops⟩

/-- The rest of a queue is applied after an effect that does not stop it. -/
def follow (event : AppliedEffect T) (run : QueueRun host apply rest)
    (ends : (apply event.effect).Ends host event.did event.ended) (continues : event.stops = false) :
    QueueRun host apply (event.effect :: rest) where
  applied := event :: run.applied
  left := run.left
  inOrder := congrArg (event.effect :: ·) run.inOrder
  each := List.forall_mem_cons.mpr ⟨ends, run.each⟩
  unstopped := by
    cases shape : run.applied with
    | nil =>
      intro other applied
      cases applied
    | cons first others =>
      have unstopped := run.unstopped
      rw [shape] at unstopped
      exact List.forall_mem_cons.mpr ⟨continues, unstopped⟩
  stopped nonempty := by
    obtain ⟨last, found, stops⟩ := run.stopped nonempty
    refine ⟨last, ?_, stops⟩
    rw [Option.mem_def, List.getLast?_cons, Option.mem_def.mp found]
    rfl

/-- A queue applied no further ends with what it was merged into. -/
theorem nothing_outcome {start : EffectApplication} (continues : start.terminal = false) :
    (nothing : QueueRun host apply []).Outcome start.result (.ok start) := by
  refine ⟨fun error => ?_, fun outcome same => ?_, fun outcome same => ?_⟩
  · simp [nothing]
  · obtain rfl := Except.ok.inj same
    exact ⟨.inl rfl, by simp [nothing, results]⟩
  · obtain rfl := Except.ok.inj same
    simp [nothing, continues]

/-- A queue fails with the effect that does. -/
theorem stop_failed {effect : Effect} {did : Transcript (LiveEngine T) (Segment T)}
    {error : EngineError} (ends : (apply effect).Ends host did (.error error))
    (start : Engine.DispatchResult) :
    (stop ⟨effect, did, .error error⟩ rest ends rfl).Outcome start (.error error) := by
  refine ⟨fun other => ?_, fun outcome same => ?_, fun outcome same => ?_⟩
  · simp [stop]
  · cases same
  · cases same

/-- A queue ends with a terminal effect, merging its result in. -/
theorem stop_terminal {effect : Effect} {did : Transcript (LiveEngine T) (Segment T)}
    {outcome : EffectApplication} (ends : (apply effect).Ends host did (.ok outcome))
    (terminal : outcome.terminal = true) (start : Engine.DispatchResult) :
    (stop ⟨effect, did, .ok outcome⟩ rest ends terminal).Outcome start
      (.ok ⟨start.combine outcome.result, true⟩) := by
  -- The terminal effect is the last one, so its result is merged into all before it.
  have results : (stop ⟨effect, did, .ok outcome⟩ rest ends terminal).results =
      {outcome.result} := by
    ext result
    simp [QueueRun.results, stop, eq_comm]
  refine ⟨fun other => ?_, fun merged same => ?_, fun merged same => ?_⟩
  · simp [stop]
  · obtain rfl := Except.ok.inj same
    rw [results, Engine.DispatchResult.combine_eq_max]
    exact isGreatest_pair
  · obtain rfl := Except.ok.inj same
    simp [stop, AppliedEffect.stops, terminal]

/-- A queue that goes on ends as its rest does, merged into the result of the effect too. -/
theorem follow_outcome {effect : Effect} {did : Transcript (LiveEngine T) (Segment T)}
    {outcome : EffectApplication} {run : QueueRun host apply rest}
    (ends : (apply effect).Ends host did (.ok outcome)) (continues : outcome.terminal = false)
    {start : Engine.DispatchResult} {ended : Except EngineError EffectApplication}
    (comes : run.Outcome (start.combine outcome.result) ended) :
    (follow ⟨effect, did, .ok outcome⟩ run ends continues).Outcome start ended := by
  refine ⟨fun other => ?_, fun merged same => ?_, fun merged same => ?_⟩
  · simp [follow, comes.failed other]
  · -- The greatest of the merged result and the others is the greatest of all of them.
    have results : (follow ⟨effect, did, .ok outcome⟩ run ends continues).results =
        insert outcome.result run.results := by
      ext result
      simp [QueueRun.results, follow, eq_comm]
    obtain ⟨among, above⟩ := comes.strongest merged same
    rw [Engine.DispatchResult.combine_eq_max] at among above
    rw [results]
    have weaker := above (Set.mem_insert _ _)
    refine ⟨?_, fun result member => ?_⟩
    · rcases among with merged | other
      · rcases max_choice start outcome.result with first | second
        · exact .inl (merged.trans first)
        · exact .inr (.inl (merged.trans second))
      · exact .inr (.inr other)
    · rcases member with rfl | rfl | other
      · exact (le_max_left _ _).trans weaker
      · exact (le_max_right _ _).trans weaker
      · exact above (.inr other)
  · rw [comes.terminal merged same]
    simp [follow, AppliedEffect.stops, continues]

end QueueRun

namespace Activity

variable {host : Surroundings T} {did : Transcript (LiveEngine T) (Segment T)}

/-- Whatever is left of a queue is applied in order up to the first effect that stops it. -/
theorem applyEffectQueue_ends {held : HandlerRef → Activity T EffectApplication} {ident : String}
    {ctx : ModeCtx} {run : EffectRun} {queue : List Effect} {applied : EffectApplication}
    {ended : Except EngineError EffectApplication} (continues : applied.terminal = false)
    (ends : (applyEffectQueue held ident ctx run applied queue).Ends host did ended) :
    ∃ queueRun : QueueRun host (applyEffect held ident ctx run) queue,
      queueRun.did = did ∧ queueRun.Outcome applied.result ended := by
  -- The induction is on the queue, and an effect ends it by failing or by being terminal.
  induction queue generalizing applied did with
  | nil =>
    obtain ⟨rfl, rfl⟩ := ends_pure.mp ends
    exact ⟨.nothing, rfl, QueueRun.nothing_outcome continues⟩
  | cons effect rest ih =>
    rcases ends_bind.mp ends with ⟨error, failed, rfl⟩ | ⟨outcome, before, after, rfl, first, further⟩
    · exact ⟨.stop ⟨effect, did, .error error⟩ rest failed rfl, List.append_nil did,
        QueueRun.stop_failed failed applied.result⟩
    · cases terminal : outcome.terminal with
      | true =>
        rw [if_pos terminal] at further
        obtain ⟨rfl, rfl⟩ := ends_pure.mp further
        exact ⟨.stop ⟨effect, before, .ok outcome⟩ rest first terminal, rfl,
          QueueRun.stop_terminal first terminal applied.result⟩
      | false =>
        rw [if_neg (ne_true_of_eq_false terminal)] at further
        have merged : (applied.combineResult outcome.result).terminal = false := continues
        obtain ⟨queueRun, rfl, comes⟩ := ih merged further
        exact ⟨.follow ⟨effect, before, .ok outcome⟩ queueRun first terminal, rfl,
          QueueRun.follow_outcome first terminal comes⟩

/-- Applies one effect of a queue that a key brings about. -/
abbrev applyFor (ident : String) (ctx : ModeCtx) (run : EffectRun) :
    Effect → Activity T EffectApplication :=
  applyEffect (startUntilKeyup ident ctx) ident ctx run

omit [BEq T.Displays] in
/-- Within a repeated action it does not matter how an action would be held. -/
theorem applyEffect_repeated (held : HandlerRef → Activity T EffectApplication) (ident : String)
    (ctx : ModeCtx) {run : EffectRun} (repeated : run ≠ .oneShot) :
    applyEffect held ident ctx run = applyFor ident ctx run := by
  funext effect
  cases run with
  | oneShot => exact absurd rfl repeated
  | repeatedFirst | repeatedTick => cases effect <;> rfl

/-- What a handler answered in a state, with the effects it queued. -/
def handlerAnswer (host : Surroundings T) (engine : LiveEngine T) (handler : HandlerRef)
    (ctx : ModeCtx) (permission : ActionRepeatPermission) :
    Except EngineError (Option HandlerResult) :=
  (engine.core.callHandler host handler ctx permission).1

end Activity

/-- A handler that was called and whose queue was applied, with the result of the handler and what
came of its queue: an error, none without a configuration or after a script error, or an outcome. -/
inductive HandlerRun (host : Surroundings T) (ident : String) (ctx : ModeCtx)
    (permission : ActionRepeatPermission) (run : EffectRun) (handler : HandlerRef) :
    Transcript (LiveEngine T) (Segment T) →
      Except EngineError (Option (HandlerResult × EffectApplication)) → Prop
  | failed {engine : LiveEngine T} {error : EngineError}
      (answered : Activity.handlerAnswer host engine handler ctx permission = .error error) :
      HandlerRun host ident ctx permission run handler
        [(engine, .callHandler handler ctx permission)] (.error error)
  | absent {engine : LiveEngine T}
      (answered : Activity.handlerAnswer host engine handler ctx permission = .ok none) :
      HandlerRun host ident ctx permission run handler
        [(engine, .callHandler handler ctx permission)] (.ok none)
  | applied {engine : LiveEngine T} {result : HandlerResult}
      (answered : Activity.handlerAnswer host engine handler ctx permission = .ok (some result))
      (queue : QueueRun host (Activity.applyFor ident ctx run) result.effects)
      {ended : Except EngineError EffectApplication} (comes : queue.Outcome .autoExit ended) :
      HandlerRun host ident ctx permission run handler
        ((engine, .callHandler handler ctx permission) :: queue.did)
        (ended.map fun outcome => some (result, outcome))

namespace Activity

variable {host : Surroundings T} {did : Transcript (LiveEngine T) (Segment T)} {α : Type}

/-- Whatever calls a handler, applies its queue and finishes alike ends as its run does. -/
theorem handler_ends {ident : String} {ctx : ModeCtx} {permission : ActionRepeatPermission}
    {run : EffectRun} {handler : HandlerRef} {ended : Except EngineError α}
    {held : HandlerRef → Activity T EffectApplication} {next : Option HandlerResult → Activity T α}
    (absent : α) (finish : HandlerResult → EffectApplication → α)
    (same : applyEffect held ident ctx run = applyFor ident ctx run)
    (without : next none = pure absent)
    (queued : ∀ result, next (some result) = do
      let outcome ← applyEffectQueue held ident ctx run {} result.effects
      return finish result outcome)
    (ends : (attempt (.callHandler handler ctx permission) rfl >>= next).Ends host did ended) :
    ∃ handled, HandlerRun host ident ctx permission run handler did handled ∧
      ended = handled.map fun answer =>
        answer.elim absent fun outcome => finish outcome.1 outcome.2 := by
  -- A handler may fail, be gone, or answer with a queue.
  rcases ends_bind.mp ends with ⟨error, failed, rfl⟩ | ⟨answer, before, after, rfl, first, further⟩
  · obtain ⟨engine, rfl, answered⟩ := (ends_attempt rfl).mp failed
    exact ⟨_, .failed answered, rfl⟩
  · obtain ⟨engine, rfl, answered⟩ := (ends_attempt rfl).mp first
    cases answer with
    | none =>
      rw [without] at further
      obtain ⟨rfl, rfl⟩ := ends_pure.mp further
      exact ⟨_, .absent answered, rfl⟩
    | some result =>
      rw [queued] at further
      have applies : ∀ {did ended},
          (applyEffectQueue held ident ctx run {} result.effects).Ends host did ended →
          ∃ queue : QueueRun host (applyFor ident ctx run) result.effects,
            queue.did = did ∧ queue.Outcome .autoExit ended :=
        fun ends => same ▸ applyEffectQueue_ends rfl ends
      rcases ends_bind.mp further with
        ⟨error, failed, rfl⟩ | ⟨outcome, during, rest, rfl, applied, finished⟩
      · obtain ⟨queue, rfl, comes⟩ := applies failed
        exact ⟨.error error, .applied answered queue comes, rfl⟩
      · obtain ⟨queue, rfl, comes⟩ := applies applied
        obtain ⟨rfl, rfl⟩ := ends_pure.mp finished
        rw [List.append_nil]
        exact ⟨.ok (some (result, outcome)), .applied answered queue comes, rfl⟩

end Activity

/-- Whether a relay target stands for one destination. -/
def LiveEngine.Resolves (host : Surroundings T) (engine : LiveEngine T) : RelayTarget → Prop
  | .focused => True
  | .applicationName name =>
    ∃ pid, host.resolveApplication engine.core.readings name = .found pid

/-- The result of a navigation request. -/
def NavRequest.result : NavRequest → Engine.DispatchResult
  | .push _ _ => .enteredMode
  | _ => .navigation

/-- What comes of one invocation of a held action, raised to a stay if its handler asked for one. -/
def heldOutcome : Option (HandlerResult × EffectApplication) → EffectApplication
  | none => { terminal := true }
  | some (result, applied) => { applied with result := applied.result.raised result.stay }

/-- What comes of an effect of each kind that did not fail, given what it did. -/
def Effect.Outcome (host : Surroundings T) (ident : String) (ctx : ModeCtx) (run : EffectRun) :
    Effect → Transcript (LiveEngine T) (Segment T) → EffectApplication → Prop
  | .exec .reloadConfig, _, outcome => outcome = ⟨.autoExit, true⟩
  | .exec (.relay spec), did, outcome =>
    outcome.result = .autoExit ∧
      (outcome.terminal = true ↔ Chord.parse spec.chord = none ∨
        ∃ engine, (engine, .resolveRelay spec.target) ∈ did ∧ ¬ engine.Resolves host spec.target)
  | .exec _, _, outcome => outcome = ⟨.autoExit, false⟩
  | .notify _ _ _, _, outcome => outcome = ⟨.autoExit, false⟩
  | .nav request, _, outcome => outcome = ⟨request.result, false⟩
  | .select config, did, outcome =>
    outcome.terminal = false ∧
      (outcome.result = .selectorOpened ∧
          (∃ engine items, (engine, .openSelector config items ctx) ∈ did) ∨
        outcome.result = .autoExit ∧
          ¬ ∃ engine items, (engine, .openSelector config items ctx) ∈ did)
  | .untilKeyUp action _, did, outcome =>
    if run = .oneShot then
      ∃ handled before after, did = before ++ after ∧
        HandlerRun host ident ctx .repeatedAction .repeatedFirst action before (.ok handled) ∧
        outcome = heldOutcome handled ∧
        if outcome.terminal then after = []
        else ∃ engine, after = [(engine, .startLoop ident ⟨action, ctx⟩)]
    else outcome = ⟨.autoExit, true⟩

omit [BEq T.Displays] in
/-- A navigation request answers its result. -/
theorem RuntimeState.applyNavRequest_result (rt : RuntimeState T) (window : Option FocusSnapshot)
    (request : NavRequest) : (rt.applyNavRequest window request).1 = request.result := by
  cases request <;> rfl

/-- A mapped answer without an error is the image of one. -/
theorem exists_of_map_eq_ok {ε α β : Type} {answer : Except ε α} {image : α → β} {value : β}
    (mapped : answer.map image = .ok value) : ∃ inner, answer = .ok inner ∧ image inner = value := by
  cases answer with
  | ok inner => exact ⟨inner, rfl, Except.ok.inj mapped⟩
  | error error => cases mapped

omit [BEq T.Displays] in
/-- A relay target is resolved without an error to a destination just if it stands for one. -/
theorem Core.resolveRelayDestination_resolves {host : Surroundings T} {engine : LiveEngine T}
    {target : RelayTarget} {destination : Option RelayDestination}
    (answered : (engine.core.resolveRelayDestination host target).1 = .ok destination) :
    destination = none ↔ ¬ engine.Resolves host target := by
  cases target with
  | focused =>
    obtain rfl := Except.ok.inj answered
    simp [LiveEngine.Resolves]
  | applicationName name =>
    unfold Core.resolveRelayDestination at answered
    unfold LiveEngine.Resolves
    -- Without one process there is a notification, and no destination if it was sent.
    cases resolution : host.resolveApplication engine.core.readings name with
    | found pid =>
      simp only [resolution] at answered
      obtain rfl := Except.ok.inj answered
      simp [resolution]
    | notRunning | ambiguous _ =>
      simp only [resolution] at answered
      obtain ⟨_, _, rfl⟩ := exists_of_map_eq_ok answered
      simp [resolution]

namespace Activity

variable {host : Surroundings T} {did : Transcript (LiveEngine T) (Segment T)}
  {ident : String} {ctx : ModeCtx} {run : EffectRun}

/-- A part that does something and then returns ends with what it did. -/
theorem ends_then {α β : Type} {activity : Activity T α} {value ended : β}
    (ends : (activity >>= fun _ => pure value : Activity T β).Ends host did (.ok ended)) :
    value = ended ∧ ∃ inner, activity.Ends host did (.ok inner) := by
  rcases ends_bind.mp ends with ⟨error, _, same⟩ | ⟨inner, before, after, rfl, first, finished⟩
  · cases same
  · obtain ⟨rfl, same⟩ := ends_pure.mp finished
    rw [List.append_nil]
    exact ⟨Except.ok.inj same, inner, first⟩

/-- A relay effect merges in nothing, and is terminal just if it has no chord or no destination. -/
theorem applyRelay_ends (ident : String) (ctx : ModeCtx) {spec : RelaySpec}
    {outcome : EffectApplication}
    (ends : (applyRelay spec run).Ends host did (.ok outcome)) :
    (Effect.exec (.relay spec)).Outcome host ident ctx run did outcome := by
  -- The chord may not parse, and a first run may find no destination.
  unfold applyRelay at ends
  cases parsed : Chord.parse spec.chord with
  | none =>
    simp only [parsed] at ends
    obtain ⟨rfl, _⟩ := ends_then ends
    simp [Effect.Outcome, parsed]
  | some chord =>
    simp only [parsed] at ends
    cases run with
    | repeatedTick =>
      obtain ⟨rfl, same⟩ := ends_pure.mp ends
      obtain rfl := Except.ok.inj same
      simp [Effect.Outcome, parsed]
    | oneShot | repeatedFirst =>
      rcases ends_bind.mp ends with ⟨error, _, same⟩ | ⟨destination, before, after, rfl, first, finished⟩
      · cases same
      · obtain ⟨engine, rfl, answered⟩ := (ends_attempt rfl).mp first
        have resolves := Core.resolveRelayDestination_resolves answered
        cases destination with
        | none =>
          obtain ⟨rfl, same⟩ := ends_pure.mp finished
          obtain rfl := Except.ok.inj same
          simpa [Effect.Outcome, parsed] using resolves
        | some destination =>
          obtain ⟨rfl, same⟩ := ends_pure.mp finished
          obtain rfl := Except.ok.inj same
          simpa [Effect.Outcome, parsed] using resolves

/-- An action answers the exit, whatever it did. -/
theorem applyAction_ends {action : Action} {result : Engine.DispatchResult}
    (ends : (applyAction ident action).Ends host did (.ok result)) : result = .autoExit := by
  -- A relay answers the exit as well, once it is applied.
  rcases ends_bind.mp ends with ⟨error, _, same⟩ | ⟨_, before, after, rfl, _, applied⟩
  · cases same
  · cases action with
    | relay spec =>
      rcases ends_bind.mp applied with ⟨error, _, same⟩ | ⟨outcome, _, _, _, relayed, finished⟩
      · cases same
      · obtain ⟨_, same⟩ := ends_pure.mp finished
        have exits : outcome.result = .autoExit := (applyRelay_ends ident ⟨none, false, 0⟩ relayed).1
        rw [← Except.ok.inj same, exits]
    | reloadConfig | clearNotifications | showMainWindow _ => exact (ends_then applied).1.symm
    | shell _ | exec _ | openTarget _ | setVolume _ | changeVolume _ | mute _ =>
      obtain ⟨_, same⟩ := ends_pure.mp applied
      exact (Except.ok.inj same).symm

/-- One invocation of a repeated action comes to what its handler asked for. -/
theorem runRepeatedAction_ends {action : HandlerRef} (repeated : run ≠ .oneShot)
    {ended : Except EngineError EffectApplication}
    (ends : (runRepeatedAction ident action ctx run).Ends host did ended) :
    ∃ handled, HandlerRun host ident ctx .repeatedAction run action did handled ∧
      ended = handled.map heldOutcome := by
  -- A handler that is gone answers the exit, as an empty queue does.
  obtain ⟨handled, called, comes⟩ := handler_ends ⟨.autoExit, true⟩
    (fun result applied => ⟨applied.result.withStay result.stay, applied.terminal⟩)
    (applyEffect_repeated _ ident ctx repeated) rfl (fun _ => rfl) ends
  refine ⟨handled, called, comes.trans ?_⟩
  congr 1
  funext answer
  cases answer with
  | none => rfl
  | some outcome => simp [heldOutcome, Engine.DispatchResult.withStay_eq_raised]

/-- Holding an action comes to what its first invocation does. -/
theorem startUntilKeyup_ends {action : HandlerRef} {timing : Option ScriptRepeat}
    {outcome : EffectApplication}
    (ends : (startUntilKeyup ident ctx action).Ends host did (.ok outcome)) :
    (Effect.untilKeyUp action timing).Outcome host ident ctx .oneShot did outcome := by
  -- The loop is started only if the first invocation was not terminal.
  have repeated : EffectRun.repeatedFirst ≠ .oneShot := by
    intro same
    cases same
  rcases ends_bind.mp ends with ⟨error, _, same⟩ | ⟨first, before, after, rfl, invoked, further⟩
  · cases same
  · obtain ⟨handled, called, comes⟩ := runRepeatedAction_ends repeated invoked
    obtain ⟨answer, rfl, outcome_eq⟩ := exists_of_map_eq_ok comes.symm
    cases terminal : first.terminal with
    | true =>
      rw [if_pos terminal] at further
      obtain ⟨rfl, same⟩ := ends_pure.mp further
      obtain rfl := Except.ok.inj same
      exact ⟨answer, before, [], rfl, called, outcome_eq.symm, (if_pos terminal).mpr rfl⟩
    | false =>
      rw [if_neg (ne_true_of_eq_false terminal)] at further
      obtain ⟨rfl, _, started⟩ := ends_then further
      obtain ⟨engine, rfl, _⟩ := ends_segment.mp started
      exact ⟨answer, before, _, rfl, called, outcome_eq.symm,
        (if_neg (ne_true_of_eq_false terminal)).mpr ⟨engine, rfl⟩⟩

/-- Opening a selector answers whether it did. -/
theorem openSelector_ends {config : SelectorConfig} {opened : Bool}
    (ends : (openSelector config ctx).Ends host did (.ok opened)) :
    opened = true ↔ ∃ engine items, (engine, .openSelector config items ctx) ∈ did := by
  -- Items that cannot be resolved leave no selector to open.
  rcases ends_bind.mp ends with ⟨error, _, same⟩ | ⟨items, before, after, rfl, resolved, further⟩
  · cases same
  · obtain ⟨engine, rfl, _⟩ := (ends_attempt rfl).mp resolved
    cases items with
    | none =>
      obtain ⟨rfl, same⟩ := ends_pure.mp further
      obtain rfl := Except.ok.inj same
      simp
    | some items =>
      obtain ⟨rfl, _, installed⟩ := ends_then further
      obtain ⟨found, rfl, _⟩ := (ends_attempt rfl).mp installed
      simp

/-- Every effect that does not fail comes to what its kind asks for. -/
theorem applyFor_ends {effect : Effect} {outcome : EffectApplication}
    (ends : (applyFor ident ctx run effect).Ends host did (.ok outcome)) :
    effect.Outcome host ident ctx run did outcome := by
  -- One case for each kind of effect.
  cases effect with
  | exec action =>
    cases action with
    | relay spec => exact applyRelay_ends ident ctx ends
    | reloadConfig | clearNotifications | showMainWindow _ | shell _ | exec _ | openTarget _
      | setVolume _ | changeVolume _ | mute _ =>
      rcases ends_bind.mp ends with ⟨error, _, same⟩ | ⟨result, _, _, _, applied, finished⟩
      · cases same
      · obtain ⟨_, same⟩ := ends_pure.mp finished
        obtain rfl := applyAction_ends applied
        exact (Except.ok.inj same).symm
  | notify kind title body => exact (ends_then ends).1.symm
  | nav request =>
    rcases ends_bind.mp ends with ⟨error, _, same⟩ | ⟨result, _, _, _, navigated, finished⟩
    · cases same
    · obtain ⟨_, same⟩ := ends_pure.mp finished
      obtain ⟨engine, _, answered⟩ := ends_segment.mp navigated
      obtain rfl := Except.ok.inj answered
      obtain rfl := Except.ok.inj same
      exact congrArg (EffectApplication.mk · false)
        (engine.core.runtime.applyNavRequest_result ctx.window request)
  | select config =>
    rcases ends_bind.mp ends with ⟨error, _, same⟩ | ⟨opened, before, after, rfl, opens, finished⟩
    · cases same
    · obtain ⟨rfl, same⟩ := ends_pure.mp finished
      obtain rfl := Except.ok.inj same
      have told := openSelector_ends opens
      cases opened <;> simp_all [Effect.Outcome]
  | untilKeyUp action timing =>
    cases run with
    | oneShot => exact startUntilKeyup_ends ends
    | repeatedFirst | repeatedTick => exact (ends_then ends).1.symm

end Activity

/-- A binding that was executed: its mode was entered, or its handler ran. The result is that of the
queue, raised to a stay if the handler or the binding asked for one. -/
inductive BindingRun (host : Surroundings T) (ident : String) (binding : Binding)
    (ctx : ModeCtx) :
    Transcript (LiveEngine T) (Segment T) → Except EngineError (Option Engine.DispatchResult) → Prop
  | mode {mode : ModeRef} {engine : LiveEngine T} (kind : binding.kind = .mode mode) :
      BindingRun host ident binding ctx [(engine, .pushMode binding mode ctx.window)]
        (.ok (some .enteredMode))
  | handler {handler : HandlerRef} {did : Transcript (LiveEngine T) (Segment T)}
      {handled : Except EngineError (Option (HandlerResult × EffectApplication))}
      (kind : binding.kind = .handler handler)
      (called : HandlerRun host ident ctx .heldKey .oneShot handler did handled) :
      BindingRun host ident binding ctx did (handled.map fun answer => answer.map fun outcome =>
        outcome.2.result.raised (outcome.1.stay || binding.flags.stay))

/-- What a dispatch does once its binding was executed: nothing after an error or without a result,
and otherwise a refresh, preceded by the automatic exit just if the result is the exit. -/
def Finishes (host : Surroundings T) (focus : Option FocusSnapshot) :
    Except EngineError (Option Engine.DispatchResult) → Transcript (LiveEngine T) (Segment T) →
      Except EngineError Unit → Prop
  | .error error, after, ended => after = [] ∧ ended = .error error
  | .ok none, after, ended => after = [] ∧ ended = .ok ()
  | .ok (some result), after, ended =>
    ∃ engine exits, after = exits ++ [(engine, .rebind focus)] ∧
      ended = (engine.rebound (engine.core.rebindAndRefresh host.toHost focus)).1 ∧
      if result = .autoExit then ∃ exiting, exits = [(exiting, .navigate .exit none)] else exits = []

namespace Activity

variable {host : Surroundings T} {did : Transcript (LiveEngine T) (Segment T)}
  {ident : String}

/-- Executing a binding comes to what its run does. -/
theorem executeBinding_ends {binding : Binding} {ctx : ModeCtx}
    {ended : Except EngineError (Option Engine.DispatchResult)}
    (ends : (executeBinding ident binding ctx).Ends host did ended) :
    BindingRun host ident binding ctx did ended := by
  -- A mode answers that it was entered, and a handler what its queue came to.
  unfold executeBinding at ends
  cases kind : binding.kind with
  | mode mode =>
    simp only [kind] at ends
    rcases ends_bind.mp ends with ⟨error, failed, rfl⟩ | ⟨_, before, after, rfl, pushed, finished⟩
    · obtain ⟨_, _, same⟩ := ends_segment.mp failed
      cases same
    · obtain ⟨engine, rfl, _⟩ := ends_segment.mp pushed
      obtain ⟨rfl, rfl⟩ := ends_pure.mp finished
      have entered : Engine.DispatchResult.enteredMode.withStay binding.flags.stay = .enteredMode := by
        cases binding.flags.stay <;> rfl
      rw [entered]
      exact BindingRun.mode kind
  | handler handler =>
    simp only [kind] at ends
    obtain ⟨handled, called, rfl⟩ := handler_ends none (fun result applied =>
      some ((applied.result.withStay result.stay).withStay binding.flags.stay))
      (rfl : applyEffect _ ident ctx .oneShot = applyFor ident ctx .oneShot) rfl
      (fun result => by simp [applyEffects]) ends
    have raised := BindingRun.handler kind called
    cases handled with
    | error error => exact raised
    | ok answer =>
      cases answer with
      | none => exact raised
      | some outcome =>
        simp only [Except.map, Option.elim, Engine.DispatchResult.withStay_eq_raised,
          Engine.DispatchResult.raised_raised]
        exact raised

/-- What a dispatch executes a binding with. -/
structure DispatchTarget where
  binding : Binding
  ctx : ModeCtx
  focus : Option FocusSnapshot

/-- What a key-down does until it executes a binding, if it comes to one. -/
def findTarget (host : Surroundings T) (chord : Chord) (ident : String)
    (refreshWorld allowPressFeedback : Bool) : Activity T (Option DispatchTarget) := do
  if refreshWorld && host.syncOnDispatch then refreshWorldFocus
  let focus := (← look).core.focusCtx
  let loaded := (← look).core.config.isSome
  if !loaded then return none
  if ← handleInput chord ident focus then return none
  match ← segment (.resolveKey chord ident focus allowPressFeedback) with
  | none => return none
  | some (binding, ctx) => return some ⟨binding, ctx, focus⟩

/-- What a key-down does from there. -/
def finishTarget (ident : String) : Option DispatchTarget → Activity T Unit
  | none => pure ()
  | some target => do
    match ← executeBinding ident target.binding target.ctx with
    | none => return
    | some result =>
      if result.shouldAutoExit then autoExit
      rebindAndRefresh target.focus

omit [BEq T.Displays] in
/-- A key-down finds its target and goes on from there. -/
theorem handleKeyEvent_eq (chord : Chord) (refreshWorld allowPressFeedback : Bool) :
    handleKeyEvent host chord ident refreshWorld allowPressFeedback =
      findTarget host chord ident refreshWorld allowPressFeedback >>= finishTarget ident := by
  unfold handleKeyEvent findTarget
  dsimp only
  split
  -- After the refresh of the world both cases go on alike.
  on_goal 1 =>
    rw [bind_assoc]
    refine bind_congr fun _ => ?_
  all_goals
    simp only [bind_assoc]
    refine bind_congr fun _ => bind_congr fun _ => ?_
    split
    · rfl
    · rw [bind_assoc]
      refine bind_congr fun consumed => ?_
      split
      · rfl
      · rw [bind_assoc]
        refine bind_congr fun resolved => ?_
        cases resolved <;> rfl

/-- The automatic exit navigates once, and does not fail. -/
theorem autoExit_ends {ended : Except EngineError Unit} :
    (autoExit : Activity T Unit).Ends host did ended ↔
      ∃ engine, did = [(engine, .navigate .exit none)] ∧ .ok () = ended := by
  -- There is one navigation, and after it nothing that could fail.
  unfold autoExit
  constructor
  · intro ends
    rcases ends_bind.mp ends with ⟨error, failed, _⟩ | ⟨_, before, after, rfl, left, finished⟩
    · obtain ⟨_, _, same⟩ := ends_segment.mp failed
      cases same
    · obtain ⟨engine, rfl, _⟩ := ends_segment.mp left
      obtain ⟨rfl, same⟩ := ends_pure.mp finished
      exact ⟨engine, rfl, same⟩
  · intro ⟨engine, did_eq, same⟩
    exact ends_bind.mpr (.inr ⟨_, did, [], (List.append_nil did).symm,
      ends_segment.mpr ⟨engine, did_eq, rfl⟩, ends_pure.mpr ⟨rfl, same⟩⟩)

/-- A target is executed and then finished with. -/
theorem finishTarget_ends {target : DispatchTarget} {ended : Except EngineError Unit}
    (ends : (finishTarget ident (some target)).Ends host did ended) :
    ∃ during after outcome, did = during ++ after ∧
      BindingRun host ident target.binding target.ctx during outcome ∧
      Finishes host target.focus outcome after ended := by
  rcases ends_bind.mp ends with ⟨error, failed, rfl⟩ | ⟨outcome, before, after, rfl, executed, further⟩
  · exact ⟨did, [], _, (List.append_nil did).symm, executeBinding_ends failed, rfl, rfl⟩
  · refine ⟨before, after, _, rfl, executeBinding_ends executed, ?_⟩
    cases outcome with
    | none =>
      obtain ⟨rfl, rfl⟩ := ends_pure.mp further
      exact ⟨rfl, rfl⟩
    | some result =>
      -- Only the exit leaves the modes first, and the refresh comes last in any case.
      by_cases exit : result = .autoExit
      · simp only [Engine.DispatchResult.shouldAutoExit, exit, decide_true, if_true] at further
        rcases ends_bind.mp further with ⟨error, failed, _⟩ | ⟨_, leaving, last, rfl, left, refreshed⟩
        · obtain ⟨_, _, same⟩ := autoExit_ends.mp failed
          cases same
        · obtain ⟨exiting, rfl, _⟩ := autoExit_ends.mp left
          obtain ⟨engine, rfl, answered⟩ := (ends_attempt rfl).mp refreshed
          exact ⟨engine, _, rfl, answered.symm, (if_pos exit).mpr ⟨exiting, rfl⟩⟩
      · simp only [Engine.DispatchResult.shouldAutoExit, exit, decide_false, Bool.false_eq_true,
          if_false] at further
        obtain ⟨engine, rfl, answered⟩ := (ends_attempt rfl).mp further
        exact ⟨engine, [], rfl, answered.symm, (if_neg exit).mpr rfl⟩

end Activity

/-- A key-down that was dispatched: it came to no binding, or the binding was executed. -/
inductive DispatchRun (host : Surroundings T) (chord : Chord) (ident : String)
    (refreshWorld allowPressFeedback : Bool) :
    Transcript (LiveEngine T) (Segment T) → Except EngineError Unit → Prop
  | failed {did : Transcript (LiveEngine T) (Segment T)} {error : EngineError}
      (found : (Activity.findTarget host chord ident refreshWorld allowPressFeedback).Ends host did
        (.error error)) :
      DispatchRun host chord ident refreshWorld allowPressFeedback did (.error error)
  | unbound {did : Transcript (LiveEngine T) (Segment T)}
      (found : (Activity.findTarget host chord ident refreshWorld allowPressFeedback).Ends host did
        (.ok none)) :
      DispatchRun host chord ident refreshWorld allowPressFeedback did (.ok ())
  | bound {before during after : Transcript (LiveEngine T) (Segment T)}
      {target : Activity.DispatchTarget}
      {outcome : Except EngineError (Option Engine.DispatchResult)} {ended : Except EngineError Unit}
      (found : (Activity.findTarget host chord ident refreshWorld allowPressFeedback).Ends host
        before (.ok (some target)))
      (executed : BindingRun host ident target.binding target.ctx during outcome)
      (finished : Finishes host target.focus outcome after ended) :
      DispatchRun host chord ident refreshWorld allowPressFeedback (before ++ (during ++ after))
        ended

/-- A key-down is dispatched so. -/
theorem Activity.handleKeyEvent_ends {host : Surroundings T} {chord : Chord} {ident : String}
    {refreshWorld allowPressFeedback : Bool} {did : Transcript (LiveEngine T) (Segment T)}
    {ended : Except EngineError Unit}
    (ends : (handleKeyEvent host chord ident refreshWorld allowPressFeedback).Ends host did ended) :
    DispatchRun host chord ident refreshWorld allowPressFeedback did ended := by
  -- The target is looked up first; without one there is nothing to execute.
  rw [handleKeyEvent_eq] at ends
  rcases ends_bind.mp ends with ⟨error, failed, rfl⟩ | ⟨target, before, after, rfl, found, further⟩
  · exact .failed failed
  · cases target with
    | none =>
      obtain ⟨rfl, rfl⟩ := ends_pure.mp further
      rw [List.append_nil]
      exact .unbound found
    | some target =>
      obtain ⟨during, after, outcome, rfl, executed, finished⟩ := finishTarget_ends further
      exact .bound found executed finished

/-- The outcome of a queue is the exit just if every applied effect's is, and it stays the exit just
if nobody asks to stay. -/
theorem QueueRun.Outcome.exits {host : Surroundings T}
    {apply : Effect → Activity T EffectApplication} {queue : List Effect}
    {run : QueueRun host apply queue} {outcome : EffectApplication}
    (comes : run.Outcome .autoExit (.ok outcome)) (stay : Bool) :
    outcome.result.raised stay = .autoExit ↔
      (∀ result ∈ run.results, result = .autoExit) ∧ stay = false := by
  -- The exit is the least result, so the greatest is the exit only if all are.
  obtain ⟨among, above⟩ := comes.strongest outcome rfl
  rw [Engine.DispatchResult.raised_eq_autoExit]
  refine and_congr_left fun _ => ⟨fun exits result member => ?_, fun all => ?_⟩
  · exact le_antisymm (exits ▸ above (.inr member)) result.autoExit_le
  · rcases among with same | member
    · exact same
    · exact all _ member

/--
Effect queues are applied and dispatched by these rules, whatever states the effects find.

Every queue is applied in order up to and including the first effect that is terminal or fails, and
comes to that error or to the strongest result applied. Every effect comes to what its kind asks
for; a held action comes to the outcome of its own queue, raised to a stay if its handler asked for
one, and so does every later tick of it. A dispatch that executes a binding comes to the outcome of
the queue of its handler, raised to a stay if the handler or the binding asked for one. It exits the
modes just if that is the exit: if every applied effect's result is the exit, and nobody asked to
stay. It does nothing more after an error of its queue.
-/
theorem effects_dispatched (host : Surroundings T) (ident : String) (ctx : ModeCtx) :
    (∀ run queue did ended,
      (Activity.applyEffectQueue (Activity.startUntilKeyup ident ctx) ident ctx run {} queue).Ends
        host did ended →
      ∃ queueRun : QueueRun host (Activity.applyFor ident ctx run) queue,
        queueRun.did = did ∧ queueRun.Outcome .autoExit ended) ∧
    (∀ run effect did outcome,
      (Activity.applyFor ident ctx run effect).Ends host did (.ok outcome) →
      effect.Outcome host ident ctx run did outcome) ∧
    (∀ run action did ended, run ≠ .oneShot →
      (Activity.runRepeatedAction ident action ctx run).Ends host did ended →
      ∃ handled, HandlerRun host ident ctx .repeatedAction run action did handled ∧
        ended = handled.map heldOutcome) ∧
    (∀ chord refreshWorld allowPressFeedback did ended,
      (Activity.handleKeyEvent host chord ident refreshWorld allowPressFeedback).Ends host did
        ended →
      DispatchRun host chord ident refreshWorld allowPressFeedback did ended) ∧
    ∀ apply queue (run : QueueRun host apply queue) outcome stay,
      run.Outcome .autoExit (.ok outcome) →
      (outcome.result.raised stay = .autoExit ↔
        (∀ result ∈ run.results, result = .autoExit) ∧ stay = false) := by
  -- The five parts are the lemmas about the queue, the effect, the held action, the key and the
  -- exit.
  refine ⟨?_, ?_, ?_, ?_, ?_⟩
  · exact fun run queue did ended ends => Activity.applyEffectQueue_ends rfl ends
  · exact fun run effect did outcome ends => Activity.applyFor_ends ends
  · exact fun run action did ended repeated ends => Activity.runRepeatedAction_ends repeated ends
  · exact fun chord _ _ did ended ends => Activity.handleKeyEvent_ends ends
  · exact fun apply queue run outcome stay comes => comes.exits stay

/-- A configuration whose handler queues some effects and whose held action has a script error, on a
channel that is open or closed. -/
private def queueHost (opened : Bool) (queue : List Effect) :
    Surroundings Core.registryExternals where
  script := {
    Script.rendererHost fun _ _ => .ok ([], false) with
    callHandler := fun vm func _ _ =>
      (if func = 2 then .ok ⟨queue, false⟩ else .error "attempt to call a nil value", vm) }
  matching := ⟨fun items => items.length, fun matcher _ => matcher, fun matcher => (false, matcher),
    id, fun _ _ => none, fun _ _ _ => []⟩
  hotkeys := registryApi fun _ => none
  defaultStyle := false
  load _ _ := .error "not found"
  uiAccepts _ := opened
  displays _ := (0 : Nat)
  order _ := ⟨.stored _, .stored _, .stored _⟩
  worldFocus _ := none
  resolveApplication _ _ := .notRunning
  isHudMode style := style
  syncOnDispatch := false

/-- The engine with a rendered binding for that handler. -/
private def queueEngine : LiveEngine Core.registryExternals where
  core := {
    Core.initial (queueHost true []).toHost ({} : RegistryApi) (0 : Nat) with
    runtime := ⟨true, [rootFrame ⟨0, 0, none⟩], none, none,
      ⟨[(⟨∅, .a⟩, ⟨⟨∅, .a⟩, "run", .handler ⟨2⟩, none, {}, false, none⟩)], [], false, false⟩, none⟩
    config := some ⟨⟨0, 0, none⟩, false, (), none, ∅⟩ }

/-- The navigation that was done. -/
private def navigations (did : Transcript (LiveEngine Core.registryExternals)
    (Segment Core.registryExternals)) : List NavRequest :=
  did.filterMap fun step =>
    match step.2 with
    | .navigate request _ => some request
    | _ => none

/-- A key-down for that handler, played alone. -/
private def queuePlay (opened : Bool) (queue : List Effect) :
    Transcript (LiveEngine Core.registryExternals) (Segment Core.registryExternals) ×
      Except EngineError Unit :=
  (Activity.handleKeyEvent (queueHost opened queue) ⟨∅, .a⟩ "a" false false).run.play
    (Segment.perform (queueHost opened queue)) queueEngine

/-- The key-down ends as it is played. -/
private theorem queuePlay_ends (opened : Bool) (queue : List Effect) :
    (Activity.handleKeyEvent (queueHost opened queue) ⟨∅, .a⟩ "a" false false).Ends
      (queueHost opened queue) (queuePlay opened queue).1 (queuePlay opened queue).2 :=
  Program.play_ends _ _

/-- What is seen of the key-down: its navigation, and whether it ends without an error. -/
private def queueView (opened : Bool) (queue : List Effect) : List NavRequest × Bool :=
  (navigations (queuePlay opened queue).1, (queuePlay opened queue).2.toBool)

/--
Queues do not always go on past a held action without a queue of its own, and a dispatch that errs
may have exited.

Of a queue that holds an action and then pops the mode, the pop is not applied when the handler of
the held action has a script error: the dispatch exits instead. An empty queue exits as well, and
its dispatch errs where the channel to the UI is closed.
-/
theorem effects_dispatched_broken :
    (∀ ctx, Activity.handlerAnswer (queueHost true [.untilKeyUp ⟨3⟩ none, .nav .pop]) queueEngine
      ⟨3⟩ ctx .repeatedAction = .ok none) ∧
    (∃ did ended, (Activity.handleKeyEvent (queueHost true [.untilKeyUp ⟨3⟩ none, .nav .pop])
        ⟨∅, .a⟩ "a" false false).Ends (queueHost true [.untilKeyUp ⟨3⟩ none, .nav .pop]) did ended ∧
      navigations did = [.exit] ∧ ended.toBool = true) ∧
    ∃ did ended, (Activity.handleKeyEvent (queueHost false []) ⟨∅, .a⟩ "a" false false).Ends
        (queueHost false []) did ended ∧
      navigations did = [.exit] ∧ ended.toBool = false := by
  -- Both queues are evaluated; the handler of the action that the first one holds fails.
  have held : queueView true [.untilKeyUp ⟨3⟩ none, .nav .pop] = ([.exit], true) := by
    decide +kernel
  have closed : queueView false [] = ([.exit], false) := by decide +kernel
  refine ⟨fun ctx => rfl, ⟨_, _, queuePlay_ends _ _, ?_⟩, _, _, queuePlay_ends _ _, ?_⟩
  · exact Prod.mk.inj held
  · exact Prod.mk.inj closed

/-- The rules at a key-down whose queue hides the HUD and ends with the held action. -/
theorem effects_dispatched_once :
    ∃ did ended, navigations did = [.hideHud] ∧
      DispatchRun (queueHost true [.nav .hideHud, .untilKeyUp ⟨3⟩ none, .nav .pop]) ⟨∅, .a⟩ "a"
        false false did ended := by
  have seen : queueView true [.nav .hideHud, .untilKeyUp ⟨3⟩ none, .nav .pop] =
    ([.hideHud], true) := by decide +kernel
  obtain ⟨_, _, _, dispatched, _⟩ := effects_dispatched
    (queueHost true [.nav .hideHud, .untilKeyUp ⟨3⟩ none, .nav .pop]) "a" ⟨none, true, 0⟩
  exact ⟨_, _, (Prod.mk.inj seen).1, dispatched ⟨∅, .a⟩ false false _ _ (queuePlay_ends _ _)⟩

end Hotki

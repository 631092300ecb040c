import Hotki.Base.Transcript
import Hotki.Engine.Activities

/-! Rules for the parts of the engine's operations, from which whole operations obey. -/

namespace Hotki

open Base

namespace Activity

variable {T : Externals} [BEq T.Displays] {α β Own : Type}

/-- Whether a part of an operation obeys, given what is asked of its end by its result. -/
def Obeys (host : Surroundings T) (careful : LiveEngine T → Segment T → Prop)
    (allowed : Own → LiveEngine T → Segment T → Own → Prop) (activity : Activity T α) (own : Own)
    (ends : Except EngineError α → Own → Prop) : Prop :=
  Program.Obeys (Segment.perform host) careful allowed ends activity.run own

/-- What is asked of the end of a part that another follows. -/
def Continues (ends : Except EngineError β → Own → Prop) (next : α → Own → Prop) :
    Except EngineError α → Own → Prop
  | .ok value, own => next value own
  | .error error, own => ends (.error error) own

/-- What a part becomes whose errors are handled. -/
def handled (handler : EngineError → Activity T α) : Except EngineError α → Activity T α
  | .ok value => pure value
  | .error error => handler error

variable {host : Surroundings T} {careful : LiveEngine T → Segment T → Prop}
  {allowed : Own → LiveEngine T → Segment T → Own → Prop} {own : Own}

/-- A part that only returns ends with its value. -/
theorem obeys_pure {value : α} {ends : Except EngineError α → Own → Prop}
    (ended : ends (.ok value) own) : (pure value : Activity T α).Obeys host careful allowed own ends :=
  ended

/-- A part that only fails ends with its error. -/
theorem obeys_throw {error : EngineError} {ends : Except EngineError α → Own → Prop}
    (ended : ends (.error error) own) :
    (throw error : Activity T α).Obeys host careful allowed own ends :=
  ended

/-- A part obeys with a weaker end. -/
theorem Obeys.mono {activity : Activity T α} {ends weaker : Except EngineError α → Own → Prop}
    (obeys : activity.Obeys host careful allowed own ends)
    (weakens : ∀ result own, ends result own → weaker result own) :
    activity.Obeys host careful allowed own weaker :=
  Program.Obeys.mono obeys weakens

/-- Two parts obey one after the other if the second does where the first may end. -/
theorem Obeys.bind {activity : Activity T α} {next : α → Activity T β}
    {ends : Except EngineError β → Own → Prop}
    (obeys : activity.Obeys host careful allowed own
      (Continues ends fun value own => (next value).Obeys host careful allowed own ends)) :
    (activity >>= next).Obeys host careful allowed own ends := by
  apply Program.Obeys.bind
  refine Program.Obeys.mono obeys fun result own continues => ?_
  cases result with
  | ok value => exact continues
  | error error => exact continues

/-- A part whose errors are handled obeys if the handler does. -/
theorem Obeys.tryCatch {activity : Activity T α} {handler : EngineError → Activity T α}
    {ends : Except EngineError α → Own → Prop}
    (obeys : activity.Obeys host careful allowed own fun result own =>
      (handled handler result).Obeys host careful allowed own ends) :
    (tryCatch activity handler).Obeys host careful allowed own ends := by
  apply Program.Obeys.bind
  refine Program.Obeys.mono obeys fun result own follows => ?_
  cases result with
  | ok value => exact follows
  | error error => exact follows

/-- A segment obeys if it is allowed. -/
theorem obeys_segment {segment : Segment T} {ends : Except EngineError segment.Answer → Own → Prop}
    (allows : ∀ engine, careful engine segment → ∃ after, allowed own engine segment after ∧
      ends (.ok (segment.perform host engine).1) after) :
    (Activity.segment segment).Obeys host careful allowed own ends :=
  allows

/-- A segment that may fail obeys if it is allowed. -/
theorem obeys_attempt {segment : Segment T} (fallible : segment.Answer = Except EngineError α)
    {ends : Except EngineError α → Own → Prop}
    (allows : ∀ engine, careful engine segment → ∃ after, allowed own engine segment after ∧
      ends (fallible ▸ (segment.perform host engine).1) after) :
    (attempt segment fallible).Obeys host careful allowed own ends := by
  -- The equation only renames the type of the answer.
  have renamed : ∀ {Named : Type} (same : segment.Answer = Named) (ends : Named → Own → Prop),
      (∀ engine, careful engine segment → ∃ after, allowed own engine segment after ∧
        ends (same ▸ (segment.perform host engine).1) after) →
      Program.Obeys (Segment.perform host) careful allowed ends
        (same ▸ (Program.perform segment : Program (@Segment.Answer T) segment.Answer)) own := by
    intro Named same ends allows
    subst same
    exact allows
  exact renamed fallible ends allows

/-- Whether a part obeys wherever it starts, and may end anywhere. -/
def Abides (host : Surroundings T) (careful : LiveEngine T → Segment T → Prop)
    (allowed : Own → LiveEngine T → Segment T → Own → Prop) (activity : Activity T α) : Prop :=
  ∀ own, activity.Obeys host careful allowed own fun _ _ => True

/-- A part that only returns abides. -/
theorem abides_pure (value : α) : (pure value : Activity T α).Abides host careful allowed :=
  fun _ => obeys_pure trivial

/-- A part that only fails abides. -/
theorem abides_throw (error : EngineError) :
    (throw error : Activity T α).Abides host careful allowed :=
  fun _ => obeys_throw trivial

/-- A choice of two parts abides if both do. -/
theorem Abides.ite {condition : Prop} [Decidable condition] {first second : Activity T α}
    (left : first.Abides host careful allowed) (right : second.Abides host careful allowed) :
    (if condition then first else second).Abides host careful allowed := by
  split
  · exact left
  · exact right

/-- Two parts abide one after the other. -/
theorem Abides.bind {activity : Activity T α} {next : α → Activity T β}
    (first : activity.Abides host careful allowed)
    (second : ∀ value, (next value).Abides host careful allowed) :
    (activity >>= next).Abides host careful allowed := by
  intro own
  apply Obeys.bind
  refine (first own).mono fun result own _ => ?_
  cases result with
  | ok value => exact second value own
  | error error => exact trivial

/-- A part whose errors are handled abides if the handler does. -/
theorem Abides.tryCatch {activity : Activity T α} {handler : EngineError → Activity T α}
    (abides : activity.Abides host careful allowed)
    (handles : ∀ error, (handler error).Abides host careful allowed) :
    (tryCatch activity handler).Abides host careful allowed := by
  intro own
  apply Obeys.tryCatch
  refine (abides own).mono fun result own _ => ?_
  cases result with
  | ok value => exact obeys_pure trivial
  | error error => exact handles error own

/-- A segment that is always allowed abides. -/
theorem abides_segment {segment : Segment T}
    (allows : ∀ own engine, careful engine segment → allowed own engine segment own) :
    (Activity.segment segment).Abides host careful allowed :=
  fun own => obeys_segment fun engine permitted => ⟨own, allows own engine permitted, trivial⟩

/-- A segment that may fail and is always allowed abides. -/
theorem abides_attempt {segment : Segment T} (fallible : segment.Answer = Except EngineError α)
    (allows : ∀ own engine, careful engine segment → allowed own engine segment own) :
    (attempt segment fallible).Abides host careful allowed :=
  fun own => obeys_attempt fallible fun engine permitted =>
    ⟨own, allows own engine permitted, trivial⟩

omit [BEq T.Displays] in
/-- Preparing a configuration only adds a proof to what is prepared. -/
theorem prepareConfig_eq (host : Surroundings T) (core : Core T) (path : String)
    (mode : ConfigInstall) :
    core.prepareConfig host.toHost path mode =
      ((core.prepare host path mode).1.map PreparedConfig.prepared,
        (core.prepare host path mode).2) := by
  -- The two functions read the same answer, and one of them keeps the proof of it.
  unfold Core.prepare
  split
  · rename_i answered
    exact answered
  · rename_i answered
    exact answered

/-- An install that nothing comes between does what it does to refreshes and installs, and clears
the action loops if bindings changed. -/
theorem installConfig_run (host : Surroundings T) (engine : LiveEngine T) (path : String)
    (mode : ConfigInstall) :
    (installConfig path mode).run.run (Segment.perform host) engine =
      engine.rebound (engine.core.installConfig host.toHost path mode) := by
  -- The first segment prepares, and the second commits what was prepared.
  have prepares : ∀ rest : Except EngineError (PreparedConfig T) →
      Program (@Segment.Answer T) (Except EngineError Unit),
      (Program.call (Segment.prepare path mode) rest).run (Segment.perform host) engine =
        (rest (engine.core.prepare host path mode).1).run (Segment.perform host)
          { engine with core := (engine.core.prepare host path mode).2 } := fun rest => rfl
  unfold Core.installConfig
  rw [prepareConfig_eq]
  refine (prepares _).trans ?_
  cases (engine.core.prepare host path mode).1 with
  | error error => rfl
  | ok prepared => rfl

end Activity

end Hotki

import Mathlib.Data.List.Basic

/-! Finite runs of a labelled transition relation and the rules that carry facts along them. -/

namespace Base

variable {State Label : Type*}

/-- A finite run: the labels taken, in order, between its first and its last state. -/
inductive Run (step : State → Label → State → Prop) : State → List Label → State → Prop where
  | nil (state : State) : Run step state [] state
  | cons {first next last : State} {label : Label} {rest : List Label} :
      step first label next → Run step next rest last → Run step first (label :: rest) last

namespace Run

variable {step strict : State → Label → State → Prop} {first middle last : State}

/-- Runs that meet in a state compose. -/
theorem append {before after : List Label} (left : Run step first before middle)
    (right : Run step middle after last) : Run step first (before ++ after) last := by
  -- The left run is consumed one step at a time in front of the right one.
  induction left with
  | nil => exact right
  | cons taken _ ih => exact .cons taken (ih right)

/-- A run over concatenated labels passes through a state between the two parts. -/
theorem split {before after : List Label} (run : Run step first (before ++ after) last) :
    ∃ middle, Run step first before middle ∧ Run step middle after last := by
  induction before generalizing first with
  | nil => exact ⟨first, .nil first, run⟩
  | cons label rest ih =>
    cases run with
    | cons taken tail =>
      obtain ⟨middle, left, right⟩ := ih tail
      exact ⟨middle, .cons taken left, right⟩

/-- A run of one more label ends with a step of that label. -/
theorem split_last {before : List Label} {label : Label}
    (run : Run step first (before ++ [label]) last) :
    ∃ middle, Run step first before middle ∧ step middle label last := by
  obtain ⟨middle, left, right⟩ := run.split
  cases right with
  | cons taken tail => cases tail; exact ⟨middle, left, taken⟩

/-- A fact preserved by every step holds at the end of a run that starts with it. -/
theorem invariant (inv : State → Prop)
    (preserved : ∀ {state label next}, step state label next → inv state → inv next)
    {labels : List Label} (run : Run step first labels last) (start : inv first) : inv last := by
  -- The induction is on the run, and each step hands the fact to the rest.
  induction run with
  | nil => exact start
  | cons taken _ ih => exact ih (preserved taken start)

/-- A fact about the labels so far, preserved by every step, holds of the labels of a run. -/
theorem trace_invariant (inv : List Label → State → Prop)
    (preserved : ∀ {past state label next}, step state label next → inv past state →
      inv (past ++ [label]) next) {labels : List Label} (run : Run step first labels last) :
    ∀ past, inv past first → inv (past ++ labels) last := by
  -- Each step adds its label to the past of the rest.
  induction run with
  | nil =>
    intro past held
    rw [List.append_nil]
    exact held
  | @cons first next last label rest taken _ ih =>
    intro past held
    have further := ih (past ++ [label]) (preserved taken held)
    rw [List.append_assoc] at further
    exact further

/-- A run of a stricter relation is a run of the wider one. -/
theorem mono (wider : ∀ {state label next}, strict state label next → step state label next)
    {labels : List Label} (run : Run strict first labels last) : Run step first labels last := by
  induction run with
  | nil => exact .nil _
  | cons taken _ ih => exact .cons (wider taken) ih

/-- Labels determine where a run of a deterministic relation ends. -/
theorem unique (functional : ∀ {state label left right}, step state label left →
    step state label right → left = right) {labels : List Label} {other : State}
    (run : Run step first labels last) (also : Run step first labels other) : last = other := by
  -- The induction is on the one run, and the other takes the same labels.
  induction run with
  | nil =>
    cases also
    rfl
  | cons taken _ ih =>
    cases also with
    | cons taken' rest =>
      cases functional taken taken'
      exact ih rest

/-- A run whose every step is made in a state that meets a condition on it is one of such steps. -/
theorem meeting {meets : State → Label → Prop} {labels : List Label} (run : Run step first labels last)
    (all : ∀ before label after middle, labels = before ++ label :: after →
      Run step first before middle → meets middle label) :
    Run (fun state label next => step state label next ∧ meets state label) first labels last := by
  induction run with
  | nil => exact .nil _
  | @cons first next last label rest taken _ ih =>
    refine .cons ⟨taken, all [] label rest first rfl (.nil first)⟩ (ih ?_)
    -- What comes before a later step begins with the one just made.
    intro before other after middle same run
    exact all (label :: before) other after middle (by rw [same]; rfl) (.cons taken run)

/-- Whether some step along labels is made in a state where an event happens. -/
def Occurs (step : State → Label → State → Prop) (first : State) (labels : List Label)
    (event : State → Label → Prop) : Prop :=
  ∃ before label after middle, labels = before ++ label :: after ∧
    Run step first before middle ∧ event middle label

/-- Nothing happens along no labels. -/
theorem not_occurs_nil {event : State → Label → Prop} : ¬ Occurs step first [] event := by
  rintro ⟨before, label, after, _, same, _⟩
  cases before <;> cases same

/-- One more step happens in the state that the others lead to. -/
theorem occurs_snoc (functional : ∀ {state label left right}, step state label left →
    step state label right → left = right) {labels : List Label} {label : Label}
    (run : Run step first labels last) {event : State → Label → Prop} :
    Occurs step first (labels ++ [label]) event ↔
      Occurs step first labels event ∨ event last label := by
  constructor
  · rintro ⟨before, other, after, middle, same, prior, happens⟩
    -- The event is at the last step, or at one before it.
    rcases List.eq_nil_or_concat after with rfl | ⟨rest, final, split⟩
    · obtain ⟨rfl, equal⟩ := List.append_inj' same rfl
      cases equal
      have met := @Run.unique _ _ step _ _ functional _ _ prior run
      exact .inr (met ▸ happens)
    · have regrouped : labels ++ [label] = (before ++ other :: rest) ++ [final] := by
        rw [same, split, List.concat_eq_append, List.append_assoc]
        rfl
      obtain ⟨rfl, _⟩ := List.append_inj' regrouped rfl
      exact .inl ⟨before, other, rest, middle, rfl, prior, happens⟩
  · rintro (⟨before, other, after, middle, rfl, prior, happens⟩ | happens)
    · exact ⟨before, other, after ++ [label], middle, by simp, prior, happens⟩
    · exact ⟨labels, label, [], last, rfl, run, happens⟩

/-- Events that coincide at every step of a run happen along it together. -/
theorem occurs_congr (functional : ∀ {state label left right}, step state label left →
    step state label right → left = right) {labels : List Label} (run : Run step first labels last)
    {event other : State → Label → Prop} (same : ∀ {past middle label next},
      Run step first past middle → step middle label next →
        (event middle label ↔ other middle label)) :
    Occurs step first labels event ↔ Occurs step first labels other := by
  -- The step at which one of them happens is a step of the run.
  have moves : ∀ {before label after middle}, labels = before ++ label :: after →
      Run step first before middle → ∃ next, step middle label next := by
    intro before label after middle split prior
    subst split
    obtain ⟨met, left, right⟩ := run.split
    cases @Run.unique _ _ step _ _ functional _ _ prior left
    cases right with
    | cons taken _ => exact ⟨_, taken⟩
  constructor
  · rintro ⟨before, label, after, middle, split, prior, happens⟩
    obtain ⟨next, taken⟩ := moves split prior
    exact ⟨before, label, after, middle, split, prior, (same prior taken).mp happens⟩
  · rintro ⟨before, label, after, middle, split, prior, happens⟩
    obtain ⟨next, taken⟩ := moves split prior
    exact ⟨before, label, after, middle, split, prior, (same prior taken).mpr happens⟩

/-- What holds, from the state of a run after so many labels, of the labels since. -/
def Since (step : State → Label → State → Prop) (first : State) (labels : List Label)
    (count : Nat) (holds : State → List Label → Prop) : Prop :=
  ∃ before after middle, labels = before ++ after ∧ before.length = count ∧
    Run step first before middle ∧ holds middle after

/-- One more label is one more since any count of the earlier ones. -/
theorem Since.snoc {labels : List Label} {count : Nat} {holds further : State → List Label → Prop}
    (since : Since step first labels count holds) (label : Label)
    (more : ∀ middle after, holds middle after → further middle (after ++ [label])) :
    Since step first (labels ++ [label]) count further := by
  obtain ⟨before, after, middle, same, counted, run, held⟩ := since
  exact ⟨before, after ++ [label], middle, by rw [same, List.append_assoc], counted, run,
    more middle after held⟩

/-- Renaming the labels of a run along a renaming of its steps. -/
theorem map_labels {Renamed : Type*} {renamed : State → Renamed → State → Prop}
    {rename : Label → Renamed}
    (steps : ∀ {state label next}, step state label next → renamed state (rename label) next)
    {labels : List Label} (run : Run step first labels last) :
    Run renamed first (labels.map rename) last := by
  -- The induction is on the run.
  induction run with
  | nil => exact .nil _
  | cons taken _ ih => exact .cons (steps taken) ih

end Run

/-- A step that also records the labels before it, taken only where a guard on them permits it. -/
def Guarded (step : State → Label → State → Prop) (guard : List Label → State → Label → Prop) :
    List Label × State → Label → List Label × State → Prop :=
  fun (past, state) label (recorded, next) =>
    step state label next ∧ recorded = past ++ [label] ∧ guard past state label

/-- A guarded run records exactly its labels after those it started with. -/
theorem Guarded.recorded {step : State → Label → State → Prop}
    {guard : List Label → State → Label → Prop} {start final : List Label × State}
    {labels : List Label} (run : Run (Guarded step guard) start labels final) :
    final.1 = start.1 ++ labels := by
  induction run with
  | nil => simp
  | cons taken _ ih =>
    rw [ih, taken.2.1, List.append_assoc]
    rfl

/-- A run whose steps the guard permits, whatever came before them, is a guarded run. -/
theorem Run.guarded (step : State → Label → State → Prop)
    (guard : List Label → State → Label → Prop) {strict : State → Label → State → Prop}
    {first last : State} {labels : List Label} (run : Run strict first labels last)
    (permitted : ∀ {state label next}, label ∈ labels → strict state label next →
      step state label next ∧ ∀ past, guard past state label) (past : List Label) :
    Run (Guarded step guard) (past, first) labels (past ++ labels, last) := by
  induction run generalizing past with
  | nil =>
    rw [List.append_nil]
    exact .nil _
  | @cons start next last label rest taken _ ih =>
    have further := ih (fun member => permitted (by simp [member])) (past ++ [label])
    rw [List.append_assoc] at further
    obtain ⟨stepped, spared⟩ := permitted (by simp) taken
    exact .cons ⟨stepped, rfl, spared past⟩ further

section Evaluation

variable {Input Output : Type*} (step : State → Input → Option (State × Output))

/-- The final state and the outputs of a partial step function along a list of inputs. -/
def evaluate : State → List Input → Option (State × List Output)
  | state, [] => some (state, [])
  | state, input :: rest =>
    match step state input with
    | none => none
    | some (next, output) => (evaluate next rest).map fun (last, others) => (last, output :: others)

/-- What is computed of an evaluation is true of a run over the inputs with their outputs. -/
theorem Run.of_evaluate (state : State) (inputs : List Input) {Seen : Type*}
    (view : State × List Output → Seen) (seen : Seen)
    (computed : (evaluate step state inputs).map view = some seen) :
    ∃ last outputs, view (last, outputs) = seen ∧
      Run (fun state (label : Input × Output) next => step state label.1 = some (next, label.2))
        state (inputs.zip outputs) last ∧ outputs.length = inputs.length := by
  obtain ⟨⟨last, outputs⟩, evaluated, same⟩ := Option.map_eq_some_iff.mp computed
  refine ⟨last, outputs, same, ?_⟩
  clear same computed
  -- Every input the evaluation consumed is one step of the run.
  induction inputs generalizing state outputs with
  | nil =>
    cases evaluated
    exact ⟨.nil _, rfl⟩
  | cons input rest ih =>
    simp only [evaluate] at evaluated
    split at evaluated
    · cases evaluated
    · rename_i next output taken
      obtain ⟨⟨final, others⟩, found, together⟩ := Option.map_eq_some_iff.mp evaluated
      cases together
      obtain ⟨run, lengths⟩ := ih next others found
      exact ⟨.cons taken run, by simp [lengths]⟩

end Evaluation

/-- What is computed of a partial step function folded along inputs is true of a run over them. -/
theorem Run.of_foldlM {Input : Type*} (step : State → Input → Option State) (state : State)
    (inputs : List Input) {Seen : Type*} (view : State → Seen) (seen : Seen)
    (computed : (inputs.foldlM step state).map view = some seen) :
    ∃ last, view last = seen ∧
      Run (fun state input next => step state input = some next) state inputs last := by
  obtain ⟨last, folded, same⟩ := Option.map_eq_some_iff.mp computed
  refine ⟨last, same, ?_⟩
  clear same computed
  induction inputs generalizing state with
  | nil =>
    cases folded
    exact .nil _
  | cons input rest ih =>
    rw [List.foldlM_cons] at folded
    obtain ⟨next, taken, further⟩ := Option.bind_eq_some_iff.mp folded
    exact .cons taken (ih next further)

end Base

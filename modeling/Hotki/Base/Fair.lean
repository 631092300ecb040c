import Hotki.Base.Run

/-! Infinite executions, weak fairness, and the ranking rule for what must eventually happen. -/

namespace Base

variable {State Choice Label : Type*} {step : State → Choice → Option (State × Label)}

/-- An infinite execution of a partial step function: who moved at each time, and what it showed. -/
structure Execution (step : State → Choice → Option (State × Label)) (start : State) where
  state : Nat → State
  choice : Nat → Choice
  label : Nat → Label
  initial : state 0 = start
  taken : ∀ time, step (state time) (choice time) = some (state (time + 1), label time)

namespace Execution

variable {start : State}

/-- The labels shown before a time. -/
def labels (execution : Execution step start) (time : Nat) : List Label :=
  (List.range time).map execution.label

/-- One more step shows one more label. -/
theorem labels_succ (execution : Execution step start) (time : Nat) :
    execution.labels (time + 1) = execution.labels time ++ [execution.label time] := by
  simp [labels, List.range_succ]

/-- What was shown by a time was shown by every later time. -/
theorem labels_prefix (execution : Execution step start) {time later : Nat}
    (after : time ≤ later) : execution.labels time <+: execution.labels later := by
  induction after with
  | refl => exact List.prefix_refl _
  | step _ ih =>
    rw [labels_succ]
    exact ih.trans (List.prefix_append _ _)

/-- Every initial part of an execution is a run. -/
theorem run (execution : Execution step start) (time : Nat) :
    Run (fun state label next => ∃ choice, step state choice = some (next, label))
      start (execution.labels time) (execution.state time) := by
  -- The induction is on the time, with one step more at the end.
  induction time with
  | zero =>
    rw [execution.initial]
    exact .nil start
  | succ time ih =>
    rw [labels_succ]
    exact ih.append (.cons ⟨_, execution.taken time⟩ (.nil _))

/-- An evaluation passes through the evaluation of each part it starts with. -/
theorem evaluate_take {inputs : List Choice} {outputs : List Label} {last : State}
    (evaluated : evaluate step start inputs = some (last, outputs)) (time : Nat) :
    ∃ middle, evaluate step start (inputs.take time) = some (middle, outputs.take time) := by
  -- The induction is on the inputs, whose evaluation passes through the same states.
  induction inputs generalizing start outputs time with
  | nil =>
    cases evaluated
    exact ⟨last, by simp [evaluate]⟩
  | cons input rest ih =>
    cases time with
    | zero => exact ⟨start, rfl⟩
    | succ time =>
      simp only [evaluate, List.take_succ_cons] at evaluated ⊢
      split at evaluated
      · cases evaluated
      · obtain ⟨⟨final, others⟩, found, same⟩ := Option.map_eq_some_iff.mp evaluated
        cases same
        obtain ⟨middle, part⟩ := ih found time
        exact ⟨middle, by simp [part]⟩

/-- Evaluating one more input takes one more step. -/
theorem evaluate_snoc {inputs : List Choice} {outputs : List Label} {middle : State}
    (before : evaluate step start inputs = some (middle, outputs)) (input : Choice) :
    evaluate step start (inputs ++ [input]) =
      (step middle input).map fun (last, output) => (last, outputs ++ [output]) := by
  -- The induction is on the inputs before the last one.
  induction inputs generalizing start outputs with
  | nil =>
    cases before
    cases taken : step middle input <;> simp [evaluate, taken]
  | cons first rest ih =>
    simp only [evaluate, List.cons_append] at before ⊢
    split at before
    · cases before
    · obtain ⟨⟨last, others⟩, evaluated, same⟩ := Option.map_eq_some_iff.mp before
      cases same
      simp only [ih evaluated, Option.map_map]
      rfl

/-- The state of an evaluation after some of its inputs, and its last one from then on. -/
def stateAt (step : State → Choice → Option (State × Label)) (start : State)
    (inputs : List Choice) (time : Nat) : State :=
  ((evaluate step start (inputs.take time)).map Prod.fst).getD start

/-- Each input of an evaluation takes its state to the next one, and a step that changes nothing
does so from then on. -/
theorem stateAt_step {inputs : List Choice} {outputs : List Label} {last : State}
    (evaluated : evaluate step start inputs = some (last, outputs)) (idle : Choice) (shown : Label)
    (still : step last idle = some (last, shown)) (time : Nat) :
    step (stateAt step start inputs time) ((inputs[time]?).getD idle) =
      some (stateAt step start inputs (time + 1), (outputs[time]?).getD shown) := by
  -- Up to the last output the execution steps as evaluated; after it, it idles.
  have lengths : outputs.length = inputs.length := by
    obtain ⟨_, _, same, _, lengths⟩ := Run.of_evaluate step start inputs id (last, outputs)
      (by rw [evaluated]; rfl)
    cases same
    exact lengths
  rcases Nat.lt_or_ge time inputs.length with inside | past
  · obtain ⟨middle, before⟩ := evaluate_take evaluated time
    obtain ⟨next, after⟩ := evaluate_take evaluated (time + 1)
    have grown := evaluate_snoc before inputs[time]
    rw [List.take_append_getElem inside, after] at grown
    obtain ⟨⟨moved, output⟩, stepped, same⟩ := Option.map_eq_some_iff.mp grown.symm
    simp only [stateAt, before, after, List.getElem?_eq_getElem inside,
      List.getElem?_eq_getElem (lengths ▸ inside : time < outputs.length), Option.map_some,
      Option.getD_some]
    rw [stepped]
    simp only [Prod.mk.injEq, ← List.take_append_getElem (lengths ▸ inside : time < outputs.length),
      List.append_cancel_left_eq, List.cons.injEq, and_true] at same
    rw [same.1, same.2]
  · have whole : ∀ later ≥ time, stateAt step start inputs later = last := by
      intro later after
      rw [stateAt, List.take_of_length_le (by omega), evaluated]
      rfl
    rw [whole time (Nat.le_refl _), whole (time + 1) (by omega),
      List.getElem?_eq_none past, List.getElem?_eq_none (by omega)]
    exact still

/-- An evaluation, followed for ever by a step that leaves its last state as it is. -/
def ofEvaluate {inputs : List Choice} {outputs : List Label} {last : State}
    (evaluated : evaluate step start inputs = some (last, outputs)) (idle : Choice) (shown : Label)
    (still : step last idle = some (last, shown)) : Execution step start where
  state := stateAt step start inputs
  choice := fun time => (inputs[time]?).getD idle
  label := fun time => (outputs[time]?).getD shown
  initial := rfl
  taken := stateAt_step evaluated idle shown still

/-- From its last input on, such an execution stays in its last state. -/
theorem ofEvaluate_state {inputs : List Choice} {outputs : List Label} {last : State}
    (evaluated : evaluate step start inputs = some (last, outputs)) (idle : Choice) (shown : Label)
    (still : step last idle = some (last, shown)) {time : Nat} (past : inputs.length ≤ time) :
    (ofEvaluate evaluated idle shown still).state time = last := by
  show stateAt step start inputs time = last
  rw [stateAt, List.take_of_length_le past, evaluated]
  rfl

/-- Up to its last output, such an execution shows the outputs of the evaluation. -/
theorem ofEvaluate_labels {inputs : List Choice} {outputs : List Label} {last : State}
    (evaluated : evaluate step start inputs = some (last, outputs)) (idle : Choice) (shown : Label)
    (still : step last idle = some (last, shown)) {time : Nat} (inside : time ≤ outputs.length) :
    (ofEvaluate evaluated idle shown still).labels time = outputs.take time := by
  -- The induction is on the time.
  induction time with
  | zero => rfl
  | succ time ih =>
    have here : time < outputs.length := inside
    rw [labels_succ, ih (by omega), ← List.take_append_getElem here]
    simp [ofEvaluate, here]

/-- Weak fairness: no fair choice stays possible for ever without being taken. -/
def Fair (execution : Execution step start) (fair : Choice → Prop) : Prop :=
  ∀ choice, fair choice → ∀ time, ∃ later ≥ time,
    execution.choice later = choice ∨ step (execution.state later) choice = none

/--
The ranking rule: while a fair choice is due, it can be taken, and each step reaches the goal, makes
a choice of lower rank due, or leaves this one due without taking it. Then the goal is reached.
-/
theorem eventually (execution : Execution step start) {fair : Choice → Prop}
    (fairness : execution.Fair fair) (Due : State → Nat → Choice → Prop) (goal : Label → Prop)
    (enabled : ∀ {state rank choice}, Due state rank choice →
      fair choice ∧ step state choice ≠ none)
    (advance : ∀ {state rank due choice next label}, Due state rank due →
      step state choice = some (next, label) →
        goal label ∨ (∃ lower < rank, ∃ other, Due next lower other) ∨
          choice ≠ due ∧ Due next rank due)
    {time rank : Nat} {due : Choice} (start : Due (execution.state time) rank due) :
    ∃ later ≥ time, goal (execution.label later) := by
  -- The outer induction is on the rank, the inner one on the time left until the fair choice.
  induction rank using Nat.strongRecOn generalizing time due with
  | ind rank lower =>
    obtain ⟨later, after, turn⟩ := fairness due (enabled start).1 time
    obtain ⟨wait, rfl⟩ := Nat.exists_eq_add_of_le after
    clear after
    induction wait generalizing time with
    | zero =>
      rcases turn with chosen | stuck
      · rcases advance start (execution.taken time) with reached | ⟨less, below, other, next⟩ | kept
        · exact ⟨time, Nat.le_refl _, reached⟩
        · obtain ⟨later, after, reached⟩ := lower less below next
          exact ⟨later, by omega, reached⟩
        · exact absurd chosen kept.1
      · exact absurd stuck (enabled start).2
    | succ wait ih =>
      rcases advance start (execution.taken time) with reached | ⟨less, below, other, next⟩ | kept
      · exact ⟨time, Nat.le_refl _, reached⟩
      · obtain ⟨later, after, reached⟩ := lower less below next
        exact ⟨later, by omega, reached⟩
      · have shift : time + (wait + 1) = time + 1 + wait := by omega
        rw [shift] at turn
        obtain ⟨later, after, reached⟩ := ih kept.2 turn
        exact ⟨later, by omega, reached⟩

end Execution

end Base

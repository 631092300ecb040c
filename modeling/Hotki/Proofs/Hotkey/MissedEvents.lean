import Hotki.Proofs.Hotkey.Tap

/-! What a key-down starts when the tap has missed events. -/

namespace Hotki

open Base

/-- What the tap took part in, with its answers. -/
def seenOps (trace : List (TapState.Observation × TapOutput)) : List (TapOp × TapOutput) :=
  trace.filterMap fun entry =>
    match entry.1 with
    | .seen op => some (op, entry.2)
    | .missed _ => none

/-- What a new press of a keycode is answered with under a table. -/
def Inner.freshOutput (inner : Inner) (code : UInt16) (flags : Nat) : TapOutput :=
  (Key.fromKeycode code.toNat).elim {} fun key =>
    ((newPress inner key (modifiersFromCgFlags flags)).action .keyDown false true).output

namespace TapState

variable {ownPid : UInt32} {code : UInt16}

/-- The tap runs over what it has seen as if nothing else had happened. -/
theorem Observes.run_seen {state last : TapState} {trace : List (Observation × TapOutput)}
    (run : Run (Observes ownPid) state trace last) : Run (Steps ownPid) state (seenOps trace) last := by
  -- What is missed leaves no label, so only the events seen are stepped.
  induction run with
  | nil => exact .nil _
  | @cons first next last label rest taken _ ih =>
    obtain ⟨observation, output⟩ := label
    cases observation with
    | seen op => exact .cons taken ih
    | missed event =>
      cases Option.some.inj taken
      exact ih

/-- The last operation decides whether a key is held, if it is one of that key. -/
theorem heldAfter_append (held : Bool) (ops : List TapOp) (op : TapOp) :
    heldAfter ownPid code held (ops ++ [op]) =
      if op.isKey ownPid code .keyDown then true
      else if op.isKey ownPid code .keyUp then false else heldAfter ownPid code held ops := by
  unfold heldAfter
  rw [List.foldl_append]
  rfl

/-- An operation that presses a key does not release it. -/
theorem isKey_keyUp_of_keyDown {op : TapOp} (pressed : op.isKey ownPid code .keyDown = true) :
    op.isKey ownPid code .keyUp = false := by
  cases op with
  | event event =>
    simp only [TapOp.isKey, Bool.and_eq_true, beq_iff_eq] at pressed ⊢
    rw [pressed.2, Bool.and_eq_false_iff]
    exact .inr rfl
  | _ => rfl

/-- A key that is held went down once and not up again since. -/
theorem heldAfter_split {trace : List (TapOp × TapOutput)}
    (held : heldAfter ownPid code false (trace.map Prod.fst) = true) :
    ∃ early down opening during, trace = early ++ (down, opening) :: during ∧
      down.isKey ownPid code .keyDown = true ∧
      heldAfter ownPid code false (early.map Prod.fst) = false ∧
      ∀ entry ∈ during, entry.1.isKey ownPid code .keyUp = false := by
  -- The induction follows the trace from its end, where the key is still held.
  induction trace using List.reverseRecOn with
  | nil => cases held
  | append_singleton trace entry ih =>
    rw [List.map_append, List.map_singleton, heldAfter_append] at held
    cases before : heldAfter ownPid code false (trace.map Prod.fst) with
    | true =>
      -- The press began earlier, and this operation does not end it.
      obtain ⟨early, down, opening, during, rfl, pressed, fresh, unreleased⟩ := ih before
      refine ⟨early, down, opening, during ++ [entry], by simp, pressed, fresh, ?_⟩
      intro other member
      rcases List.mem_append.mp member with earlier | last
      · exact unreleased other earlier
      · rw [List.mem_singleton.mp last]
        by_cases again : entry.1.isKey ownPid code .keyDown = true
        · exact isKey_keyUp_of_keyDown again
        · by_contra released
          rw [if_neg again, if_pos (Bool.not_eq_false _ ▸ released)] at held
          cases held
    | false =>
      -- It begins with this operation.
      refine ⟨trace, entry.1, entry.2, [], rfl, ?_, before, by simp⟩
      by_contra notPressed
      rw [if_neg notPressed, before] at held
      split at held <;> cases held

/-- A key-down of a key without a record starts a new press under the current table. -/
theorem step_fresh {key : Key} (named : Key.fromKeycode code.toNat = some key)
    {state next : TapState} {event : TapEvent} {output : TapOutput}
    (pressed : (TapOp.event event).isKey ownPid code .keyDown = true)
    (initial : event.autorepeat = false) (absent : state.presses.lookup key = none)
    (taken : state.Steps ownPid (.event event, output) next) :
    output = state.inner.freshOutput code event.flags := by
  -- An event of the key that is not ours starts the press.
  simp only [TapOp.isKey, Bool.and_eq_true, bne_iff_ne, beq_iff_eq] at pressed
  obtain ⟨⟨⟨untagged, foreign⟩, rfl⟩, type⟩ := pressed
  unfold Steps step tapCallback at taken
  simp only [untagged, foreign, or_self, if_false, type, named, classifyTapEvent, absent, initial,
    Option.some.injEq, Prod.mk.injEq] at taken
  unfold Inner.freshOutput
  rw [named]
  exact taken.2.symm

/-- A key-down of a key with a record is answered from it, silently while suspended. -/
theorem step_retained {key : Key} (named : Key.fromKeycode code.toNat = some key)
    {state next : TapState} {event : TapEvent} {output : TapOutput} {press : PressRecord}
    (pressed : (TapOp.event event).isKey ownPid code .keyDown = true)
    (initial : event.autorepeat = false) (held : state.presses.lookup key = some press)
    (taken : state.Steps ownPid (.event event, output) next) :
    output = (press.action .keyDown false (state.inner.suspend == 0)).output := by
  -- The record decides, whatever the table says by now.
  simp only [TapOp.isKey, Bool.and_eq_true, bne_iff_ne, beq_iff_eq] at pressed
  obtain ⟨⟨⟨untagged, foreign⟩, rfl⟩, type⟩ := pressed
  unfold Steps step tapCallback at taken
  simp only [untagged, foreign, or_self, if_false, type, named, classifyTapEvent, held, initial,
    Option.some.injEq, Prod.mk.injEq] at taken
  exact taken.2.symm

/-- A first key-down records the press it is answered from. -/
theorem step_opens {key : Key} (named : Key.fromKeycode code.toNat = some key)
    {state next : TapState} {down : TapOp} {opening : TapOutput}
    (pressed : down.isKey ownPid code .keyDown = true) (absent : state.presses.lookup key = none)
    (taken : state.Steps ownPid (down, opening) next) :
    ∃ press repeated, next.presses.lookup key = some press ∧
      opening = (press.action .keyDown repeated true).output := by
  -- The record is new, so the event was a key-down that was matched.
  rcases step_record named taken with
    ⟨_, press, repeated, emits, recorded, answered, old | ⟨_, rfl⟩⟩ | ⟨isUp, _⟩ | ⟨notDown, _⟩
  · rw [absent] at old
    cases old
  · exact ⟨press, repeated, recorded, answered⟩
  · rw [isKey_keyUp_of_keyDown pressed] at isUp
    cases isUp
  · rw [pressed] at notDown
    cases notDown

end TapState

/-- What a retained press answers a further key-down with, given its first answer. -/
def TapOutput.again (opening : TapOutput) (suspended : Bool) : TapOutput where
  emitted :=
    if suspended then none else opening.emitted.map fun event => { event with repeated := false }
  result := opening.result

/-- A press answers a key-down that is not a repeat as it answered the first one. -/
theorem PressRecord.action_again (press : PressRecord) (repeated emits : Bool) :
    (press.action .keyDown false emits).output =
      (press.action .keyDown repeated true).output.again (!emits) := by
  cases emits with
  | true =>
    unfold TapOutput.again TapAction.output PressRecord.action
    cases press.logical <;> rfl
  | false => rfl

/--
What a key-down without the autorepeat flag starts, whatever events the tap has missed.

If the tap has not seen the key go down since it last saw it go up, the key-down starts a new press
under the table in force. Otherwise it belongs to the press that the tap still holds: it is answered
as the first key-down of that press was, and emits nothing while suspended.
-/
theorem tap_press_after_missed {ownPid : UInt32} {code : UInt16} {event : TapEvent}
    {output : TapOutput} {before rest : List (TapState.Observation × TapOutput)} {final : TapState}
    (run : Run (TapState.Observes ownPid) {} (before ++ (.seen (.event event), output) :: rest) final)
    (pressed : (TapOp.event event).isKey ownPid code .keyDown = true)
    (initial : event.autorepeat = false) :
    ∃ state, Run (TapState.Observes ownPid) {} before state ∧
      (heldAfter ownPid code false ((seenOps before).map Prod.fst) = false →
        output = state.inner.freshOutput code event.flags) ∧
      (heldAfter ownPid code false ((seenOps before).map Prod.fst) = true →
        ∃ early down opening during, seenOps before = early ++ (down, opening) :: during ∧
          down.isKey ownPid code .keyDown = true ∧
          heldAfter ownPid code false (early.map Prod.fst) = false ∧
          (∀ entry ∈ during, entry.1.isKey ownPid code .keyUp = false) ∧
          output = opening.again (decide (state.inner.suspend > 0))) := by
  -- Either the tap has no record of the key, or it has that of a press it has seen.
  obtain ⟨state, started, run⟩ := run.split
  cases run with
  | @cons _ next _ _ _ taken _ =>
  have stepped : state.Steps ownPid (.event event, output) next := taken
  have seen := TapState.Observes.run_seen started
  refine ⟨state, started, fun fresh => ?_, fun held => ?_⟩
  · cases named : Key.fromKeycode code.toNat with
    | none =>
      unfold Inner.freshOutput
      rw [named]
      exact TapState.step_unnamed named stepped pressed
    | some key =>
      have absent : state.presses.lookup key = none := by
        have record := TapState.run_record named seen
        simpa [fresh, Option.isSome_eq_false_iff] using record
      exact TapState.step_fresh named pressed initial absent stepped
  · obtain ⟨early, down, opening, during, same, opened, fresh, unreleased⟩ :=
      TapState.heldAfter_split held
    refine ⟨early, down, opening, during, same, opened, fresh, unreleased, ?_⟩
    rw [same] at seen
    obtain ⟨start, beginning, seen⟩ := seen.split
    cases seen with
    | @cons _ pressing _ _ _ first holding =>
    cases named : Key.fromKeycode code.toNat with
    | none =>
      rw [TapState.step_unnamed named stepped pressed, TapState.step_unnamed named first opened]
      unfold TapOutput.again
      split <;> rfl
    | some key =>
      have absent : start.presses.lookup key = none := by
        have record := TapState.run_record named beginning
        simpa [fresh, Option.isSome_eq_false_iff] using record
      -- The opening press is recorded, and the record stands until a release is seen.
      obtain ⟨press, repeated, recorded, answered⟩ := TapState.step_opens named opened absent first
      obtain ⟨kept, _⟩ := TapState.run_held named holding recorded unreleased
      rw [TapState.step_retained named pressed initial kept stepped, answered,
        press.action_again repeated]
      congr 1
      rw [Bool.eq_iff_iff]
      simp only [Bool.not_eq_true', beq_eq_false_iff_ne, decide_eq_true_eq, gt_iff_lt]
      exact Nat.pos_iff_ne_zero.symm

/-- A physical event of the key `h` without modifiers, from a process other than the tap's. -/
private def plainH (type : TapEventType) : TapEvent := ⟨type, 4, 0, false, 7, 0⟩

/-- A press of `h` whose release is missed, before `h` is registered anew without interception. -/
private def missedRelease : List TapState.Observation :=
  [.seen (.intercept ⟨∅, .h⟩), .seen (.event (plainH .keyDown)), .missed (plainH .keyUp),
    .seen (.unregister 1), .seen (.watch ⟨∅, .h⟩)]

/-- A key-down can be answered from a press whose key-up was missed, and not by the table. -/
theorem tap_press_after_missed_stale :
    ∃ trace output state next, Run (TapState.Observes 1) {} trace state ∧
      trace.map Prod.fst = missedRelease ∧
      state.Observes 1 (.seen (.event (plainH .keyDown)), output) next ∧
      output = ⟨some ⟨1, ⟨∅, .h⟩, .keyDown, false⟩, .drop⟩ ∧
      state.inner.freshOutput 4 0 = ⟨some ⟨2, ⟨∅, .h⟩, .keyDown, false⟩, .keep⟩ := by
  -- The release was missed, so the record of the first press is still there.
  obtain ⟨state, outputs, seen, run, length⟩ := Run.of_evaluate (TapState.observe 1) {}
    missedRelease (fun reached => (reached.1.inner.freshOutput 4 0,
      (reached.1.observe 1 (.seen (.event (plainH .keyDown)))).map Prod.snd))
    (⟨some ⟨2, ⟨∅, .h⟩, .keyDown, false⟩, .keep⟩,
      some ⟨some ⟨1, ⟨∅, .h⟩, .keyDown, false⟩, .drop⟩) (by decide +kernel)
  simp only [Prod.mk.injEq, Option.map_eq_some_iff] at seen
  obtain ⟨fresh, ⟨next, output⟩, taken, rfl⟩ := seen
  refine ⟨_, _, state, next, run, ?_, taken, rfl, fresh⟩
  exact List.map_fst_zip (Nat.le_of_eq length.symm)

/-- The conclusion at a key-down after a release that was seen and repeats that were missed. -/
theorem tap_press_after_missed_once :
    ∃ state : TapState, (⟨some ⟨2, ⟨∅, .h⟩, .keyDown, false⟩, .keep⟩ : TapOutput) =
      state.inner.freshOutput 4 0 := by
  -- The release was seen, so the key-down is matched anew.
  let chord : Chord := ⟨∅, .h⟩
  obtain ⟨final, _, rfl, run, _⟩ := Run.of_evaluate (TapState.observe 1) {}
    [.seen (.intercept chord), .seen (.event (plainH .keyDown)), .missed (plainH .keyDown),
      .seen (.event (plainH .keyUp)), .seen (.unregister 1), .seen (.watch chord),
      .seen (.event (plainH .keyDown))] Prod.snd
    [{}, ⟨some ⟨1, chord, .keyDown, false⟩, .drop⟩, {}, ⟨some ⟨1, chord, .keyUp, false⟩, .drop⟩, {},
      {}, ⟨some ⟨2, chord, .keyDown, false⟩, .keep⟩] (by decide +kernel)
  let before : List (TapState.Observation × TapOutput) :=
    [(.seen (.intercept chord), {}),
      (.seen (.event (plainH .keyDown)), ⟨some ⟨1, chord, .keyDown, false⟩, .drop⟩),
      (.missed (plainH .keyDown), {}),
      (.seen (.event (plainH .keyUp)), ⟨some ⟨1, chord, .keyUp, false⟩, .drop⟩),
      (.seen (.unregister 1), {}), (.seen (.watch chord), {})]
  have shaped : Run (TapState.Observes 1) {} (before ++ [(.seen (.event (plainH .keyDown)),
      ⟨some ⟨2, chord, .keyDown, false⟩, .keep⟩)]) final := run
  have pressed : (TapOp.event (plainH .keyDown)).isKey 1 4 .keyDown = true := rfl
  obtain ⟨state, _, fresh, _⟩ := tap_press_after_missed shaped pressed rfl
  exact ⟨state, fresh rfl⟩

end Hotki

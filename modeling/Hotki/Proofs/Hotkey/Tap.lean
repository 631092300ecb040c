import Hotki.Base.Run
import Hotki.Hotkey.Tap

/-! Every physical press keeps the registration and the interception decided at its key-down. -/

namespace Hotki

open Base

/-- Whether an operation is a physical event of one type on one keycode. -/
def TapOp.isKey (ownPid : UInt32) (code : UInt16) (type : TapEventType) : TapOp → Bool
  | .event seen =>
    seen.userData != hotkTag && seen.sourcePid != ownPid && seen.keycode == code &&
      seen.eventType == type
  | _ => false

/-- Whether a keycode is held after some operations, reading only its own physical events. -/
def heldAfter (ownPid : UInt32) (code : UInt16) (held : Bool) (ops : List TapOp) : Bool :=
  ops.foldl (fun held op =>
    if op.isKey ownPid code .keyDown then true
    else if op.isKey ownPid code .keyUp then false
    else held) held

/-- The release that answers a logical key-down: the same registration and hotkey, going up. -/
def Event.release (event : Event) : Event :=
  { event with kind := .keyUp, repeated := false }

/-- A keycode names at most one key, and that key names it back. -/
theorem Key.fromKeycode_keycode {code : Nat} {key : Key} (named : fromKeycode code = some key) :
    key.keycode = code := by
  -- The search only returns keys whose own code is the requested one.
  simpa using List.find?_some named

/-- Publishing a changed table leaves the presses alone and answers nothing. -/
theorem TapState.step_presses_of_table {ownPid : UInt32} {state next : TapState} {op : TapOp}
    {output : TapOutput} (table : ∀ event, op ≠ .event event)
    (taken : state.Steps ownPid (op, output) next) : next.presses = state.presses := by
  -- Every operation but an event goes through the same publication.
  unfold Steps step at taken
  cases op with
  | event event => exact absurd rfl (table event)
  | watch hotkey | intercept hotkey =>
    obtain ⟨registered, _, published⟩ := Option.map_eq_some_iff.mp taken
    cases published
    rfl
  | unregister | unregisterAll | suspend | resume | captureAll | releaseCapture =>
    cases Option.some.inj taken
    rfl

/-- What one step can do to the record of one key: record, release, or leave it alone. -/
theorem TapState.step_record {ownPid : UInt32} {code : UInt16} {key : Key}
    (named : Key.fromKeycode code.toNat = some key) {state next : TapState} {op : TapOp}
    {output : TapOutput} (taken : state.Steps ownPid (op, output) next) :
    (op.isKey ownPid code .keyDown = true ∧ ∃ press repeated emits,
      next.presses.lookup key = some press ∧
      output = (press.action .keyDown repeated emits).output ∧
      (state.presses.lookup key = some press ∨
        state.presses.lookup key = none ∧ emits = true)) ∨
    (op.isKey ownPid code .keyUp = true ∧ next.presses.lookup key = none ∧
      output = ((state.presses.lookup key).elim ⟨none, false⟩
        fun press => press.action .keyUp false true).output) ∨
    (op.isKey ownPid code .keyDown = false ∧ op.isKey ownPid code .keyUp = false ∧
      next.presses.lookup key = state.presses.lookup key) := by
  cases op with
  | event event =>
    unfold Steps step tapCallback at taken
    simp only [Option.some.injEq, Prod.mk.injEq] at taken
    obtain ⟨rfl, rfl⟩ := taken
    by_cases synthetic : event.userData = hotkTag ∨ event.sourcePid = ownPid
    · -- Injected events reach no press.
      refine .inr (.inr ⟨?_, ?_, ?_⟩)
      -- They are told by their tag or by their process.
      · rcases synthetic with tagged | own <;> simp [TapOp.isKey, *]
      · rcases synthetic with tagged | own <;> simp [TapOp.isKey, *]
      · simp [synthetic]
    obtain ⟨untagged, foreign⟩ := not_or.mp synthetic
    simp only [if_neg synthetic]
    by_cases sameCode : event.keycode = code
    · subst sameCode
      cases type : event.eventType with
      | keyDown =>
        -- A recorded press answers again; without one a press is recorded now.
        refine .inl ⟨by simp [TapOp.isKey, untagged, foreign, type], ?_⟩
        simp only [named, classifyTapEvent]
        cases held : state.presses.lookup key with
        | some press => exact ⟨press, _, _, held, rfl, .inl rfl⟩
        | none => exact ⟨_, _, true, AList.lookup_insert _, rfl, .inr ⟨rfl, rfl⟩⟩
      | keyUp =>
        -- The release takes the record with it.
        refine .inr (.inl ⟨by simp [TapOp.isKey, untagged, foreign, type], ?_⟩)
        simp only [named, classifyTapEvent]
        cases held : state.presses.lookup key with
        | some press => exact ⟨AList.lookup_erase _ _, rfl⟩
        | none => exact ⟨held, rfl⟩
      | tapDisabledByTimeout | tapDisabledByUserInput | other =>
        exact .inr (.inr ⟨by simp [TapOp.isKey, type], by simp [TapOp.isKey, type], rfl⟩)
    · -- Another keycode stands for another key, whose record is elsewhere in the map.
      refine .inr (.inr ⟨by simp [TapOp.isKey, sameCode], by simp [TapOp.isKey, sameCode], ?_⟩)
      cases other : Key.fromKeycode event.keycode.toNat with
      | none => cases event.eventType <;> rfl
      | some otherKey =>
        have apart : key ≠ otherKey := by
          intro same
          have left := Key.fromKeycode_keycode named
          have right := Key.fromKeycode_keycode other
          exact sameCode (UInt16.toNat_inj.mp (by rw [← left, ← right, same]))
        cases event.eventType with
        | keyDown =>
          simp only [classifyTapEvent]
          cases state.presses.lookup otherKey with
          | some press => rfl
          | none => exact AList.lookup_insert_ne apart
        | keyUp =>
          simp only [classifyTapEvent]
          cases state.presses.lookup otherKey with
          | some press => exact AList.lookup_erase_ne apart
          | none => rfl
        | tapDisabledByTimeout | tapDisabledByUserInput | other => rfl
  | _ =>
    refine .inr (.inr ⟨rfl, rfl, ?_⟩)
    rw [step_presses_of_table (by intro event; nofun) taken]

/-- A key has a press record exactly while its keycode is held. -/
theorem TapState.run_record {ownPid : UInt32} {code : UInt16} {key : Key}
    (named : Key.fromKeycode code.toNat = some key) {state next : TapState}
    {trace : List (TapOp × TapOutput)} (run : Run (Steps ownPid) state trace next) :
    (next.presses.lookup key).isSome =
      heldAfter ownPid code (state.presses.lookup key).isSome (trace.map Prod.fst) := by
  -- Each step moves the record the way it moves the held flag.
  induction run with
  | nil => rfl
  | @cons first middle last label rest taken _ ih =>
    rw [ih]
    simp only [List.map_cons, heldAfter, List.foldl_cons]
    congr 1
    rcases step_record named taken with ⟨isDown, _, _, _, held, _⟩ | ⟨isUp, gone, _⟩ | ⟨no, no', same⟩
    · simp [isDown, held]
    · have notDown : label.1.isKey ownPid code .keyDown = false := by
        cases op : label.1 <;> simp_all [TapOp.isKey]
      simp [isUp, notDown, gone]
    · simp [no, no', same]

/-- While its key stays down, a press keeps its record and answers every key-down from it. -/
theorem TapState.run_held {ownPid : UInt32} {code : UInt16} {key : Key}
    (named : Key.fromKeycode code.toNat = some key) {press : PressRecord} {state next : TapState}
    {trace : List (TapOp × TapOutput)} (run : Run (Steps ownPid) state trace next)
    (held : state.presses.lookup key = some press)
    (unreleased : ∀ entry ∈ trace, entry.1.isKey ownPid code .keyUp = false) :
    next.presses.lookup key = some press ∧
      ∀ entry ∈ trace, entry.1.isKey ownPid code .keyDown = true →
        ∃ repeated emits, entry.2 = (press.action .keyDown repeated emits).output := by
  -- The induction is on the run, whose events leave the key down.
  induction run with
  | nil => exact ⟨held, by simp⟩
  | @cons first middle last label rest taken _ ih =>
    have noUp := unreleased label (by simp)
    have tail : ∀ entry ∈ rest, entry.1.isKey ownPid code .keyUp = false :=
      fun entry member => unreleased entry (by simp [member])
    rcases step_record named taken with
      ⟨_, same, repeated, emits, kept, answered, old | ⟨absent, _⟩⟩ | ⟨isUp, _⟩ | ⟨notDown, _, kept⟩
    · -- A repeated key-down is answered from the record it found.
      rw [held] at old
      cases old
      obtain ⟨final, answers⟩ := ih kept tail
      refine ⟨final, fun entry member isDown => ?_⟩
      rcases List.mem_cons.mp member with rfl | member
      · exact ⟨repeated, emits, answered⟩
      · exact answers entry member isDown
    · simp [held] at absent
    · simp [noUp] at isUp
    · obtain ⟨final, answers⟩ := ih (kept.trans held) tail
      refine ⟨final, fun entry member isDown => ?_⟩
      rcases List.mem_cons.mp member with rfl | member
      · simp [notDown] at isDown
      · exact answers entry member isDown

/-- An event on a keycode without a key is passed on and answered with nothing. -/
theorem TapState.step_unnamed {ownPid : UInt32} {code : UInt16} {type : TapEventType}
    (unnamed : Key.fromKeycode code.toNat = none) {state next : TapState} {op : TapOp}
    {output : TapOutput} (taken : state.Steps ownPid (op, output) next)
    (isKey : op.isKey ownPid code type = true) : output = {} := by
  -- Only events have a keycode.
  cases op with
  | event event =>
    simp only [TapOp.isKey, Bool.and_eq_true, bne_iff_ne, beq_iff_eq] at isKey
    obtain ⟨⟨⟨untagged, foreign⟩, sameCode⟩, _⟩ := isKey
    subst sameCode
    unfold Steps step tapCallback at taken
    simp only [untagged, foreign, or_self, if_false, unnamed, Option.some.injEq,
      Prod.mk.injEq] at taken
    rw [← taken.2]
    cases event.eventType <;> rfl
  | _ => simp [TapOp.isKey] at isKey

/-- Every entry of a run on a keycode without a key is answered with nothing. -/
theorem TapState.run_unnamed {ownPid : UInt32} {code : UInt16} {type : TapEventType}
    (unnamed : Key.fromKeycode code.toNat = none) {state next : TapState}
    {trace : List (TapOp × TapOutput)} (run : Run (Steps ownPid) state trace next) :
    ∀ entry ∈ trace, entry.1.isKey ownPid code type = true → entry.2 = {} := by
  -- The induction is on the run.
  induction run with
  | nil => simp
  | cons taken _ ih =>
    intro entry member isKey
    rcases List.mem_cons.mp member with rfl | member
    · exact step_unnamed unnamed taken isKey
    · exact ih entry member isKey

/--
From a first key-down to its key-up, one press keeps its interception and its registration.

Repeats may be left out, the release may not, and a press that said nothing stays silent.
-/
theorem tap_press_pairing {ownPid : UInt32} {code : UInt16} {down : TapOp} {first : TapOutput}
    {before during after : List (TapOp × TapOutput)} {final : TapState}
    (run : Run (TapState.Steps ownPid) {} (before ++ (down, first) :: (during ++ after)) final)
    (pressed : down.isKey ownPid code .keyDown = true)
    (fresh : heldAfter ownPid code false (before.map Prod.fst) = false)
    (unreleased : ∀ entry ∈ during, entry.1.isKey ownPid code .keyUp = false) :
    (∀ entry ∈ during, entry.1.isKey ownPid code .keyDown = true →
      entry.2.result = first.result ∧ ∀ event, entry.2.emitted = some event →
        ∃ opening, first.emitted = some opening ∧ event.id = opening.id ∧
          event.hotkey = opening.hotkey ∧ event.kind = .keyDown) ∧
    (∀ up last rest, after = (up, last) :: rest → up.isKey ownPid code .keyUp = true →
      last.result = first.result ∧ last.emitted = first.emitted.map Event.release) := by
  obtain ⟨start, opened, run⟩ := run.split
  cases run with
  | @cons _ pressing _ _ _ taken run =>
  obtain ⟨releasing, holding, run⟩ := run.split
  cases named : Key.fromKeycode code.toNat with
  | none =>
    -- Without a key the whole press is passed through in silence.
    have silent := TapState.step_unnamed named taken pressed
    refine ⟨fun entry member isDown => ?_, fun up last rest tail isUp => ?_⟩
    · simp [TapState.run_unnamed named holding entry member isDown, silent]
    · subst tail
      cases run with
      | cons released _ => simp [TapState.step_unnamed named released isUp, silent]
  | some key =>
    have empty : start.presses.lookup key = none := by
      have record := TapState.run_record named opened
      simpa [fresh, Option.isSome_eq_false_iff] using record
    -- The key-down of a key without a record writes the record that answers it.
    obtain ⟨press, repeated, recorded, answered⟩ : ∃ press repeated,
        pressing.presses.lookup key = some press ∧
        first = (press.action .keyDown repeated true).output := by
      rcases TapState.step_record named taken with
        ⟨_, press, repeated, emits, recorded, answered, old | ⟨_, rfl⟩⟩ | ⟨isUp, _⟩ | ⟨notDown, _⟩
      · simp [empty] at old
      · exact ⟨press, repeated, recorded, answered⟩
      · cases down <;> simp_all [TapOp.isKey]
      · simp [pressed] at notDown
    obtain ⟨kept, answers⟩ := TapState.run_held named holding recorded unreleased
    refine ⟨fun entry member isDown => ?_, fun up last rest tail isUp => ?_⟩
    · obtain ⟨again, emits, echoed⟩ := answers entry member isDown
      rw [echoed, answered]
      refine ⟨rfl, fun event emitted => ?_⟩
      cases logical : press.logical <;>
        cases emits <;> simp_all [TapAction.output, PressRecord.action]
      subst emitted
      simp
    · subst tail
      cases run with
      | cons released _ =>
        rcases TapState.step_record named released with ⟨isDown, _⟩ | ⟨_, _, echoed⟩ | ⟨_, notUp, _⟩
        · cases up <;> simp_all [TapOp.isKey]
        · rw [echoed, kept, answered]
          refine ⟨rfl, ?_⟩
          cases logical : press.logical <;>
            simp [TapAction.output, PressRecord.action, Event.release, logical]
        · simp [isUp] at notUp

/-- A physical event of the key `h` under the control flag, from a process other than the tap's. -/
private def controlH (type : TapEventType) (autorepeat : Bool) : TapOp :=
  .event ⟨type, 4, 0x40000, autorepeat, 7, 0⟩

/-- A press keeps its registration although it is removed and suspended before the release. -/
theorem tap_press_pairing_unregistered :
    ∃ opening released : TapOutput,
      opening.emitted = some ⟨1, ⟨{.control}, .h⟩, .keyDown, false⟩ ∧
      released.result = opening.result ∧
      released.emitted = opening.emitted.map Event.release := by
  let chord : Chord := ⟨{.control}, .h⟩
  let answer (kind : EventKind) (repeated : Bool) : TapOutput :=
    ⟨some ⟨1, chord, kind, repeated⟩, .drop⟩
  -- One repeat is delivered, the next one is suppressed by the suspension.
  obtain ⟨final, _, rfl, run, _⟩ := Run.of_evaluate (TapState.step 1) {}
    [.intercept chord, controlH .keyDown false, .unregister 1, controlH .keyDown true,
      .suspend, controlH .keyDown true, controlH .keyUp false] Prod.snd
    [{}, answer .keyDown false, {}, answer .keyDown true, {}, ⟨none, .drop⟩,
      answer .keyUp false] (by decide +kernel)
  let during : List (TapOp × TapOutput) :=
    [(.unregister 1, {}), (controlH .keyDown true, answer .keyDown true), (.suspend, {}),
      (controlH .keyDown true, ⟨none, .drop⟩)]
  have pressed : (controlH .keyDown false).isKey 1 4 .keyDown = true := rfl
  have unreleased : ∀ entry ∈ during, entry.1.isKey 1 4 .keyUp = false := by decide
  have shaped : Run (TapState.Steps 1) {} ([(.intercept chord, ({} : TapOutput))] ++
      (controlH .keyDown false, answer .keyDown false) ::
        (during ++ [(controlH .keyUp false, answer .keyUp false)])) final := run
  have paired := tap_press_pairing shaped pressed rfl unreleased
  exact ⟨answer .keyDown false, answer .keyUp false, rfl, paired.2 _ _ _ rfl rfl⟩

end Hotki

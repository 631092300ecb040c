import Hotki.Hotkey.Registry

/-! The event tap: what it emits and swallows for each physical key event. -/

namespace Hotki

open Base

/-- The tag of events this program injected itself. -/
def hotkTag : Int := 1752468299

/-- The kind of event generated for a matching hotkey. -/
inductive EventKind where
  | keyDown | keyUp
  deriving DecidableEq, Repr

/-- An event delivered for a registered hotkey. -/
structure Event where
  id : UInt32
  hotkey : Chord
  kind : EventKind
  /-- Set when the operating system generated the key-down for a held key. -/
  repeated : Bool
  deriving DecidableEq

/-- How a new press is handled. -/
structure Decision where
  emit : Bool
  intercept : Bool
  deriving DecidableEq, Repr

/-- Classifies a new press from the suspension and the matched registration. -/
def classify (suspended : Bool) (matchedIntercept : Option Bool) : Decision :=
  if suspended then ⟨false, false⟩
  else match matchedIntercept with
    | none => ⟨false, false⟩
    | some intercept => ⟨true, intercept⟩

/-- The registration accepted by one physical key press. -/
structure LogicalPress where
  id : UInt32
  hotkey : Chord
  deriving DecidableEq

/-- The decision retained from physical key-down until its paired key-up. -/
structure PressRecord where
  logical : Option LogicalPress
  intercept : Bool
  deriving DecidableEq

/-- What the tap does with one event. -/
structure TapAction where
  event : Option Event
  intercept : Bool
  deriving DecidableEq

/-- Recreates an event from the registration accepted at physical key-down. -/
def PressRecord.action (press : PressRecord) (kind : EventKind) (repeated emitLogical : Bool) :
    TapAction where
  event :=
    if emitLogical then
      press.logical.map fun logical => ⟨logical.id, logical.hotkey, kind, repeated⟩
    else none
  intercept := press.intercept

/-- The record a key-down without an earlier press leaves behind. -/
def newPress (inner : Inner) (code : Key) (mods : Finset Modifier) : PressRecord :=
  let matched := matchEvent inner code mods
  let suspended := decide (inner.suspend > 0)
  let capture := decide (inner.captureAll > 0)
  let decision := classify suspended (matched.map fun entry => entry.2.intercept)
  let decision := if !suspended && capture then ⟨matched.isSome, true⟩ else decision
  { logical := if decision.emit then matched.map fun entry => ⟨entry.1, entry.2.hotkey⟩ else none
    intercept := decision.intercept }

/-- Classifies one key event against the presses still held. -/
def classifyTapEvent (inner : Inner) (code : Key) (mods : Finset Modifier) (kind : EventKind)
    (isRepeat : Bool) (presses : HashMap Key PressRecord) : TapAction × HashMap Key PressRecord :=
  match kind with
  | .keyUp =>
    match presses.lookup code with
    | none => (⟨none, false⟩, presses)
    | some press => (press.action .keyUp false true, presses.erase code)
  | .keyDown =>
    match presses.lookup code with
    | some press => (press.action .keyDown isRepeat (inner.suspend == 0), presses)
    | none =>
      let press := newPress inner code mods
      (press.action .keyDown isRepeat true, presses.insert code press)

/-- The kinds of event the operating system delivers to the tap. -/
inductive TapEventType where
  | keyDown | keyUp | tapDisabledByTimeout | tapDisabledByUserInput | other
  deriving DecidableEq, Repr

/-- The fields of a system event that the tap reads. -/
structure TapEvent where
  eventType : TapEventType
  keycode : UInt16
  flags : Nat
  autorepeat : Bool
  sourcePid : UInt32
  userData : Int

/-- Whether an event goes on to the foreground application. -/
inductive CallbackResult where
  | keep | drop
  deriving DecidableEq, Repr

/-- What one callback sent to the client and answered to the operating system. -/
structure TapOutput where
  emitted : Option Event := none
  result : CallbackResult := .keep
  deriving DecidableEq

/-- Reports a classified action as the callback does. -/
def TapAction.output (action : TapAction) : TapOutput where
  emitted := action.event
  result := if action.intercept then .drop else .keep

/-- The tap callback of the process `ownPid`, run on one system event. -/
def tapCallback (ownPid : UInt32) (inner : Inner) (presses : HashMap Key PressRecord)
    (event : TapEvent) : TapOutput × HashMap Key PressRecord :=
  -- Events this program injected are passed through, by tag or by process.
  if event.userData = hotkTag ∨ event.sourcePid = ownPid then ({}, presses)
  else
    let classified (kind : EventKind) (isRepeat : Bool) :=
      match Key.fromKeycode event.keycode.toNat with
      | none => ({}, presses)
      | some code =>
        let mods := modifiersFromCgFlags event.flags
        let (action, presses) := classifyTapEvent inner code mods kind isRepeat presses
        (action.output, presses)
    match event.eventType with
    | .keyDown => classified .keyDown event.autorepeat
    | .keyUp => classified .keyUp false
    | .tapDisabledByTimeout | .tapDisabledByUserInput | .other => ({}, presses)

/-- The published table together with the presses the tap retains. -/
structure TapState where
  inner : Inner := {}
  presses : HashMap Key PressRecord := ∅

/-- Everything that can happen to the tap and its table, in any order. -/
inductive TapOp where
  | event (event : TapEvent)
  | watch (hotkey : Chord)
  | intercept (hotkey : Chord)
  | unregister (id : UInt32)
  | unregisterAll
  | suspend
  | resume
  | captureAll
  | releaseCapture

namespace TapState

/-- Publishes a changed table beside the same presses. -/
def publish (state : TapState) (inner : Inner) : TapState × TapOutput :=
  ({ state with inner }, {})

/-- One operation, or none for a registration whose search for a free id never ends. -/
def step (ownPid : UInt32) (state : TapState) : TapOp → Option (TapState × TapOutput)
  | .event event =>
    let (output, presses) := tapCallback ownPid state.inner state.presses event
    some ({ state with presses }, output)
  | .watch hotkey =>
    (state.inner.register hotkey false).map fun registered => state.publish registered.2
  | .intercept hotkey =>
    (state.inner.register hotkey true).map fun registered => state.publish registered.2
  | .unregister id => some (state.publish (state.inner.unregister id).2)
  | .unregisterAll => some (state.publish state.inner.unregisterAll.2)
  | .suspend => some (state.publish state.inner.enterSuspend)
  | .resume => some (state.publish state.inner.leaveSuspend)
  | .captureAll => some (state.publish state.inner.enterCaptureAll)
  | .releaseCapture => some (state.publish state.inner.leaveCaptureAll)

/-- The step relation whose labels pair each operation with what the tap answered. -/
def Steps (ownPid : UInt32) (state : TapState) (label : TapOp × TapOutput) (next : TapState) :
    Prop :=
  state.step ownPid label.1 = some (next, label.2)

/-- An operation the tap takes part in, or an event that passes it by while it is disabled. -/
inductive Observation where
  | seen (op : TapOp)
  | missed (event : TapEvent)

/-- One observation: what is missed goes on to the foreground application and leaves no trace. -/
def observe (ownPid : UInt32) (state : TapState) : Observation → Option (TapState × TapOutput)
  | .seen op => state.step ownPid op
  | .missed _ => some (state, {})

/-- The transition relation of observations, each paired with what the tap answered. -/
def Observes (ownPid : UInt32) (state : TapState) (label : Observation × TapOutput)
    (next : TapState) : Prop :=
  state.observe ownPid label.1 = some (next, label.2)

end TapState

end Hotki

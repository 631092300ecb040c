import Hotki.Relay.RelayKey

/-! The relayer with its backend: posts that may fail, and the key events a post is made of. -/

namespace Hotki

open Base

/-- Why an event could not be posted. -/
inductive RelayError where
  | eventSource
  | eventCreate
  | permissionDenied (permission : String)
  deriving DecidableEq

/-- An event backend: its answer to a post, which may depend on all posts before it. -/
abbrev Poster := List RelayPost → RelayPost → Except RelayError Unit

/-- An active gesture with its place among all gestures begun, which the code does not keep. -/
structure NumberedGesture extends ActiveGesture where
  number : Nat
  deriving DecidableEq

/-- The relayer's state, its backend, and what it asked of the backend. -/
structure RelayState where
  active : HashMap String NumberedGesture := ∅
  /-- The event backend, or none when posting is disabled. -/
  poster : Option Poster
  /-- The posts the backend was asked for, each with the number of its gesture. -/
  log : List (Nat × RelayPost) := []
  /-- What failed, which the code only logs. -/
  warnings : List (String × RelayError) := []
  /-- The gestures begun so far, which the code does not keep. -/
  gestures : List ActiveGesture := []

namespace RelayState

/-- A relayer around an optional backend. -/
def withPoster (poster : Option Poster) : RelayState := { poster }

/-- Asks the backend for a post of a gesture, and logs its failure under a name. -/
def attempt (state : RelayState) (number : Nat) (warning : String) (post : RelayPost) :
    RelayState :=
  match state.poster with
  -- A disabled relayer posts nothing.
  | none => state
  | some poster =>
    let asked := { state with log := state.log ++ [(number, post)] }
    match poster (state.log.map Prod.snd) post with
    | .ok () => asked
    -- A failure is only warned about.
    | .error error => { asked with warnings := asked.warnings ++ [(warning, error)] }

/-- Posts one initial or repeated key-down with destination-specific modifiers. -/
def postDown (state : RelayState) (gesture : NumberedGesture) (isRepeat : Bool) : RelayState :=
  let pressed :=
    -- Only the initial key-down of a global gesture is preceded by its modifiers.
    if !isRepeat && gesture.destination = .hid then
      state.attempt gesture.number "post_modifiers_failed"
        (.modifiers gesture.chord.modifiers true gesture.destination)
    else state
  pressed.attempt gesture.number "relay_down_failed"
    (.down gesture.chord isRepeat gesture.destination)

/-- Posts one key-up and balances destination-specific modifiers. -/
def postUp (state : RelayState) (gesture : NumberedGesture) : RelayState :=
  let lifted := state.attempt gesture.number "relay_up_failed"
    (.up gesture.chord gesture.destination)
  if gesture.destination = .hid then
    lifted.attempt gesture.number "post_modifiers_failed"
      (.modifiers gesture.chord.modifiers false gesture.destination)
  else lifted

/-- Removes the gesture of an identifier, if there is one, and posts its release. -/
def release (state : RelayState) (id : String) : RelayState :=
  match state.active.lookup id with
  | some gesture => { state with active := state.active.erase id }.postUp gesture
  | none => state

/-- Begins a gesture, releasing the one it replaces. -/
def begin (state : RelayState) (id : String) (chord : Chord) (destination : RelayDestination) :
    RelayState :=
  let balanced := state.release id
  let gesture : NumberedGesture := ⟨⟨chord, destination⟩, balanced.gestures.length⟩
  let started := balanced.postDown gesture false
  -- The gesture is retained whether or not its posts succeeded.
  { started with
    active := started.active.insert id gesture
    gestures := started.gestures ++ [gesture.toActiveGesture] }

/-- Repeats the gesture of an identifier, reporting whether there is one. -/
def repeatGesture (state : RelayState) (id : String) : Bool × RelayState :=
  match state.active.lookup id with
  | some gesture => (true, state.postDown gesture true)
  | none => (false, state)

/-- Ends the gesture of an identifier, reporting whether there was one. -/
def endGesture (state : RelayState) (id : String) : Bool × RelayState :=
  ((state.active.lookup id).isSome, state.release id)

/-- Releases every active gesture, in the order the table is drained. -/
def releaseAll (state : RelayState) (order : IterationOrder String) : RelayState :=
  (order.arrange state.active.keys).foldl release state

end RelayState

/-- One call of the relayer, with the order in which it drains its table. -/
inductive RelayCall where
  | begin (id : String) (chord : Chord) (destination : RelayDestination)
  | repeatGesture (id : String)
  | endGesture (id : String)
  | releaseAll (order : IterationOrder String)

namespace RelayState

/-- The state after one call. -/
def call (state : RelayState) : RelayCall → RelayState
  | .begin id chord destination => state.begin id chord destination
  | .repeatGesture id => (state.repeatGesture id).2
  | .endGesture id => (state.endGesture id).2
  | .releaseAll order => state.releaseAll order

/-- The state of an enabled relayer after a sequence of calls. -/
def after (poster : Poster) (calls : List RelayCall) : RelayState :=
  calls.foldl call (withPoster (some poster))

end RelayState

/-- The flag bits of a modifier, none for those that have no flag. -/
def Modifier.cgFlagBits : Modifier → Nat
  | shift | rightShift => 1 <<< 17
  | control | rightControl => 1 <<< 18
  | option | rightOption => 1 <<< 19
  | command | rightCommand => 1 <<< 20
  | capsLock | function => 0

/-- One keyboard event as it is handed to the system. -/
structure KeyEvent where
  code : Nat
  down : Bool
  /-- The flags set on it, if any are. -/
  flags : Option Nat
  autorepeat : Bool
  /-- Whether it carries the marker by which the own event tap ignores it. -/
  tagged : Bool
  destination : RelayDestination
  deriving DecidableEq

/-- Whether an event needs the marker against looping back. -/
def needsHotkiTag (destination : RelayDestination) : Bool := destination = .hid

/-- The modifiers that are posted as key transitions of their own. -/
def postedModifiers : List Modifier := [
  .control, .rightControl, .option, .rightOption, .shift, .rightShift, .command, .rightCommand]

/-- Maps a modifier set to virtual key codes. -/
def modKeycodes (mods : Finset Modifier) : List Nat :=
  (postedModifiers.filter fun modifier => modifier ∈ mods).map fun modifier =>
    modifier.toKey.keycode

/-- The flags of a chord. -/
def Chord.flagBits (chord : Chord) : Nat :=
  (Modifier.printOrder.filter fun modifier => modifier ∈ chord.modifiers).foldl
    (fun bits modifier => bits ||| modifier.cgFlagBits) 0

/-- The events of a post, when none of them fails to be created. -/
def RelayPost.events : RelayPost → List KeyEvent
  | .modifiers mods pressed destination =>
    -- Modifiers are released in the reverse of the order in which they are pressed.
    let codes := if pressed then modKeycodes mods else (modKeycodes mods).reverse
    codes.map fun code => ⟨code, pressed, none, false, needsHotkiTag destination, destination⟩
  | .down chord isRepeat destination =>
    [⟨chord.key.keycode, true, some chord.flagBits, isRepeat, needsHotkiTag destination,
      destination⟩]
  | .up chord destination =>
    [⟨chord.key.keycode, false, some chord.flagBits, false, needsHotkiTag destination,
      destination⟩]

end Hotki

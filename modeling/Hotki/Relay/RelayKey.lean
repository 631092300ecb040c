import Hotki.Base.HashMap
import Hotki.Keycode.Chord

/-! The key relay: gestures kept by identifier, each pinned to its chord and its destination. -/

namespace Hotki

open Base

/-- Where a relayed gesture is delivered. -/
inductive RelayDestination where
  /-- The global event stream. -/
  | hid
  /-- One process, by its pid. -/
  | process (pid : Int32)
  deriving DecidableEq

/-- Chord and destination retained for one active keyed gesture. -/
structure ActiveGesture where
  chord : Chord
  destination : RelayDestination
  deriving DecidableEq

/-- One call of the poster, whether or not the post succeeds. -/
inductive RelayPost where
  | modifiers (mods : Finset Modifier) (down : Bool) (destination : RelayDestination)
  | down (chord : Chord) (isRepeat : Bool) (destination : RelayDestination)
  | up (chord : Chord) (destination : RelayDestination)
  deriving DecidableEq

/-- The posts of an initial or repeated key-down. -/
def postDown (chord : Chord) (isRepeat : Bool) (destination : RelayDestination) :
    List RelayPost :=
  if !isRepeat && destination = .hid then
    [.modifiers chord.modifiers true destination, .down chord isRepeat destination]
  else [.down chord isRepeat destination]

/-- The posts of a key-up. -/
def postUp (chord : Chord) (destination : RelayDestination) : List RelayPost :=
  if destination = .hid then
    [.up chord destination, .modifiers chord.modifiers false destination]
  else [.up chord destination]

/-- The relayer: its active gestures, and what it has posted if it has a backend. -/
structure RelayKey where
  active : HashMap String ActiveGesture := ∅
  /-- Whether there is an event backend. -/
  poster : Bool := true
  posted : List RelayPost := []

namespace RelayKey

/-- Hands posts to the backend, if there is one. -/
def post (relay : RelayKey) (posts : List RelayPost) : RelayKey :=
  if relay.poster then { relay with posted := relay.posted ++ posts } else relay

/-- Ends the gesture of an identifier, reporting whether there was one. -/
def endGesture (relay : RelayKey) (id : String) : Bool × RelayKey :=
  match relay.active.lookup id with
  | some gesture =>
    (true, { relay with active := relay.active.erase id }.post
      (postUp gesture.chord gesture.destination))
  | none => (false, relay)

/-- Begins a gesture, releasing the one it replaces. -/
def begin (relay : RelayKey) (id : String) (chord : Chord) (destination : RelayDestination) :
    RelayKey :=
  let relay := (relay.endGesture id).2.post (postDown chord false destination)
  { relay with active := relay.active.insert id ⟨chord, destination⟩ }

/-- Repeats the gesture of an identifier, reporting whether there is one. -/
def repeatGesture (relay : RelayKey) (id : String) : Bool × RelayKey :=
  match relay.active.lookup id with
  | some gesture => (true, relay.post (postDown gesture.chord true gesture.destination))
  | none => (false, relay)

/-- Releases every active gesture, in the order they are drained. -/
def releaseAll (relay : RelayKey) : RelayKey :=
  let gestures : List ActiveGesture := relay.active.entries.map Sigma.snd
  let posts := gestures.flatMap fun gesture => postUp gesture.chord gesture.destination
  { relay.post posts with active := ∅ }

/-- Posting leaves the active gestures alone. -/
@[simp] theorem post_active (relay : RelayKey) (posts : List RelayPost) :
    (relay.post posts).active = relay.active := by
  unfold post
  split <;> rfl

/-- Ending a gesture leaves none under its identifier and the others as they were. -/
theorem endGesture_active (relay : RelayKey) (id other : String) :
    (relay.endGesture id).2.active.lookup other =
      if other = id then none else relay.active.lookup other := by
  unfold endGesture
  split
  · rw [post_active]
    exact HashMap.lookup_erase_ite _ _ _
  · rename_i absent
    split
    · rename_i same
      rw [same, absent]
    · rfl

/-- Beginning a gesture makes it the active one of its identifier and leaves the others alone. -/
theorem begin_active (relay : RelayKey) (id other : String) (chord : Chord)
    (destination : RelayDestination) :
    (relay.begin id chord destination).active.lookup other =
      if other = id then some ⟨chord, destination⟩ else relay.active.lookup other := by
  unfold begin
  simp only [HashMap.lookup_insert_ite, post_active, endGesture_active]
  split <;> rfl

/-- Repeating a gesture leaves the active ones alone. -/
@[simp] theorem repeatGesture_active (relay : RelayKey) (id : String) :
    (relay.repeatGesture id).2.active = relay.active := by
  unfold repeatGesture
  split
  · exact post_active relay _
  · rfl

/-- Releasing everything leaves no active gesture. -/
@[simp] theorem releaseAll_active (relay : RelayKey) : relay.releaseAll.active = ∅ :=
  rfl

end RelayKey

end Hotki

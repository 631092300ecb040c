import Hotki.Base.HashMap
import Hotki.Keycode.Chord

/-! The key tracker: what is retained of each held key from its key-down to its key-up. -/

namespace Hotki

open Base

/-- State retained from one initial key down until its matching key up. -/
structure KeyState where
  /-- Chord resolved at key-down time. -/
  chord : Chord
  /-- Whether OS repeat events should be acted upon. -/
  repeatAllowed : Bool := false
  /-- Whether a HUD press event entered the UI channel. -/
  pressNotified : Bool := false
  deriving DecidableEq

/-- Tracks key-down identity, repeat permission and HUD notification state by identifier. -/
abbrev KeyStateTracker := HashMap String KeyState

namespace KeyStateTracker

/-- Whether a key is currently considered down. -/
def isDown (tracker : KeyStateTracker) (identifier : String) : Bool :=
  (tracker.lookup identifier).isSome

/-- Records an initial key-down, reporting false for a duplicate one. -/
def onKeyDown (tracker : KeyStateTracker) (identifier : String) (chord : Chord) :
    Bool × KeyStateTracker :=
  match tracker.lookup identifier with
  | none => (true, tracker.insert identifier { chord })
  | some _ => (false, tracker)

/-- Removes and returns the state associated with a key-up. -/
def onKeyUp (tracker : KeyStateTracker) (identifier : String) :
    Option KeyState × KeyStateTracker :=
  (tracker.lookup identifier, tracker.erase identifier)

/-- The chord retained for a currently held identifier. -/
def heldChord (tracker : KeyStateTracker) (identifier : String) : Option Chord :=
  (tracker.lookup identifier).map KeyState.chord

/-- Changes the state of an identifier, if it is held. -/
def alter (tracker : KeyStateTracker) (identifier : String) (change : KeyState → KeyState) :
    KeyStateTracker :=
  match tracker.lookup identifier with
  | some state => tracker.insert identifier (change state)
  | none => tracker

/-- Records that the HUD press event of a held key was enqueued. -/
def markPressNotified (tracker : KeyStateTracker) (identifier : String) : KeyStateTracker :=
  tracker.alter identifier fun state => { state with pressNotified := true }

/-- Sets whether OS repeat events are acted upon for an identifier. -/
def setRepeatAllowed (tracker : KeyStateTracker) (identifier : String) (allowed : Bool) :
    KeyStateTracker :=
  tracker.alter identifier fun state => { state with repeatAllowed := allowed }

/-- Whether repeats are allowed for an identifier. -/
def isRepeatAllowed (tracker : KeyStateTracker) (identifier : String) : Bool :=
  (tracker.lookup identifier).any KeyState.repeatAllowed

/-- A key-down makes its identifier down and no other. -/
theorem onKeyDown_isDown (tracker : KeyStateTracker) (identifier other : String) (chord : Chord) :
    isDown (tracker.onKeyDown identifier chord).2 other =
      (decide (other = identifier) || tracker.isDown other) := by
  -- A key that is down already stays as it is held.
  unfold onKeyDown isDown
  split
  · rw [HashMap.lookup_insert_ite]
    split <;> simp [*]
  · rename_i held
    by_cases same : other = identifier
    · subst same
      simp [held]
    · simp [same]

/-- A key-up makes its identifier up and no other. -/
theorem onKeyUp_isDown (tracker : KeyStateTracker) (identifier other : String) :
    isDown (tracker.onKeyUp identifier).2 other =
      (!decide (other = identifier) && tracker.isDown other) := by
  unfold onKeyUp isDown
  rw [HashMap.lookup_erase_ite]
  split <;> simp [*]

/-- Changing the state of an identifier changes it alone. -/
theorem alter_lookup (tracker : KeyStateTracker) (identifier other : String)
    (change : KeyState → KeyState) :
    (tracker.alter identifier change).lookup other =
      if other = identifier then (tracker.lookup other).map change else tracker.lookup other := by
  -- An identifier that is not held has nothing to change.
  unfold alter
  split
  · rename_i held
    rw [HashMap.lookup_insert_ite]
    split
    · rename_i same
      rw [same, held]
      rfl
    · rfl
  · rename_i absent
    split
    · rename_i same
      rw [same, absent]
      rfl
    · rfl

/-- Changing what is retained of held keys leaves which keys are held. -/
@[simp] theorem alter_isDown (tracker : KeyStateTracker) (identifier other : String)
    (change : KeyState → KeyState) :
    isDown (tracker.alter identifier change) other = tracker.isDown other := by
  unfold alter isDown
  split
  · rename_i held
    rw [HashMap.lookup_insert_ite]
    split
    · rename_i same
      subst same
      simp [held]
    · rfl
  · rfl

end KeyStateTracker

end Hotki

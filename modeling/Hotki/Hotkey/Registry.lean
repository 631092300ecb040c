import Hotki.Base.HashMap
import Hotki.Keycode.Chord

/-! The hotkey manager's registrations, and the suspend and capture scopes around them. -/

namespace Hotki

open Base

/-- The largest value of a 64-bit `usize` counter. -/
def usizeMax : Nat := UInt64.size - 1

/-- Reduces a modifier set to the four bits that take part in matching. -/
def normalizeMods (modifiers : Finset Modifier) : UInt8 :=
  (if .shift ∈ modifiers ∨ .rightShift ∈ modifiers then 1 else 0) |||
    (if .control ∈ modifiers ∨ .rightControl ∈ modifiers then 2 else 0) |||
    (if .option ∈ modifiers ∨ .rightOption ∈ modifiers then 4 else 0) |||
    (if .command ∈ modifiers ∨ .rightCommand ∈ modifiers then 8 else 0)

/-- One registered hotkey and whether its key events are swallowed. -/
structure Registration where
  hotkey : Chord
  intercept : Bool
  normalizedMods : UInt8
  deriving DecidableEq

/-- The table published to the event tap. -/
structure Inner where
  nextId : UInt32 := 0
  regs : HashMap UInt32 Registration := ∅
  suspend : Nat := 0
  /-- While positive, keys without a binding are swallowed too. -/
  captureAll : Nat := 0

namespace Inner

/-- Advances the id counter past zero and past ids in use, giving up after so many turns. -/
def nextFreeId (regs : HashMap UInt32 Registration) : Nat → UInt32 → Option UInt32
  | 0, _ => none
  | attempts + 1, lastId =>
    let candidate := lastId + 1
    if candidate = 0 then nextFreeId regs attempts candidate
    else if candidate ∈ regs then nextFreeId regs attempts candidate
    else some candidate

/-- Registers a hotkey under a fresh id, or searches for ever when no id is free. -/
def register (inner : Inner) (hotkey : Chord) (intercept : Bool) : Option (UInt32 × Inner) :=
  -- The counter returns to its start after 2^32 turns, so a longer search finds nothing new.
  (nextFreeId inner.regs UInt32.size inner.nextId).map fun id =>
    let registration := ⟨hotkey, intercept, normalizeMods hotkey.modifiers⟩
    (id, { inner with nextId := id, regs := inner.regs.insert id registration })

/-- Removes one registration, reporting whether it was there. -/
def unregister (inner : Inner) (id : UInt32) : Bool × Inner :=
  (decide (id ∈ inner.regs), { inner with regs := inner.regs.erase id })

/-- Removes every registration, reporting how many there were. -/
def unregisterAll (inner : Inner) : Nat × Inner :=
  (inner.regs.keys.length, { inner with regs := ∅ })

/-- Opens one suspend scope. -/
def enterSuspend (inner : Inner) : Inner :=
  { inner with suspend := min (inner.suspend + 1) usizeMax }

/-- Closes one suspend scope. -/
def leaveSuspend (inner : Inner) : Inner :=
  if inner.suspend > 0 then { inner with suspend := inner.suspend - 1 } else inner

/-- Opens one capture-all scope. -/
def enterCaptureAll (inner : Inner) : Inner :=
  { inner with captureAll := min (inner.captureAll + 1) usizeMax }

/-- Closes one capture-all scope. -/
def leaveCaptureAll (inner : Inner) : Inner :=
  if inner.captureAll > 0 then { inner with captureAll := inner.captureAll - 1 } else inner

end Inner

/-- Keeps the better of two matching registrations, an intercepting one before a watching one. -/
def preferIntercept (code : Key) (targetMods : UInt8) (best : Option (UInt32 × Registration))
    (id : UInt32) (registration : Registration) : Option (UInt32 × Registration) :=
  if registration.hotkey.key = code ∧ registration.normalizedMods = targetMods then
    match best with
    | none => some (id, registration)
    | some (bestId, bestRegistration) =>
      if !bestRegistration.intercept && registration.intercept then some (id, registration)
      else some (bestId, bestRegistration)
  else best

/-- The registration a key event belongs to, by exact key and normalized modifiers. -/
def matchEvent (inner : Inner) (code : Key) (modifiers : Finset Modifier) :
    Option (UInt32 × Registration) :=
  inner.regs.foldl (preferIntercept code (normalizeMods modifiers)) none

end Hotki

import Hotki.Keycode.Key
import Mathlib.Data.Finset.Lattice.Basic
import Mathlib.Data.Finset.Insert

/-! Modifiers and chords: a set of held modifiers with one key, and the text that identifies it. -/

namespace Hotki

/-- Modifier keys available on macOS keyboards. -/
inductive Modifier where
  | command | shift | option | control | capsLock | function
  | rightCommand | rightShift | rightOption | rightControl
  deriving DecidableEq, Repr, Inhabited

namespace Modifier

/-- The key a modifier is pressed with. -/
def toKey : Modifier → Key
  | command => .command
  | shift => .shift
  | option => .option
  | control => .control
  | capsLock => .capsLock
  | function => .function
  | rightCommand => .rightCommand
  | rightShift => .rightShift
  | rightOption => .rightOption
  | rightControl => .rightControl

/-- The canonical spec string for a modifier, always lowercased. -/
def toSpec : Modifier → String
  | command => "cmd"
  | control => "ctrl"
  | option => "opt"
  | modifier => toAsciiLowercase modifier.toKey.name

/-- The modifiers of a chord in the order they are printed. -/
def printOrder : List Modifier := [
  command, option, control, shift, function, capsLock,
  rightCommand, rightControl, rightOption, rightShift]

end Modifier

/-- Constructs a modifier set from the four primary `CGEventFlags` bits. -/
def modifiersFromCgFlags (flags : Nat) : Finset Modifier :=
  (if flags.testBit 17 then {.shift} else ∅) ∪ (if flags.testBit 18 then {.control} else ∅) ∪
    (if flags.testBit 19 then {.option} else ∅) ∪ (if flags.testBit 20 then {.command} else ∅)

/-- A key chord: a set of modifiers plus a single key. -/
structure Chord where
  modifiers : Finset Modifier
  key : Key
  deriving DecidableEq

namespace Chord

instance : Inhabited Chord := ⟨⟨∅, default⟩⟩

/-- The printed form of a chord, which is also the identifier its binding is known by. -/
def display (chord : Chord) : String :=
  -- Sorting the set by print order and walking the print order visit the same modifiers alike.
  let modifiers := Modifier.printOrder.filter fun modifier => modifier ∈ chord.modifiers
  modifiers.foldr (fun modifier text => modifier.toSpec ++ "+" ++ text) chord.key.toSpec

example : display ⟨{.shift, .command}, .k⟩ = "cmd+shift+k" := by decide +kernel

end Chord

end Hotki

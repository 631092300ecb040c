import Hotki.Engine.Runtime
import Mathlib.Data.Finset.Card
import Mathlib.Data.List.Destutter

/-! The selector's keys, its state machine, and the window of matches it shows. -/

namespace Hotki

/-- One selector entry as the UI shows it. -/
structure SelectorItemSnapshot where
  label : String
  sublabel : Option String
  labelMatchIndices : List Nat
  deriving DecidableEq

/-- The visible part of a selector. -/
structure SelectorSnapshot where
  title : String
  placeholder : String
  query : String
  items : List SelectorItemSnapshot
  selected : Nat
  totalMatches : Nat
  deriving DecidableEq

/-- What the selector asks of the fuzzy matcher. -/
structure MatcherHost (T : Externals) where
  /-- A matcher over a list of items. -/
  new : List SelectorItem → T.Matcher
  updatePattern : T.Matcher → String → T.Matcher
  /-- Lets the matcher work for a moment, reporting whether its results changed. -/
  tick : T.Matcher → Bool × T.Matcher
  matchedCount : T.Matcher → Nat
  matchedItem : T.Matcher → Nat → Option SelectorItem
  /-- The matches of a range, with the positions to highlight. -/
  matchedWindow : T.Matcher → Nat → Nat → List (SelectorItem × List Nat)

/-- Logical selector actions derived from a key chord. -/
inductive SelectorAction where
  | ignore | cancel | select | moveUp | moveDown | backspace | clear
  | append (letter : Char)
  deriving DecidableEq

/-- A chord with the action it stands for in a selector. -/
structure SelectorShortcut where
  key : Key
  modifiers : List Modifier
  action : SelectorAction

/-- The selector's shortcuts. -/
def selectorShortcuts : List SelectorShortcut := [
  ⟨.escape, [], .cancel⟩,
  ⟨.return_, [], .select⟩,
  ⟨.keypadEnter, [], .select⟩,
  ⟨.upArrow, [], .moveUp⟩,
  ⟨.downArrow, [], .moveDown⟩,
  ⟨.delete, [], .backspace⟩,
  ⟨.forwardDelete, [], .backspace⟩,
  ⟨.p, [.control], .moveUp⟩,
  ⟨.n, [.control], .moveDown⟩,
  ⟨.u, [.control], .clear⟩]

/-- The characters other than letters that shift changes. -/
def shiftable : List Char := "1234567890-=[]\\;',./`".toList

/-- What shift changes them to, in the same order. -/
def shiftedTo : List Char := "!@#$%^&*()_+\x7b\x7d|:\"<>?~".toList

/-- The character a shifted key types. -/
def shiftedChar (letter : Char) : Char :=
  if letter.isAlpha then letter.toUpper
  else ((shiftable.zip shiftedTo).lookup letter).getD letter

example : shiftable.length = shiftedTo.length := by decide

/-- The printable character of a key press, when it has one. -/
def printableCharForKey (key : Key) (shift : Bool) : Option Char :=
  match key.toSpec.toList with
  | [letter] => some (if shift then shiftedChar letter else letter)
  | _ => none

/-- The action of a chord in a selector. -/
def selectorActionForChord (chord : Chord) : SelectorAction :=
  let shortcut := selectorShortcuts.find? fun shortcut =>
    decide (shortcut.key = chord.key) && shortcut.modifiers.length == chord.modifiers.card &&
      shortcut.modifiers.all fun modifier => decide (modifier ∈ chord.modifiers)
  match shortcut with
  | some shortcut => shortcut.action
  | none =>
    -- Only printable input with no modifiers or just shift is typed into the query.
    if chord.modifiers = ∅ ∨ chord.modifiers = {.shift} then
      match printableCharForKey chord.key (decide (.shift ∈ chord.modifiers)) with
      | some letter => .append letter
      | none => .ignore
    else .ignore

/-- The keys that type into a selector's query. -/
def selectorPrintableKeys : List Key := [
  .a, .b, .c, .d, .e, .f, .g, .h, .i, .j, .k, .l, .m, .n, .o, .p, .q, .r, .s, .t, .u, .v, .w, .x,
  .y, .z, .digit0, .digit1, .digit2, .digit3, .digit4, .digit5, .digit6, .digit7, .digit8,
  .digit9, .space, .minus, .equal, .leftBracket, .rightBracket, .backslash, .semicolon, .quote,
  .comma, .period, .slash, .grave]

/-- The chords bound while a selector is active. -/
def selectorCaptureChords : List Chord :=
  let plain := selectorPrintableKeys.map fun key => (⟨∅, key⟩ : Chord)
  let shifted := selectorPrintableKeys.map fun key => (⟨{.shift}, key⟩ : Chord)
  let shortcuts := selectorShortcuts.map fun shortcut =>
    (⟨shortcut.modifiers.toFinset, shortcut.key⟩ : Chord)
  -- Sorted by their printed form, so that equal chords are neighbours.
  let sorted := (plain ++ shifted ++ shortcuts).mergeSort fun left right =>
    decide (left.display ≤ right.display)
  sorted.destutter (· ≠ ·)

/-- The event a selector answers a key with. -/
inductive SelectorEvent where
  | update
  | select (item : SelectorItem) (query : String)
  | cancel
  | ignored
  deriving DecidableEq

namespace SelectorState

variable {T : Externals} (matching : MatcherHost T)

/-- A selector over resolved items, matching everything. -/
def new (config : SelectorConfig) (items : List SelectorItem) (prevHudVisible : Bool)
    (window : Option FocusSnapshot) : SelectorState T :=
  ⟨config, matching.updatePattern (matching.new items) "", "", 0, prevHudVisible, window⟩

/-- Lets the matcher work, reporting whether the results changed. -/
def tick (selector : SelectorState T) : Bool × SelectorState T :=
  let (changed, matcher) := matching.tick selector.matcher
  (changed, { selector with matcher })

/-- Replaces the query and starts again from the first match. -/
def setQuery (selector : SelectorState T) (query : String) : SelectorState T :=
  { selector with query, selected := 0, matcher := matching.updatePattern selector.matcher query }

/-- Confirms the currently selected match, if there is one. -/
def selectCurrent (selector : SelectorState T) : SelectorEvent × SelectorState T :=
  let (_, selector) := selector.tick matching
  let total := matching.matchedCount selector.matcher
  if total = 0 then (.ignored, { selector with selected := 0 })
  else
    let selected := min selector.selected (total - 1)
    match matching.matchedItem selector.matcher selected with
    | some item => (.select item selector.query, { selector with selected })
    | none => (.ignored, { selector with selected })

/-- Applies a key to the selector. -/
def handleKeyDown (selector : SelectorState T) (chord : Chord) :
    SelectorEvent × SelectorState T :=
  match selectorActionForChord chord with
  | .ignore => (.ignored, selector)
  | .cancel => (.cancel, selector)
  | .select =>
    if matching.matchedCount selector.matcher = 0 then (.ignored, selector)
    else selector.selectCurrent matching
  | .moveUp =>
    if selector.selected > 0 then (.update, { selector with selected := selector.selected - 1 })
    else (.ignored, selector)
  | .moveDown =>
    if selector.selected < matching.matchedCount selector.matcher - 1 then
      (.update, { selector with selected := selector.selected + 1 })
    else (.ignored, selector)
  | .backspace =>
    if selector.query.isEmpty then (.ignored, selector)
    else (.update, selector.setQuery matching (selector.query.dropEnd 1).copy)
  | .clear =>
    if selector.query.isEmpty then (.ignored, selector)
    else (.update, selector.setQuery matching "")
  | .append letter => (.update, selector.setQuery matching (selector.query.push letter))

/-- The largest value of a 32-bit counter. -/
def u32Max : Nat := UInt32.size - 1

/-- The range of matches shown around the selection. -/
def visibleRange (total selected maxVisible : Nat) : Nat × Nat :=
  if total ≤ maxVisible then (0, total)
  else
    let start := selected - maxVisible / 2
    let final := min (start + maxVisible) u32Max
    if final > total then (total - maxVisible, total) else (start, final)

/-- The UI snapshot of a selector, which also clamps the selection to the matches. -/
def snapshot (selector : SelectorState T) : SelectorSnapshot × SelectorState T :=
  let total := matching.matchedCount selector.matcher
  let config := selector.config
  if total = 0 then
    (⟨config.title, config.placeholder, selector.query, [], 0, total⟩,
      { selector with selected := 0 })
  else
    let chosen := min selector.selected (total - 1)
    let maxVisible := min (max config.maxVisible 1) u32Max
    let (start, final) := visibleRange total chosen maxVisible
    let items := (matching.matchedWindow selector.matcher start final).map fun (item, indices) =>
      (⟨item.label, item.sublabel, indices⟩ : SelectorItemSnapshot)
    (⟨config.title, config.placeholder, selector.query, items, chosen - start, total⟩,
      { selector with selected := chosen })

end SelectorState

end Hotki

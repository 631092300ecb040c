import Hotki.Base.Counter
import Hotki.Base.Run
import Hotki.Engine.Selector

/-! The selector with its selection and window in 32-bit counters, as the code stores them. -/

namespace Hotki

open Base

/-- A selector whose selection is a 32-bit counter. -/
structure StoredSelector (T : Externals) where
  config : SelectorConfig
  matcher : T.Matcher
  query : String
  selected : UInt32
  prevHudVisible : Bool
  window : Option FocusSnapshot

/-- What happens to an open selector. -/
inductive SelectorMove (T : Externals) where
  /-- A key is pressed. -/
  | key (chord : Chord)
  /-- The matcher's worker publishes other results. -/
  | results (matcher : T.Matcher)
  /-- The selector is shown, which clamps its selection. -/
  | shown

namespace StoredSelector

variable {T : Externals} (matching : MatcherHost T)

/-- The selector that holds the same selection as a number. -/
def toState (selector : StoredSelector T) : SelectorState T where
  config := selector.config
  matcher := selector.matcher
  query := selector.query
  selected := selector.selected.toNat
  prevHudVisible := selector.prevHudVisible
  window := selector.window

/-- The number of matches, as the matcher's 32-bit counter reports it. -/
def matchedCount (selector : StoredSelector T) : UInt32 :=
  UInt32.ofNat (matching.matchedCount selector.matcher)

/-- The selection, moved back into the matches. -/
def clamped (selector : StoredSelector T) : UInt32 :=
  smaller selector.selected (saturatingSub (selector.matchedCount matching) 1)

/-- Lets the matcher work. -/
def tick (selector : StoredSelector T) : StoredSelector T :=
  { selector with matcher := (matching.tick selector.matcher).2 }

/-- Replaces the query and starts again from the first match. -/
def setQuery (selector : StoredSelector T) (query : String) : StoredSelector T :=
  { selector with query, selected := 0, matcher := matching.updatePattern selector.matcher query }

/-- Confirms the currently selected match, if there is one. -/
def selectCurrent (selector : StoredSelector T) : SelectorEvent × StoredSelector T :=
  let selector := selector.tick matching
  if selector.matchedCount matching = 0 then (.ignored, { selector with selected := 0 })
  else
    let selected := selector.clamped matching
    match matching.matchedItem selector.matcher selected.toNat with
    | some item => (.select item selector.query, { selector with selected })
    | none => (.ignored, { selector with selected })

/-- Applies a key to the selector, aborting where a counter would overflow. -/
def handleKeyDown (selector : StoredSelector T) (chord : Chord) :
    Option (SelectorEvent × StoredSelector T) :=
  match selectorActionForChord chord with
  | .ignore => some (.ignored, selector)
  | .cancel => some (.cancel, selector)
  | .select =>
    if selector.matchedCount matching = 0 then some (.ignored, selector)
    else some (selector.selectCurrent matching)
  | .moveUp =>
    if selector.selected > 0 then do
      let selected ← checkedSub selector.selected 1
      some (.update, { selector with selected })
    else some (.ignored, selector)
  | .moveDown =>
    if selector.selected < saturatingSub (selector.matchedCount matching) 1 then do
      let selected ← checkedAdd selector.selected 1
      some (.update, { selector with selected })
    else some (.ignored, selector)
  | .backspace =>
    if selector.query.isEmpty then some (.ignored, selector)
    else some (.update, selector.setQuery matching (selector.query.dropEnd 1).copy)
  | .clear =>
    if selector.query.isEmpty then some (.ignored, selector)
    else some (.update, selector.setQuery matching "")
  | .append letter => some (.update, selector.setQuery matching (selector.query.push letter))

/-- The range of matches shown around a selection, when there are any. -/
def visibleRange (total selected maxVisible : UInt32) : UInt32 × UInt32 :=
  if total ≤ maxVisible then (0, total)
  else
    let half := maxVisible / 2
    let start := saturatingSub selected half
    let final := saturatingAdd start maxVisible
    if final > total then (saturatingSub total maxVisible, total) else (start, final)

/-- The range of matches a selector shows. -/
def shownRange (selector : StoredSelector T) : UInt32 × UInt32 :=
  visibleRange (selector.matchedCount matching) (selector.clamped matching)
    (saturatingCast (max selector.config.maxVisible 1))

/-- The UI snapshot of a selector, which also clamps the selection to the matches. -/
def snapshot (selector : StoredSelector T) : SelectorSnapshot × StoredSelector T :=
  let total := selector.matchedCount matching
  let config := selector.config
  if total = 0 then
    (⟨config.title, config.placeholder, selector.query, [], 0, total.toNat⟩,
      { selector with selected := 0 })
  else
    let chosen := selector.clamped matching
    let (start, final) := selector.shownRange matching
    let window := matching.matchedWindow selector.matcher start.toNat final.toNat
    let items := window.map fun (item, indices) =>
      (⟨item.label, item.sublabel, indices⟩ : SelectorItemSnapshot)
    (⟨config.title, config.placeholder, selector.query, items,
        (saturatingSub chosen start).toNat, total.toNat⟩,
      { selector with selected := chosen })

/-- What one move makes of a selector, unless it aborts. -/
def after (selector : StoredSelector T) : SelectorMove T → Option (StoredSelector T)
  | .key chord => (selector.handleKeyDown matching chord).map Prod.snd
  | .results matcher => some { selector with matcher }
  | .shown => some (selector.snapshot matching).2

/-- A move that leaves fewer matches than the largest counter. -/
def Steps (selector : StoredSelector T) (move : SelectorMove T) (next : StoredSelector T) : Prop :=
  selector.after matching move = some next ∧
    matching.matchedCount next.matcher < SelectorState.u32Max

end StoredSelector

/-- What one move makes of the selector that counts in numbers. -/
def SelectorState.after {T : Externals} (matching : MatcherHost T) (selector : SelectorState T) :
    SelectorMove T → SelectorState T
  | .key chord => (selector.handleKeyDown matching chord).2
  | .results matcher => { selector with matcher }
  | .shown => (selector.snapshot matching).2

end Hotki

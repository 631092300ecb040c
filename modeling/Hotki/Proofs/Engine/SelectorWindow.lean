import Hotki.Engine.SelectorWindow

/-! The window of matches a selector shows is the exact one, and its counters never overflow. -/

namespace Hotki

open Base

variable {T : Externals} {matching : MatcherHost T}

/-- The matcher answers from one list of results, each with the positions to highlight. -/
structure MatcherHost.Reports (matching : MatcherHost T)
    (results : T.Matcher → List (SelectorItem × List Nat)) : Prop where
  matchedCount : ∀ matcher, matching.matchedCount matcher = (results matcher).length
  matchedItem : ∀ matcher index,
    matching.matchedItem matcher index = (results matcher)[index]?.map Prod.fst
  matchedWindow : ∀ matcher start final, start ≤ final → final ≤ (results matcher).length →
    matching.matchedWindow matcher start final = (results matcher).extract start final

/-- The first match to show, in numbers without bounds: half a window before the selection, but
neither before the first match nor so late that the window reaches past the last. -/
def exactStart (total selected visible : Int) : Int :=
  max 0 (min (selected - visible / 2) (total - visible))

/-- One past the last match to show, in numbers without bounds. -/
def exactFinal (total selected visible : Int) : Int :=
  min total (exactStart total selected visible + visible)

/-- A match as the UI shows it. -/
def shownItem (found : SelectorItem × List Nat) : SelectorItemSnapshot :=
  ⟨found.1.label, found.1.sublabel, found.2⟩

namespace SelectorState

/-- With fewer matches than the largest counter, bounded and unbounded numbers agree. -/
theorem visibleRange_exact {total selected visible : Nat} (few : total < u32Max) :
    ((visibleRange total selected (min visible u32Max)).1 : Int) =
        exactStart total selected visible ∧
      ((visibleRange total selected (min visible u32Max)).2 : Int) =
        exactFinal total selected visible := by
  unfold visibleRange exactFinal exactStart
  split
  · constructor <;> dsimp only <;> omega
  · -- The window is the smaller part, so the limit on its width does not matter.
    dsimp only
    split
    · constructor <;> dsimp only <;> omega
    · constructor <;> dsimp only <;> omega

end SelectorState

namespace StoredSelector

variable {selector : StoredSelector T}

/-- The stored window is the one computed in numbers. -/
theorem toNat_visibleRange (total selected maxVisible : UInt32) :
    (visibleRange total selected maxVisible).1.toNat =
        (SelectorState.visibleRange total.toNat selected.toNat maxVisible.toNat).1 ∧
      (visibleRange total selected maxVisible).2.toNat =
        (SelectorState.visibleRange total.toNat selected.toNat maxVisible.toNat).2 := by
  -- Saturating operations on counters are those on numbers, within the counters.
  have half : (maxVisible / 2).toNat = maxVisible.toNat / 2 := UInt32.toNat_div maxVisible 2
  unfold visibleRange SelectorState.visibleRange SelectorState.u32Max
  simp only [UInt32.le_iff_toNat_le, UInt32.lt_iff_toNat_lt, gt_iff_lt, toNat_saturatingAdd,
    toNat_saturatingSub, half]
  split
  · exact ⟨rfl, rfl⟩
  · split
    · exact ⟨toNat_saturatingSub .., rfl⟩
    · constructor
      · rw [toNat_saturatingSub, half]
      · rw [toNat_saturatingAdd, toNat_saturatingSub, half]

/-- The counter of matches counts them all. -/
theorem toNat_matchedCount (few : matching.matchedCount selector.matcher < SelectorState.u32Max) :
    (selector.matchedCount matching).toNat = matching.matchedCount selector.matcher := by
  apply UInt32.toNat_ofNat_of_lt'
  unfold SelectorState.u32Max at few
  omega

/-- The selection is moved back to the last match. -/
theorem toNat_clamped (few : matching.matchedCount selector.matcher < SelectorState.u32Max) :
    (selector.clamped matching).toNat =
      min selector.selected.toNat (matching.matchedCount selector.matcher - 1) := by
  unfold clamped
  rw [toNat_smaller, toNat_saturatingSub, toNat_matchedCount few]
  rfl

/-- Clamping the stored selection clamps the number it stands for. -/
theorem toState_clamped (few : matching.matchedCount selector.matcher < SelectorState.u32Max) :
    toState { selector with selected := selector.clamped matching } =
      { selector.toState with
        selected :=
          min selector.toState.selected (matching.matchedCount selector.matcher - 1) } := by
  unfold toState
  rw [toNat_clamped few]

/-- There is no match when the counter of matches is zero. -/
theorem matchedCount_eq_zero_iff
    (few : matching.matchedCount selector.matcher < SelectorState.u32Max) :
    selector.matchedCount matching = 0 ↔ matching.matchedCount selector.matcher = 0 := by
  rw [← UInt32.toNat_inj, toNat_matchedCount few]
  rfl

/-- The shown range is the one the selector counting in numbers shows. -/
theorem toNat_shownRange (few : matching.matchedCount selector.matcher < SelectorState.u32Max) :
    (selector.shownRange matching).1.toNat =
        (SelectorState.visibleRange (matching.matchedCount selector.matcher)
          (min selector.selected.toNat (matching.matchedCount selector.matcher - 1))
          (min (max selector.config.maxVisible 1) SelectorState.u32Max)).1 ∧
      (selector.shownRange matching).2.toNat =
        (SelectorState.visibleRange (matching.matchedCount selector.matcher)
          (min selector.selected.toNat (matching.matchedCount selector.matcher - 1))
          (min (max selector.config.maxVisible 1) SelectorState.u32Max)).2 := by
  have range := toNat_visibleRange (selector.matchedCount matching)
    (selector.clamped matching) (saturatingCast (max selector.config.maxVisible 1))
  rw [toNat_saturatingCast, toNat_matchedCount few, toNat_clamped few] at range
  exact range

/-- The shown range in numbers without bounds. -/
theorem shownRange_exact (few : matching.matchedCount selector.matcher < SelectorState.u32Max) :
    ((selector.shownRange matching).1.toNat : Int) =
        exactStart (matching.matchedCount selector.matcher) (selector.clamped matching).toNat
          (max selector.config.maxVisible 1 : Nat) ∧
      ((selector.shownRange matching).2.toNat : Int) =
        exactFinal (matching.matchedCount selector.matcher) (selector.clamped matching).toNat
          (max selector.config.maxVisible 1 : Nat) := by
  obtain ⟨start, final⟩ := toNat_shownRange few
  rw [start, final, toNat_clamped few]
  exact SelectorState.visibleRange_exact few

/-- The steps a key takes stay within the counters. -/
theorem handleKeyDown_isSome
    (few : matching.matchedCount selector.matcher < SelectorState.u32Max) (chord : Chord) :
    (selector.handleKeyDown matching chord).isSome := by
  unfold handleKeyDown
  split
  case h_4 =>
    -- Up: only a selection above zero is lowered.
    split
    next above =>
      rw [gt_iff_lt, UInt32.lt_iff_toNat_lt] at above
      obtain ⟨lowered, fits, _⟩ := checkedSub_eq_some (show (1 : UInt32).toNat ≤ _ from above)
      rw [fits]
      rfl
    next => rfl
  case h_5 =>
    -- Down: only a selection below the last match is raised.
    split
    next below =>
      rw [UInt32.lt_iff_toNat_lt, toNat_saturatingSub, toNat_matchedCount few] at below
      have fits : selector.selected.toNat + (1 : UInt32).toNat < UInt32.size := by
        unfold SelectorState.u32Max at few
        have one : (1 : UInt32).toNat = 1 := rfl
        omega
      obtain ⟨raised, sum, _⟩ := checkedAdd_eq_some fits
      rw [sum]
      rfl
    next => rfl
  all_goals first | rfl | (split <;> rfl)

/-- Confirming reads the match that the selector counting in numbers reads. -/
theorem selectCurrent_toState
    (few : matching.matchedCount (matching.tick selector.matcher).2 < SelectorState.u32Max) :
    Prod.map id toState (selector.selectCurrent matching) =
      selector.toState.selectCurrent matching := by
  unfold selectCurrent SelectorState.selectCurrent SelectorState.tick tick
  have matcher : selector.toState.matcher = selector.matcher := rfl
  rw [matcher]
  -- From here on only the selector with the matcher that has worked counts.
  generalize matching.tick selector.matcher = ticked at few
  obtain ⟨changed, worked⟩ := ticked
  dsimp only at few ⊢
  have fewReady : matching.matchedCount ({ selector with matcher := worked } :
    StoredSelector T).matcher < SelectorState.u32Max := few
  by_cases empty : matching.matchedCount worked = 0
  · rw [if_pos ((matchedCount_eq_zero_iff fewReady).mpr empty), if_pos empty]
    rfl
  · rw [if_neg fun none => empty ((matchedCount_eq_zero_iff fewReady).mp none), if_neg empty,
      toNat_clamped fewReady]
    have counted : selector.toState.selected = selector.selected.toNat := rfl
    cases item : matching.matchedItem worked
        (min selector.selected.toNat (matching.matchedCount worked - 1)) with
    | none =>
      dsimp only
      rw [counted, item]
      exact congrArg (Prod.mk _) (toState_clamped fewReady)
    | some found =>
      dsimp only
      rw [counted, item]
      exact congrArg (Prod.mk _) (toState_clamped fewReady)

/-- Confirming leaves the matcher that has worked. -/
theorem selectCurrent_matcher :
    (selector.selectCurrent matching).2.matcher = (matching.tick selector.matcher).2 := by
  unfold selectCurrent
  dsimp only
  split
  · rfl
  · split <;> rfl

/-- What a key does to the stored selector is what it does to the one that counts in numbers. -/
theorem handleKeyDown_toState
    (few : matching.matchedCount selector.matcher < SelectorState.u32Max) {chord : Chord}
    (fewAfter : ∀ answer ∈ selector.handleKeyDown matching chord,
      matching.matchedCount answer.2.matcher < SelectorState.u32Max) :
    (selector.handleKeyDown matching chord).map (Prod.map id toState) =
      some (selector.toState.handleKeyDown matching chord) := by
  -- The cases are the keys' actions; only confirming lets the matcher work.
  unfold handleKeyDown SelectorState.handleKeyDown
  unfold handleKeyDown at fewAfter
  cases action : selectorActionForChord chord with
  | ignore => rfl
  | cancel => rfl
  | select =>
    simp only [matchedCount_eq_zero_iff few]
    show _ = some (if matching.matchedCount selector.matcher = 0 then _ else _)
    split
    next => rfl
    next some =>
      have worked := fewAfter (selector.selectCurrent matching)
      rw [action] at worked
      dsimp only at worked
      rw [if_neg (fun none => some ((matchedCount_eq_zero_iff few).mp none)),
        selectCurrent_matcher] at worked
      exact congrArg Option.some (selectCurrent_toState (worked rfl))
  | moveUp =>
    dsimp only
    have same : selector.selected > 0 ↔ selector.toState.selected > 0 := UInt32.lt_iff_toNat_lt
    by_cases above : selector.selected > 0
    -- The subtraction does not underflow, since there is a row above.
    · have fits : (1 : UInt32).toNat ≤ selector.selected.toNat := same.mp above
      obtain ⟨lowered, sum, exact⟩ := checkedSub_eq_some fits
      rw [if_pos above, if_pos (same.mp above), sum]
      show some (SelectorEvent.update, toState { selector with selected := lowered }) = _
      unfold toState
      rw [exact]
      rfl
    · rw [if_neg above, if_neg fun counted => above (same.mpr counted)]
      rfl
  | moveDown =>
    dsimp only
    have same : selector.selected < saturatingSub (selector.matchedCount matching) 1 ↔
        selector.toState.selected < matching.matchedCount selector.toState.matcher - 1 := by
      rw [UInt32.lt_iff_toNat_lt, toNat_saturatingSub, toNat_matchedCount few]
      rfl
    by_cases below : selector.selected < saturatingSub (selector.matchedCount matching) 1
    · have fits : selector.selected.toNat + (1 : UInt32).toNat < UInt32.size := by
        -- Nor does the addition overflow, since the row below is counted in 32 bits.
        have counted : selector.selected.toNat < matching.matchedCount selector.matcher - 1 :=
          same.mp below
        unfold SelectorState.u32Max at few
        have one : (1 : UInt32).toNat = 1 := rfl
        omega
      obtain ⟨raised, sum, exact⟩ := checkedAdd_eq_some fits
      rw [if_pos below, if_pos (same.mp below), sum]
      show some (SelectorEvent.update, toState { selector with selected := raised }) = _
      unfold toState
      rw [exact]
      rfl
    · rw [if_neg below, if_neg fun counted => below (same.mpr counted)]
      rfl
  | backspace =>
    show Option.map _ (if selector.query.isEmpty then _ else _) =
      some (if selector.query.isEmpty then _ else _)
    split
    · rfl
    · rfl
  | clear =>
    show Option.map _ (if selector.query.isEmpty then _ else _) =
      some (if selector.query.isEmpty then _ else _)
    split
    · rfl
    · rfl
  | append letter => rfl

/-- Where nothing matches, nothing is shown. -/
theorem shownRange_of_empty (empty : selector.matchedCount matching = 0) :
    selector.shownRange matching = (0, 0) := by
  unfold shownRange visibleRange
  rw [empty]
  exact if_pos (UInt32.le_iff_toNat_le.mpr (Nat.zero_le _))

/-- The snapshot of the stored selector is that of the one that counts in numbers. -/
theorem snapshot_toState (few : matching.matchedCount selector.matcher < SelectorState.u32Max) :
    Prod.map id toState (selector.snapshot matching) = selector.toState.snapshot matching := by
  -- The window of counters was shown to be that of numbers; the rest is read off.
  unfold snapshot SelectorState.snapshot
  have matcher : selector.toState.matcher = selector.matcher := rfl
  have config : selector.toState.config = selector.config := rfl
  have counted : selector.toState.selected = selector.selected.toNat := rfl
  have total := toNat_matchedCount few
  rw [matcher, config, counted]
  by_cases empty : matching.matchedCount selector.matcher = 0
  · rw [if_pos ((matchedCount_eq_zero_iff few).mpr empty), if_pos empty, total]
    rfl
  · rw [if_neg fun none => empty ((matchedCount_eq_zero_iff few).mp none), if_neg empty, total]
    have range := toNat_shownRange few
    cases stored : selector.shownRange matching with
    | mk start final =>
      cases numbers : SelectorState.visibleRange (matching.matchedCount selector.matcher)
          (min selector.selected.toNat (matching.matchedCount selector.matcher - 1))
          (min (max selector.config.maxVisible 1) SelectorState.u32Max) with
      | mk first last =>
        rw [stored, numbers] at range
        obtain ⟨rfl, rfl⟩ := range
        dsimp only
        rw [numbers]
        have position := toNat_saturatingSub (selector.clamped matching) start
        rw [toNat_clamped few] at position
        rw [position]
        exact congrArg (Prod.mk _) (toState_clamped few)

/-- A move of the stored selector is the same move of the one that counts in numbers. -/
theorem Steps.toState {move : SelectorMove T} {next : StoredSelector T}
    (stepped : Steps matching selector move next)
    (few : matching.matchedCount selector.matcher < SelectorState.u32Max) :
    selector.toState.after matching move = next.toState := by
  -- One case for each move; the results and the showing need no counters.
  obtain ⟨made, fewAfter⟩ := stepped
  cases move with
  | key chord =>
    obtain ⟨answer, handled, rfl⟩ := Option.map_eq_some_iff.mp made
    have same := handleKeyDown_toState few fun other isAnswer => by
      rw [handled] at isAnswer
      rwa [← Option.some.inj isAnswer]
    rw [handled, Option.map_some] at same
    exact (congrArg Prod.snd (Option.some.inj same)).symm
  | results matcher =>
    rw [← Option.some.inj made]
    rfl
  | shown =>
    rw [← Option.some.inj made]
    exact (congrArg Prod.snd (snapshot_toState few)).symm

/-- Through any moves, the stored selector refines the one that counts in numbers. -/
theorem run_toState {opened : StoredSelector T} {moves : List (SelectorMove T)}
    (few : matching.matchedCount opened.matcher < SelectorState.u32Max)
    (run : Run (Steps matching) opened moves selector) :
    selector.toState = moves.foldl (SelectorState.after matching) opened.toState := by
  -- By induction on the run, each of whose steps leaves few matches for the next one.
  induction run with
  | nil => rfl
  | cons stepped _ ih => rw [ih stepped.2, List.foldl_cons, stepped.toState few]

/-- What a selector shows of the matches: the window lies in the list, is as long as it can be,
contains the selection moved back into the list, is the one numbers without bounds give, and the
reported position designates the selection in it. -/
structure Windowed (matching : MatcherHost T) (matched : List (SelectorItem × List Nat))
    (selector : StoredSelector T) : Prop where
  ordered : (selector.shownRange matching).1 ≤ (selector.shownRange matching).2
  inside : (selector.shownRange matching).2.toNat ≤ matched.length
  width : (selector.shownRange matching).2.toNat - (selector.shownRange matching).1.toNat =
    min matched.length (max selector.config.maxVisible 1)
  clampedTo : (selector.clamped matching).toNat = min selector.selected.toNat (matched.length - 1)
  contained : matched ≠ [] →
    (selector.shownRange matching).1 ≤ selector.clamped matching ∧
      selector.clamped matching < (selector.shownRange matching).2
  exactly : ((selector.shownRange matching).1.toNat : Int) =
      exactStart matched.length (selector.clamped matching).toNat
        (max selector.config.maxVisible 1 : Nat) ∧
    ((selector.shownRange matching).2.toNat : Int) =
      exactFinal matched.length (selector.clamped matching).toNat
        (max selector.config.maxVisible 1 : Nat)
  total : (selector.snapshot matching).1.totalMatches = matched.length
  items : (selector.snapshot matching).1.items =
    (matched.extract (selector.shownRange matching).1.toNat
      (selector.shownRange matching).2.toNat).map shownItem
  position : matched ≠ [] →
    (selector.shownRange matching).1.toNat + (selector.snapshot matching).1.selected =
      (selector.clamped matching).toNat
  designated : (selector.snapshot matching).1.items[(selector.snapshot matching).1.selected]? =
    matched[(selector.clamped matching).toNat]?.map shownItem

variable {results : T.Matcher → List (SelectorItem × List Nat)}

/-- The snapshot shows the range of the results, with the selection counted from its start. -/
theorem snapshot_shown (reports : matching.Reports results)
    (few : matching.matchedCount selector.matcher < SelectorState.u32Max)
    (ordered : (selector.shownRange matching).1.toNat ≤ (selector.shownRange matching).2.toNat)
    (inside : (selector.shownRange matching).2.toNat ≤ (results selector.matcher).length) :
    (selector.snapshot matching).1.items =
        ((results selector.matcher).extract (selector.shownRange matching).1.toNat
          (selector.shownRange matching).2.toNat).map shownItem ∧
      (selector.snapshot matching).1.totalMatches = (results selector.matcher).length ∧
      (results selector.matcher ≠ [] → (selector.snapshot matching).1.selected =
        (selector.clamped matching).toNat - (selector.shownRange matching).1.toNat) := by
  -- Without matches nothing is shown.
  have total := toNat_matchedCount few
  rw [reports.matchedCount] at total
  unfold snapshot
  by_cases empty : selector.matchedCount matching = 0
  · rw [if_pos empty, shownRange_of_empty empty]
    refine ⟨by simp, total, fun some => absurd ?_ some⟩
    rw [empty] at total
    exact List.eq_nil_of_length_eq_zero total.symm
  · rw [if_neg empty]
    refine ⟨?_, total, fun _ => toNat_saturatingSub _ _⟩
    rw [← reports.matchedWindow _ _ _ ordered inside]
    rfl

/-- Every selector with fewer matches than the largest counter shows a proper window of them. -/
theorem windowed (reports : matching.Reports results)
    (few : matching.matchedCount selector.matcher < SelectorState.u32Max) :
    Windowed matching (results selector.matcher) selector := by
  obtain ⟨start, final⟩ := shownRange_exact few
  have clampedTo := toNat_clamped few
  rw [reports.matchedCount] at start final clampedTo
  -- Both ends are known in numbers, so every bound is arithmetic.
  have ordered :
      (selector.shownRange matching).1.toNat ≤ (selector.shownRange matching).2.toNat := by
    unfold exactFinal exactStart at final
    unfold exactStart at start
    omega
  have inside : (selector.shownRange matching).2.toNat ≤ (results selector.matcher).length := by
    unfold exactFinal exactStart at final
    omega
  have contained : results selector.matcher ≠ [] →
      (selector.shownRange matching).1.toNat ≤ (selector.clamped matching).toNat ∧
        (selector.clamped matching).toNat < (selector.shownRange matching).2.toNat := by
    intro some
    have positive := List.length_pos_iff.mpr some
    unfold exactFinal exactStart at final
    unfold exactStart at start
    omega
  obtain ⟨items, total, position⟩ := snapshot_shown reports few ordered inside
  refine ⟨UInt32.le_iff_toNat_le.mpr ordered, inside, ?_, clampedTo, ?_, ⟨start, final⟩, total,
    items, ?_, ?_⟩
  · unfold exactFinal exactStart at final
    unfold exactStart at start
    omega
  · intro some
    exact ⟨UInt32.le_iff_toNat_le.mpr (contained some).1,
      UInt32.lt_iff_toNat_lt.mpr (contained some).2⟩
  · intro some
    rw [position some]
    exact Nat.add_sub_cancel' (contained some).1
  · by_cases none : results selector.matcher = []
    · rw [items, none]
      simp
    · have within := contained none
      rw [items, position none, List.getElem?_map, List.extract_eq_take_drop, List.getElem?_take,
        List.getElem?_drop, if_pos (by omega), Nat.add_sub_cancel' within.1]

/-- After any keys, changes of the results and showings that leave fewer matches than the largest
counter, no step overflows and the window shown is a proper one around the selection. -/
theorem window_after_moves (reports : matching.Reports results) {opened : StoredSelector T}
    {moves : List (SelectorMove T)}
    (few : matching.matchedCount opened.matcher < SelectorState.u32Max)
    (run : Run (Steps matching) opened moves selector) :
    Windowed matching (results selector.matcher) selector ∧
      ∀ move, (selector.after matching move).isSome := by
  -- Few matches are kept along the run, and with few matches every window is proper.
  have fewNow : matching.matchedCount selector.matcher < SelectorState.u32Max :=
    run.invariant (fun selector => matching.matchedCount selector.matcher < SelectorState.u32Max)
      (fun stepped _ => stepped.2) few
  refine ⟨windowed reports fewNow, fun move => ?_⟩
  cases move with
  | key chord =>
    unfold after
    rw [Option.isSome_map]
    exact handleKeyDown_isSome fewNow chord
  | results matcher => rfl
  | shown => rfl

/-- Externals whose matcher is the list of items with the query they are matched against. -/
private def listedExternals : Externals :=
  ⟨Unit, Unit, Unit, List SelectorItem × String, Unit⟩

/-- The items whose label contains the letters of the query in order. -/
private def listedResults (matcher : List SelectorItem × String) :
    List (SelectorItem × List Nat) :=
  (matcher.1.filter fun item => matcher.2.toList.isSublist item.label.toList).map (·, [])

/-- A matcher that answers at once. -/
private def listedMatching : MatcherHost listedExternals where
  new items := (items, "")
  updatePattern matcher query := (matcher.1, query)
  tick matcher := (false, matcher)
  matchedCount matcher := (listedResults matcher).length
  matchedItem matcher index := (listedResults matcher)[index]?.map Prod.fst
  matchedWindow matcher start final := (listedResults matcher).extract start final

/-- That matcher answers from one list. -/
private theorem listedMatching_reports : listedMatching.Reports listedResults :=
  ⟨fun _ => rfl, fun _ _ => rfl, fun _ _ _ _ _ => rfl⟩

/-- Five items, of which two are shown at a time. -/
private def listedSelector : StoredSelector listedExternals where
  config := ⟨"", "", .listed [], ⟨0⟩, none, 2⟩
  matcher := (["ab", "b", "cb", "d", "b"].map fun label => ⟨label, none, none⟩, "")
  query := ""
  selected := 4
  prevHudVisible := false
  window := none

/-- A move that leaves few matches, as a function. -/
private def listedStep (selector : StoredSelector listedExternals)
    (move : SelectorMove listedExternals) : Option (StoredSelector listedExternals) :=
  (selector.after listedMatching move).filter fun next =>
    decide (listedMatching.matchedCount next.matcher < SelectorState.u32Max)

/-- Typing, going down twice, results that shrink below the selection, and a showing. -/
private def shrinkingMoves : List (SelectorMove listedExternals) := [
  .key ⟨∅, .b⟩, .key ⟨∅, .downArrow⟩, .key ⟨∅, .downArrow⟩,
  .results ([⟨"ab", none, none⟩, ⟨"b", none, none⟩], "b"), .shown]

/-- The conclusion where the results shrink below the selection. -/
theorem window_after_moves_once :
    ∃ moves selector, selector.selected = 1 ∧
      Windowed listedMatching (listedResults selector.matcher) selector ∧
      (∀ move, (selector.after listedMatching move).isSome) ∧
      Run (Steps listedMatching) listedSelector moves selector := by
  -- The results shrink under the selection, which is moved back when it is shown.
  obtain ⟨selector, seen, run⟩ := Run.of_foldlM listedStep listedSelector shrinkingMoves
    (fun selector => selector.selected) 1 (by decide +kernel)
  have steps : Run (Steps listedMatching) listedSelector shrinkingMoves selector := by
    apply run.mono
    intro state move next stepped
    obtain ⟨after, few⟩ := Option.filter_eq_some_iff.mp stepped
    exact ⟨after, of_decide_eq_true few⟩
  obtain ⟨shown, going⟩ := window_after_moves listedMatching_reports (by decide +kernel) steps
  exact ⟨shrinkingMoves, selector, seen, shown, going, steps⟩

end StoredSelector

end Hotki

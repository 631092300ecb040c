import Hotki.Proofs.Keycode.Chord
import Hotki.Proofs.Relay.GestureLog

/-! The modifier transitions of overlapping relay gestures, which press and lift their own. -/

namespace Hotki

open Base

/-- The transitions of a modifier key that posts make in the global event stream. -/
def modifierTransitions (posts : List RelayPost) (modifier : Modifier) : List Bool :=
  ((posts.flatMap RelayPost.events).filter fun event =>
    event.destination == .hid && event.code == modifier.toKey.keycode).map KeyEvent.down

/-- The last transition of a modifier key that posts make in the global event stream. -/
def lastTransition (posts : List RelayPost) (modifier : Modifier) : Option Bool :=
  (modifierTransitions posts modifier).getLast?

/-- Whether a chord contains a modifier, among its modifiers or as its key. -/
def Chord.contains (chord : Chord) (modifier : Modifier) : Bool :=
  decide (modifier ∈ chord.modifiers) || chord.key == modifier.toKey

/-- Whether a gesture posts transitions of a modifier key in the global event stream. -/
def ActiveGesture.presses (gesture : ActiveGesture) (modifier : Modifier) : Bool :=
  gesture.destination == .hid &&
    (postedModifiers.contains modifier && decide (modifier ∈ gesture.chord.modifiers) ||
      gesture.chord.key == modifier.toKey)

/-- The last transition of posts is that of the later ones, if they make any. -/
theorem lastTransition_append (before after : List RelayPost) (modifier : Modifier) :
    lastTransition (before ++ after) modifier =
      (lastTransition after modifier).or (lastTransition before modifier) := by
  unfold lastTransition modifierTransitions
  rw [List.flatMap_append, List.filter_append, List.map_append, List.getLast?_append]

/-- Every key is found by its code. -/
theorem Key.fromKeycode_of_keycode (key : Key) : Key.fromKeycode key.keycode = some key := by
  have checked : ∀ key ∈ Key.all, Key.fromKeycode key.keycode = some key := by decide +kernel
  exact checked key (Key.mem_all key)

/-- Different keys have different key codes. -/
theorem Key.keycode_injective {key other : Key} (same : key.keycode = other.keycode) :
    key = other := by
  have found := Key.fromKeycode_of_keycode key
  rw [same, Key.fromKeycode_of_keycode] at found
  exact (Option.some.inj found).symm

/-- Different modifiers are pressed with different keys. -/
theorem Modifier.toKey_injective {modifier other : Modifier} (same : modifier.toKey = other.toKey) :
    modifier = other := by
  cases modifier <;> cases other <;> first | rfl | cases same

/-- The codes of a modifier set that are those of one modifier. -/
theorem filter_modKeycodes (mods : Finset Modifier) (modifier : Modifier) :
    (modKeycodes mods).filter (fun code => code == modifier.toKey.keycode) =
      if postedModifiers.contains modifier && decide (modifier ∈ mods) then
        [modifier.toKey.keycode] else [] := by
  -- A code belongs to one modifier, and each modifier is listed once.
  have own : ∀ other : Modifier,
      (other.toKey.keycode == modifier.toKey.keycode) = (other == modifier) := by
    intro other
    rw [Bool.eq_iff_iff, beq_iff_eq, beq_iff_eq]
    constructor
    · intro same
      exact Modifier.toKey_injective (Key.keycode_injective same)
    · intro same
      rw [same]
  have listed : postedModifiers.filter (fun other => other == modifier) =
      if postedModifiers.contains modifier then [modifier] else [] := by
    cases modifier <;> decide +kernel
  unfold modKeycodes
  rw [List.filter_map]
  simp only [Function.comp_def, own]
  rw [List.filter_comm, listed]
  cases postedModifiers.contains modifier with
  | false => rfl
  | true => by_cases held : modifier ∈ mods <;> simp [held]

/-- The transition of a modifier key that a post of a modifier set makes. -/
theorem lastTransition_modifiers (mods : Finset Modifier) (down : Bool) (modifier : Modifier) :
    lastTransition [.modifiers mods down .hid] modifier =
      if postedModifiers.contains modifier && decide (modifier ∈ mods) then some down else none := by
  -- Among the posted events only those of the modifier's own key count.
  have codes := filter_modKeycodes mods modifier
  unfold lastTransition modifierTransitions
  cases down with
  | true =>
    simp only [List.flatMap_cons, List.flatMap_nil, List.append_nil, RelayPost.events, if_true,
      List.filter_map, Function.comp_def, BEq.rfl, Bool.true_and, codes]
    split <;> rfl
  | false =>
    simp only [List.flatMap_cons, List.flatMap_nil, List.append_nil, RelayPost.events,
      Bool.false_eq_true, if_false, List.filter_map, Function.comp_def, BEq.rfl, Bool.true_and,
      List.filter_reverse, codes]
    split <;> rfl

/-- The code of a key is that of a modifier exactly if the key is. -/
theorem keycode_beq (key : Key) (modifier : Modifier) :
    (key.keycode == modifier.toKey.keycode) = (key == modifier.toKey) := by
  rw [Bool.eq_iff_iff, beq_iff_eq, beq_iff_eq]
  constructor
  · exact Key.keycode_injective
  · intro same
    rw [same]

/-- The transition of a modifier key that a key-down makes. -/
theorem lastTransition_down (chord : Chord) (isRepeat : Bool) (destination : RelayDestination)
    (modifier : Modifier) :
    lastTransition [.down chord isRepeat destination] modifier =
      if destination == .hid && chord.key == modifier.toKey then some true else none := by
  unfold lastTransition modifierTransitions
  simp only [List.flatMap_cons, List.flatMap_nil, List.append_nil, RelayPost.events,
    List.filter_cons, List.filter_nil, keycode_beq]
  split <;> rfl

/-- The transition of a modifier key that a key-up makes. -/
theorem lastTransition_up (chord : Chord) (destination : RelayDestination) (modifier : Modifier) :
    lastTransition [.up chord destination] modifier =
      if destination == .hid && chord.key == modifier.toKey then some false else none := by
  unfold lastTransition modifierTransitions
  simp only [List.flatMap_cons, List.flatMap_nil, List.append_nil, RelayPost.events,
    List.filter_cons, List.filter_nil, keycode_beq]
  split <;> rfl

/-- The start of a gesture ends with its initial key-down. -/
theorem ActiveGesture.startPosts_ends (gesture : ActiveGesture) :
    ∃ pressed, gesture.startPosts =
      pressed ++ [.down gesture.chord false gesture.destination] := by
  unfold startPosts
  split
  · rename_i hid
    exact ⟨[_], by rw [hid]; rfl⟩
  · exact ⟨[], rfl⟩

/-- The start of a gesture presses the modifier keys it posts transitions of, and no others. -/
theorem lastTransition_startPosts (gesture : ActiveGesture) (modifier : Modifier) :
    lastTransition gesture.startPosts modifier =
      if gesture.presses modifier then some true else none := by
  -- The system-wide poster presses the modifier keys itself.
  unfold ActiveGesture.startPosts ActiveGesture.presses
  by_cases hid : gesture.destination = .hid
  · rw [if_pos hid, ← List.singleton_append, lastTransition_append, lastTransition_down,
      lastTransition_modifiers, hid]
    cases gesture.chord.key == modifier.toKey <;>
      cases postedModifiers.contains modifier && decide (modifier ∈ gesture.chord.modifiers) <;> rfl
  · rw [if_neg hid, lastTransition_down]
    simp [hid]

/-- The release of a gesture lifts the modifier keys it posts transitions of, and no others. -/
theorem lastTransition_releasePosts (gesture : ActiveGesture) (modifier : Modifier) :
    lastTransition gesture.releasePosts modifier =
      if gesture.presses modifier then some false else none := by
  -- As at the start, with the keys lifted.
  unfold ActiveGesture.releasePosts ActiveGesture.presses
  by_cases hid : gesture.destination = .hid
  · rw [if_pos hid, ← List.singleton_append, lastTransition_append, lastTransition_up,
      lastTransition_modifiers, hid]
    cases gesture.chord.key == modifier.toKey <;>
      cases postedModifiers.contains modifier && decide (modifier ∈ gesture.chord.modifiers) <;> rfl
  · rw [if_neg hid, lastTransition_up]
    simp [hid]

namespace RelayState

/-- The last transition of a modifier key that the posts of a relayer make. -/
def transition (state : RelayState) (modifier : Modifier) : Option Bool :=
  lastTransition (state.log.map Prod.snd) modifier

/-- Since a gesture last pressed a modifier key, no gesture that posts its transitions has been
released. It presses the key when it begins, and when it repeats the key as its own. -/
def Undisturbed (state : RelayState) (gesture : NumberedGesture) (modifier : Modifier) : Prop :=
  ∃ before isRepeat after, state.log = before ++
      (gesture.number, .down gesture.chord isRepeat gesture.destination) :: after ∧
    (isRepeat = true → gesture.chord.key = modifier.toKey) ∧
    ∀ entry ∈ after, ∀ other : ActiveGesture, state.gestures[entry.1]? = some other →
      entry.2 = .up other.chord other.destination → other.presses modifier = false

/-- A modifier key is down exactly while an active gesture has pressed it undisturbed. -/
def Balanced (state : RelayState) : Prop :=
  ∀ modifier, state.transition modifier = some true ↔
    ∃ id gesture, state.active.lookup id = some gesture ∧ gesture.presses modifier = true ∧
      state.Undisturbed gesture modifier

/-- Where an entry stands in a longer log that does not add it. -/
theorem split_grown {Entry : Type} {log added before after : List Entry} {entry : Entry}
    (same : log ++ added = before ++ entry :: after) (absent : entry ∉ added) :
    ∃ rest, log = before ++ entry :: rest ∧ after = rest ++ added := by
  rcases List.append_eq_append_iff.mp same with ⟨rest, _, right⟩ | ⟨rest, left, right⟩
  · exact absurd (by rw [right]; simp) absent
  · -- The entry is the first of what the old log has after the split, if it has anything there.
    cases rest with
    | nil => exact absurd (by rw [List.nil_append] at right; rw [← right]; simp) absent
    | cons first rest =>
      obtain ⟨rfl, rfl⟩ := List.cons.inj right
      exact ⟨rest, left, rfl⟩

/-- Posts that do not press the key for a gesture disturb it exactly if they release one that
posts its transitions. -/
theorem undisturbed_grown {state next : RelayState} (logged : state.Logged) {number : Nat}
    {posts : List RelayPost} (grown : next.log = state.log ++ labelled number posts)
    (kept : ∀ index < state.gestures.length, next.gestures[index]? = state.gestures[index]?)
    (gesture : NumberedGesture) (modifier : Modifier)
    (apart : ∀ isRepeat : Bool, (isRepeat = true → gesture.chord.key = modifier.toKey) →
      (gesture.number, RelayPost.down gesture.chord isRepeat gesture.destination) ∉
        labelled number posts) :
    next.Undisturbed gesture modifier ↔ state.Undisturbed gesture modifier ∧
      ∀ other : ActiveGesture, next.gestures[number]? = some other →
        .up other.chord other.destination ∈ posts → other.presses modifier = false := by
  -- The longer log is undisturbed as the old one, if the new entries leave the modifier alone.
  constructor
  · rintro ⟨before, isRepeat, after, split, key, spared⟩
    rw [grown] at split
    obtain ⟨rest, log, same⟩ := split_grown split (apart isRepeat key)
    subst same
    refine ⟨⟨before, isRepeat, rest, log, key, ?_⟩, ?_⟩
    · intro entry member other at_ released
      refine spared entry (List.mem_append_left _ member) other ?_ released
      rw [kept entry.1 (logged.bounded entry (by rw [log]; simp [member]))]
      exact at_
    · intro other at_ member
      exact spared (number, _) (List.mem_append_right _ (List.mem_map.mpr ⟨_, member, rfl⟩)) other
        at_ rfl
  · rintro ⟨⟨before, isRepeat, rest, log, key, spared⟩, harmless⟩
    refine ⟨before, isRepeat, rest ++ labelled number posts, ?_, key, ?_⟩
    · rw [grown, log]
      simp
    · intro entry member other at_ released
      rcases List.mem_append.mp member with early | late
      · rw [kept entry.1 (logged.bounded entry (by rw [log]; simp [early]))] at at_
        exact spared entry early other at_ released
      · obtain ⟨post, listed, same⟩ := List.mem_map.mp late
        subst same
        simp only at released
        subst released
        exact harmless other at_ listed

/-- The transition after further posts is theirs, if they make one. -/
theorem transition_grown {state next : RelayState} {number : Nat} {posts : List RelayPost}
    (grown : next.log = state.log ++ labelled number posts) (modifier : Modifier) :
    next.transition modifier = (lastTransition posts modifier).or (state.transition modifier) := by
  have own : (labelled number posts).map Prod.snd = posts := by
    simp [labelled, Function.comp_def]
  unfold transition
  rw [grown, List.map_append, lastTransition_append, own]

/-- Releasing a gesture keeps the modifier keys balanced. -/
theorem Balanced.release {state : RelayState} (balanced : state.Balanced) (logged : state.Logged)
    (id : String) : (state.release id).Balanced := by
  cases found : state.active.lookup id with
  | none =>
    rw [release_absent state found]
    exact balanced
  | some gesture =>
    have grown := release_log state logged.enabled found
    have gestures := (state.release_frame id).2
    have begun := logged.known id gesture found
    intro modifier
    rw [transition_grown grown, lastTransition_releasePosts]
    -- Whoever is still active is disturbed exactly if the released gesture posts transitions.
    have disturbed : ∀ other : NumberedGesture, (state.release id).Undisturbed other modifier ↔
        state.Undisturbed other modifier ∧ gesture.presses modifier = false := by
      intro other
      rw [undisturbed_grown logged grown (fun _ _ => by rw [gestures])]
      · apply and_congr_right
        intro _
        rw [gestures, begun]
        constructor
        · intro harmless
          apply harmless _ rfl
          unfold ActiveGesture.releasePosts
          split <;> simp [*]
        · intro quiet same at_ _
          cases at_
          exact quiet
      · intro isRepeat _ member
        obtain ⟨post, listed, same⟩ := List.mem_map.mp member
        rw [(Prod.mk.inj same).2] at listed
        unfold ActiveGesture.releasePosts at listed
        split at listed <;> simp at listed
    cases quiet : gesture.presses modifier with
    -- The release posts transitions, so it is the last to have touched the modifier.
    | true =>
      constructor
      · intro down
        cases down
      · rintro ⟨other, same, _, _, undisturbed⟩
        have silent := ((disturbed same).mp undisturbed).2
        rw [quiet] at silent
        cases silent
    -- It posts none, so the last transition is that of before.
    | false =>
      rw [show ((if false = true then some false else none).or (state.transition modifier)) =
        state.transition modifier from rfl, balanced modifier]
      constructor
      · rintro ⟨other, same, active, pressing, undisturbed⟩
        refine ⟨other, same, ?_, pressing, (disturbed same).mpr ⟨undisturbed, quiet⟩⟩
        rw [release_active, if_neg]
        · exact active
        · intro sameId
          subst sameId
          cases found.symm.trans active
          rw [quiet] at pressing
          cases pressing
      · rintro ⟨other, same, active, pressing, undisturbed⟩
        rw [release_active] at active
        split at active
        · cases active
        · exact ⟨other, same, active, pressing, ((disturbed same).mp undisturbed).1⟩

/-- Beginning a gesture keeps the modifier keys balanced. -/
theorem Balanced.begin {state : RelayState} (before : state.Balanced) (logged : state.Logged)
    (id : String) (chord : Chord) (destination : RelayDestination) :
    (state.begin id chord destination).Balanced := by
  -- The replaced gesture is released first.
  have balanced := before.release logged id
  have released := logged.release id
  have kept := state.release_frame id
  have grown := begin_log state logged.enabled id chord destination
  have active := fun other => begin_active state id other chord destination
  have begun := call_gestures state (.begin id chord destination)
  simp only [call, RelayCall.begins, Option.toList_some] at begun
  have earlier : ∀ index < (state.release id).gestures.length,
      (state.begin id chord destination).gestures[index]? =
        (state.release id).gestures[index]? := by
    intro index bound
    rw [kept.2] at bound ⊢
    rw [begun, List.getElem?_append_left bound]
  intro modifier
  rw [transition_grown grown, lastTransition_startPosts]
  cases pressing : ActiveGesture.presses ⟨chord, destination⟩ modifier with
  | true =>
    refine ⟨fun _ => ⟨id, ⟨⟨chord, destination⟩, state.gestures.length⟩, ?_, pressing, ?_⟩,
      fun _ => rfl⟩
    · rw [active, if_pos rfl]
    · -- The key-down of the new gesture ends the log.
      obtain ⟨pressed, ends⟩ := ActiveGesture.startPosts_ends ⟨chord, destination⟩
      refine ⟨(state.release id).log ++ labelled state.gestures.length pressed, false, [], ?_, ?_,
        ?_⟩
      · rw [grown, ends]
        simp [labelled]
      · intro repeated
        cases repeated
      · intro entry member
        cases member
  | false =>
    rw [show ((if false = true then some true else none).or ((state.release id).transition
      modifier)) = (state.release id).transition modifier from rfl, balanced modifier]
    -- A start releases nothing, and the gestures before it have other numbers.
    have undisturbed : ∀ other gesture, (state.release id).active.lookup other = some gesture →
        ((state.begin id chord destination).Undisturbed gesture modifier ↔
          (state.release id).Undisturbed gesture modifier) := by
      intro other gesture found
      have bound := (List.getElem?_eq_some_iff.mp (released.known other gesture found)).1
      rw [undisturbed_grown released grown earlier]
      · constructor
        · exact And.left
        · intro same
          refine ⟨same, fun late _ listed => ?_⟩
          unfold ActiveGesture.startPosts at listed
          split at listed <;> simp at listed
      · intro isRepeat _ member
        obtain ⟨post, _, same⟩ := List.mem_map.mp member
        have numbers := congrArg Prod.fst same
        simp only at numbers
        rw [kept.2] at bound
        omega
    constructor
    · rintro ⟨other, gesture, found, pressed, same⟩
      refine ⟨other, gesture, ?_, pressed, (undisturbed other gesture found).mpr same⟩
      rw [release_active] at found
      split at found
      · cases found
      · rename_i different
        rw [active, if_neg different]
        exact found
    · rintro ⟨other, gesture, found, pressed, same⟩
      rw [active] at found
      split at found
      · cases found
        rw [pressing] at pressed
        cases pressed
      · rename_i different
        have before : (state.release id).active.lookup other = some gesture := by
          rw [release_active, if_neg different]
          exact found
        exact ⟨other, gesture, before, pressed, (undisturbed other gesture before).mp same⟩

/-- Repeating a gesture keeps the modifier keys balanced. -/
theorem Balanced.repeatGesture {state : RelayState} (balanced : state.Balanced)
    (logged : state.Logged) (id : String) : (state.repeatGesture id).2.Balanced := by
  unfold RelayState.repeatGesture
  split
  · rename_i gesture found
    obtain ⟨active, _, gestures⟩ := postDown_frame state gesture true
    have grown := postDown_log_repeat state logged.enabled gesture
    intro modifier
    rw [transition_grown grown, lastTransition_down]
    simp only [active]
    cases own : gesture.destination == .hid && gesture.chord.key == modifier.toKey with
    | true =>
      -- The repeated key is the modifier key, so the gesture presses it once more.
      obtain ⟨hid, key⟩ := Bool.and_eq_true_iff.mp own
      refine ⟨fun _ => ⟨id, gesture, found, ?_, ?_⟩, fun _ => rfl⟩
      · simp [ActiveGesture.presses, hid, key]
      · refine ⟨state.log, true, [], ?_, fun _ => by simpa using key, fun entry member => ?_⟩
        · rw [grown]
          rfl
        · cases member
    | false =>
      rw [show ((if false = true then some true else none).or (state.transition modifier)) =
        state.transition modifier from rfl, balanced modifier]
      -- Otherwise nobody is disturbed, and nobody presses the key.
      have undisturbed : ∀ other : NumberedGesture, other.presses modifier = true →
          (∃ another, state.active.lookup another = some other) →
          ((state.postDown gesture true).Undisturbed other modifier ↔
            state.Undisturbed other modifier) := by
        intro other pressed held
        obtain ⟨another, held⟩ := held
        rw [undisturbed_grown logged grown (fun _ _ => by rw [gestures])]
        · simp
        · intro isRepeat key member
          obtain ⟨post, listed, same⟩ := List.mem_map.mp member
          simp only [List.mem_singleton] at listed
          subst listed
          simp only [Prod.mk.injEq, RelayPost.down.injEq] at same
          obtain ⟨_, chords, repeated, destinations⟩ := same
          have keyed := key repeated.symm
          rw [← chords] at keyed
          have hid : other.destination = .hid := by
            have global := (Bool.and_eq_true_iff.mp pressed).1
            simpa using global
          rw [destinations, hid] at own
          simp [keyed] at own
      constructor
      · rintro ⟨other, same, held, pressed, before⟩
        exact ⟨other, same, held, pressed, (undisturbed same pressed ⟨other, held⟩).mpr before⟩
      · rintro ⟨other, same, held, pressed, after⟩
        exact ⟨other, same, held, pressed, (undisturbed same pressed ⟨other, held⟩).mp after⟩
  · exact balanced

/-- Releasing identifiers one after the other keeps the modifier keys balanced. -/
theorem Balanced.releases (ids : List String) {state : RelayState} (balanced : state.Balanced)
    (logged : state.Logged) : (ids.foldl RelayState.release state).Balanced := by
  induction ids generalizing state with
  | nil => exact balanced
  | cons id rest ih => exact ih (balanced.release logged id) (logged.release id)

/-- Every call keeps the modifier keys balanced. -/
theorem Balanced.call {state : RelayState} (balanced : state.Balanced) (logged : state.Logged)
    (call : RelayCall) : (state.call call).Balanced := by
  cases call with
  | begin id chord destination => exact balanced.begin logged id chord destination
  | repeatGesture id => exact balanced.repeatGesture logged id
  | endGesture id => exact balanced.release logged id
  | releaseAll order => exact balanced.releases _ logged

/--
After any calls, the last transition posted for a modifier key is down exactly if an active
gesture that posts its transitions has pressed it and no other such gesture was released since.
-/
theorem modifiers_balanced (poster : Poster) (calls : List RelayCall) (modifier : Modifier) :
    lastTransition ((after poster calls).log.map Prod.snd) modifier = some true ↔
      ∃ id gesture, (after poster calls).active.lookup id = some gesture ∧
        gesture.presses modifier = true ∧ (after poster calls).Undisturbed gesture modifier := by
  have kept : ∀ state : RelayState, state.Logged → state.Balanced →
      (calls.foldl RelayState.call state).Balanced := by
    -- The calls are taken one at a time, each from a balanced state.
    induction calls with
    | nil => exact fun state _ balanced => balanced
    | cons first rest ih =>
      exact fun state logged balanced => ih _ (logged.call first) (balanced.call logged first)
  refine kept _ (.start poster) (fun modifier => ⟨fun down => ?_, ?_⟩) modifier
  · cases down
  · rintro ⟨id, gesture, found, _⟩
    cases found

/-- A backend that accepts every post. -/
def accepting : Poster := fun _ _ => .ok ()

/-- Ending one of two gestures that share a modifier lifts it under the other, and a modifier
without a transition of its own is never pressed. -/
theorem modifiers_balanced_shared :
    (∃ calls : List RelayCall, calls = [.begin "a" ⟨{.shift}, .a⟩ .hid,
        .begin "b" ⟨{.shift}, .b⟩ .hid, .endGesture "b"] ∧
      lastTransition ((after accepting calls).log.map Prod.snd) .shift = some false ∧
      ∃ gesture, (after accepting calls).active.lookup "a" = some gesture ∧
        gesture.destination = .hid ∧ gesture.chord.contains .shift = true) ∧
    ∃ calls : List RelayCall, calls = [.begin "a" ⟨{.capsLock}, .a⟩ .hid] ∧
      lastTransition ((after accepting calls).log.map Prod.snd) .capsLock = none ∧
      ∃ gesture, (after accepting calls).active.lookup "a" = some gesture ∧
        gesture.destination = .hid ∧ gesture.chord.contains .capsLock = true := by
  -- Two gestures share a modifier, and the first release lifts it under the second.
  refine ⟨⟨_, rfl, ?_, ⟨⟨⟨{.shift}, .a⟩, .hid⟩, 0⟩, ?_, rfl, ?_⟩,
    _, rfl, ?_, ⟨⟨⟨{.capsLock}, .a⟩, .hid⟩, 0⟩, ?_, rfl, ?_⟩
  all_goals decide +kernel

end RelayState

end Hotki

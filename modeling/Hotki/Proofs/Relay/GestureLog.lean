import Hotki.Relay.RelayState

/-! The posts of every relay gesture, whatever fails and however gestures interleave. -/

namespace Hotki

open Base

/-- The posts that start a gesture: its modifiers where they are posted, and its key. -/
def ActiveGesture.startPosts (gesture : ActiveGesture) : List RelayPost :=
  if gesture.destination = .hid then
    [.modifiers gesture.chord.modifiers true .hid, .down gesture.chord false .hid]
  else [.down gesture.chord false gesture.destination]

/-- The posts that release a gesture: its key, and its modifiers where they were posted. -/
def ActiveGesture.releasePosts (gesture : ActiveGesture) : List RelayPost :=
  if gesture.destination = .hid then
    [.up gesture.chord .hid, .modifiers gesture.chord.modifiers false .hid]
  else [.up gesture.chord gesture.destination]

/-- The posts of a gesture that was repeated a number of times and then released or not. -/
def ActiveGesture.posts (gesture : ActiveGesture) (repeats : Nat) (released : Bool) :
    List RelayPost :=
  gesture.startPosts ++ List.replicate repeats (.down gesture.chord true gesture.destination) ++
    if released then gesture.releasePosts else []

/-- The gesture a call begins. -/
def RelayCall.begins : RelayCall → Option ActiveGesture
  | .begin _ chord destination => some ⟨chord, destination⟩
  | _ => none

namespace RelayState

/-- The posts of one gesture, in the order in which they were asked for. -/
def postsOf (state : RelayState) (number : Nat) : List RelayPost :=
  (state.log.filter fun entry => entry.1 == number).map Prod.snd

/-- A gesture is still active under some identifier. -/
def Holds (state : RelayState) (number : Nat) : Prop :=
  ∃ id gesture, state.active.lookup id = some gesture ∧ gesture.number = number

/-- Posts of one gesture as they stand in the log. -/
def labelled (number : Nat) (posts : List RelayPost) : List (Nat × RelayPost) :=
  posts.map fun post => (number, post)

section Frames

variable (state : RelayState)

/-- What an attempt leaves alone. -/
theorem attempt_frame (number : Nat) (warning : String) (post : RelayPost) :
    (state.attempt number warning post).active = state.active ∧
      (state.attempt number warning post).poster = state.poster ∧
      (state.attempt number warning post).gestures = state.gestures := by
  -- Neither the backend's answer nor its absence touches the table.
  unfold attempt
  split
  · exact ⟨rfl, rfl, rfl⟩
  · split <;> exact ⟨rfl, rfl, rfl⟩

/-- An attempt is logged whatever the backend answers. -/
theorem attempt_log (number : Nat) (warning : String) (post : RelayPost) :
    (state.attempt number warning post).log =
      state.log ++ if state.poster.isSome then [(number, post)] else [] := by
  unfold attempt
  split
  · rename_i absent
    simp [absent]
  · rename_i poster present
    split <;> simp [present]

/-- What posting a key-down leaves alone. -/
theorem postDown_frame (gesture : NumberedGesture) (isRepeat : Bool) :
    (state.postDown gesture isRepeat).active = state.active ∧
      (state.postDown gesture isRepeat).poster = state.poster ∧
      (state.postDown gesture isRepeat).gestures = state.gestures := by
  unfold postDown
  split
  · simp [attempt_frame]
  · simp [attempt_frame]

/-- What posting a key-up leaves alone. -/
theorem postUp_frame (gesture : NumberedGesture) :
    (state.postUp gesture).active = state.active ∧
      (state.postUp gesture).poster = state.poster ∧
      (state.postUp gesture).gestures = state.gestures := by
  unfold postUp
  split
  · simp [attempt_frame]
  · simp [attempt_frame]

/-- An initial key-down asks an enabled backend for the posts that start the gesture. -/
theorem postDown_log_initial (enabled : state.poster.isSome) (gesture : NumberedGesture) :
    (state.postDown gesture false).log =
      state.log ++ labelled gesture.number gesture.startPosts := by
  unfold postDown ActiveGesture.startPosts
  by_cases hid : gesture.destination = .hid
  · simp [hid, attempt_log, attempt_frame, enabled, labelled]
  · simp [hid, attempt_log, enabled, labelled]

/-- A repeat asks an enabled backend for one more key-down. -/
theorem postDown_log_repeat (enabled : state.poster.isSome) (gesture : NumberedGesture) :
    (state.postDown gesture true).log =
      state.log ++ labelled gesture.number [.down gesture.chord true gesture.destination] := by
  simp [postDown, attempt_log, enabled, labelled]

/-- A key-up asks an enabled backend for the posts that release the gesture. -/
theorem postUp_log (enabled : state.poster.isSome) (gesture : NumberedGesture) :
    (state.postUp gesture).log =
      state.log ++ labelled gesture.number gesture.releasePosts := by
  unfold postUp ActiveGesture.releasePosts
  by_cases hid : gesture.destination = .hid
  · simp [hid, attempt_log, attempt_frame, enabled, labelled]
  · simp [hid, attempt_log, enabled, labelled]

/-- Releasing leaves no gesture under its identifier and the others as they were. -/
theorem release_active (id other : String) :
    (state.release id).active.lookup other =
      if other = id then none else state.active.lookup other := by
  -- Whether or not its release could be posted, the gesture is forgotten.
  unfold release
  split
  · rw [(postUp_frame _ _).1]
    exact HashMap.lookup_erase_ite _ _ _
  · rename_i absent
    split
    · rename_i same
      rw [same, absent]
    · rfl

/-- Releasing an identifier without a gesture does nothing. -/
theorem release_absent {id : String} (absent : state.active.lookup id = none) :
    state.release id = state := by
  unfold release
  rw [absent]

/-- Releasing posts the release of the gesture under the identifier. -/
theorem release_log (enabled : state.poster.isSome) {id : String} {gesture : NumberedGesture}
    (found : state.active.lookup id = some gesture) :
    (state.release id).log = state.log ++ labelled gesture.number gesture.releasePosts := by
  unfold release
  rw [found]
  exact postUp_log { state with active := state.active.erase id } enabled gesture

/-- Releasing keeps the backend and forgets no gesture ever begun. -/
theorem release_frame (id : String) :
    (state.release id).poster = state.poster ∧ (state.release id).gestures = state.gestures := by
  unfold release
  split
  · exact (postUp_frame _ _).2
  · exact ⟨rfl, rfl⟩

/-- A begin posts the release of the gesture it replaces, and then the start of its own. -/
theorem begin_log (enabled : state.poster.isSome) (id : String) (chord : Chord)
    (destination : RelayDestination) :
    (state.begin id chord destination).log =
      (state.release id).log ++ labelled state.gestures.length
        (ActiveGesture.startPosts ⟨chord, destination⟩) := by
  have kept := state.release_frame id
  rw [begin]
  simp only
  rw [postDown_log_initial _ (by rw [kept.1]; exact enabled), kept.2]

/-- A begin makes its gesture the active one of its identifier. -/
theorem begin_active (id other : String) (chord : Chord) (destination : RelayDestination) :
    (state.begin id chord destination).active.lookup other =
      if other = id then some ⟨⟨chord, destination⟩, state.gestures.length⟩
      else state.active.lookup other := by
  rw [begin]
  simp only
  rw [HashMap.lookup_insert_ite, (postDown_frame _ _ _).1, release_active,
    (release_frame _ _).2]
  split <;> rfl

end Frames

/-- What is known of the log in every state of an enabled relayer. -/
structure Logged (state : RelayState) : Prop where
  enabled : state.poster.isSome
  known : ∀ id gesture, state.active.lookup id = some gesture →
    state.gestures[gesture.number]? = some gesture.toActiveGesture
  /-- A gesture is active under one identifier only. -/
  unique : ∀ id other gesture same, state.active.lookup id = some gesture →
    state.active.lookup other = some same → gesture.number = same.number → id = other
  /-- The posts of a gesture start it, repeat it, and release it once it is no longer active. -/
  shaped : ∀ (number : Nat) (gesture : ActiveGesture), state.gestures[number]? = some gesture →
    ∃ repeats released, (released = true ↔ ¬ state.Holds number) ∧
      state.postsOf number = gesture.posts repeats released
  bounded : ∀ entry ∈ state.log, entry.1 < state.gestures.length

/-- Posts of one gesture are added to its own posts only. -/
theorem postsOf_append {state next : RelayState} {number : Nat} {posts : List RelayPost}
    (grown : next.log = state.log ++ labelled number posts) (other : Nat) :
    next.postsOf other = state.postsOf other ++ if other = number then posts else [] := by
  unfold postsOf
  rw [grown, List.filter_append, List.map_append]
  congr 1
  -- Either all of the new entries belong to the gesture, or none does.
  split
  · rename_i same
    subst same
    simp [labelled, List.filter_map, Function.comp_def]
  · rename_i different
    have none_of : (labelled number posts).filter (fun entry => entry.1 == other) = [] := by
      apply List.filter_eq_nil_iff.mpr
      intro entry member
      obtain ⟨post, _, same⟩ := List.mem_map.mp member
      subst same
      simpa using Ne.symm different
    rw [none_of]
    rfl

/-- What has not begun has posted nothing. -/
theorem Logged.postsOf_fresh {state : RelayState} (logged : state.Logged) :
    state.postsOf state.gestures.length = [] := by
  unfold postsOf
  rw [List.map_eq_nil_iff, List.filter_eq_nil_iff]
  intro entry member
  have bound := logged.bounded entry member
  simp only [beq_iff_eq]
  omega

/-- Releasing an identifier keeps the log in shape. -/
theorem Logged.release {state : RelayState} (logged : state.Logged) (id : String) :
    (state.release id).Logged := by
  -- Without a gesture nothing is logged; with one, the entries of the others are left alone.
  cases found : state.active.lookup id with
  | none =>
    rw [release_absent state found]
    exact logged
  | some gesture =>
    have kept := state.release_frame id
    have grown := release_log state logged.enabled found
    -- Every other identifier keeps its gesture, and this one has none left.
    have stays : ∀ other same, (state.release id).active.lookup other = some same →
        other ≠ id ∧ state.active.lookup other = some same := by
      intro other same active
      rw [release_active] at active
      split at active
      · cases active
      · rename_i different
        exact ⟨different, active⟩
    refine ⟨by rw [kept.1]; exact logged.enabled, ?_, ?_, ?_, ?_⟩
    · intro other same active
      rw [kept.2]
      exact logged.known other same (stays other same active).2
    · intro other another same again active also numbers
      exact logged.unique other another same again (stays other same active).2
        (stays another again also).2 numbers
    · intro number begun at_
      rw [kept.2] at at_
      obtain ⟨repeats, released, released_iff, posts⟩ := logged.shaped number begun at_
      rw [postsOf_append grown]
      by_cases own : number = gesture.number
      · -- The released gesture had only its start and its repeats.
        subst own
        have pending : released = false := by
          rw [Bool.eq_false_iff]
          intro done
          exact released_iff.mp done ⟨id, gesture, found, rfl⟩
        refine ⟨repeats, true, ⟨fun _ => ?_, fun _ => rfl⟩, ?_⟩
        · rintro ⟨other, same, active, numbers⟩
          obtain ⟨different, before⟩ := stays other same active
          exact different (logged.unique other id same gesture before found numbers)
        · have begunHere := (logged.known id gesture found).symm.trans at_
          cases begunHere
          rw [posts, pending, if_pos rfl]
          simp [ActiveGesture.posts]
      -- The posts of another gesture are as they were, and so is whether it is active.
      · refine ⟨repeats, released, released_iff.trans (not_congr ?_), ?_⟩
        · constructor
          · rintro ⟨other, same, active, numbers⟩
            refine ⟨other, same, ?_, numbers⟩
            rw [release_active, if_neg]
            · exact active
            · intro sameId
              subst sameId
              cases found.symm.trans active
              exact own numbers.symm
          · rintro ⟨other, same, active, numbers⟩
            exact ⟨other, same, (stays other same active).2, numbers⟩
        · rw [if_neg own, List.append_nil]
          exact posts
    · intro entry member
      rw [kept.2]
      rw [grown] at member
      rcases List.mem_append.mp member with old | new
      · exact logged.bounded entry old
      · obtain ⟨post, _, same⟩ := List.mem_map.mp new
        subst same
        exact (List.getElem?_eq_some_iff.mp (logged.known id gesture found)).1

/-- A repeat keeps the log in shape. -/
theorem Logged.repeatGesture {state : RelayState} (logged : state.Logged) (id : String) :
    (state.repeatGesture id).2.Logged := by
  -- The repeat adds an entry of its gesture's number, which stays active.
  unfold RelayState.repeatGesture
  split
  · rename_i gesture found
    obtain ⟨active, poster, gestures⟩ := postDown_frame state gesture true
    have grown := postDown_log_repeat state logged.enabled gesture
    refine ⟨by simp only [poster]; exact logged.enabled, ?_, ?_, ?_, ?_⟩
    · simp only [active, gestures]
      exact logged.known
    · simp only [active]
      exact logged.unique
    · intro number begun at_
      simp only [gestures] at at_
      obtain ⟨repeats, released, released_iff, posts⟩ := logged.shaped number begun at_
      -- A repeat neither begins nor ends a gesture.
      have holds : (state.postDown gesture true).Holds number ↔ state.Holds number := by
        unfold Holds
        rw [active]
      by_cases own : number = gesture.number
      · -- Only an active gesture is repeated, and an active one is not released yet.
        subst own
        have pending : released = false := by
          rw [Bool.eq_false_iff]
          intro done
          exact released_iff.mp done ⟨id, gesture, found, rfl⟩
        refine ⟨repeats + 1, released, released_iff.trans (not_congr holds.symm), ?_⟩
        have begunHere := (logged.known id gesture found).symm.trans at_
        cases begunHere
        rw [postsOf_append grown, posts, pending, if_pos rfl]
        simp [ActiveGesture.posts, List.replicate_succ']
      · refine ⟨repeats, released, released_iff.trans (not_congr holds.symm), ?_⟩
        rw [postsOf_append grown, if_neg own, List.append_nil]
        exact posts
    · intro entry member
      simp only [gestures]
      rw [grown] at member
      rcases List.mem_append.mp member with old | new
      · exact logged.bounded entry old
      · obtain ⟨post, _, same⟩ := List.mem_map.mp new
        subst same
        exact (List.getElem?_eq_some_iff.mp (logged.known id gesture found)).1
  · exact logged

/-- A begin keeps the log in shape. -/
theorem Logged.begin {state : RelayState} (before : state.Logged) (id : String) (chord : Chord)
    (destination : RelayDestination) : (state.begin id chord destination).Logged := by
  -- What counts is the state in which the replaced gesture has been released.
  have logged := before.release id
  have kept := state.release_frame id
  have grown := begin_log state before.enabled id chord destination
  have active := fun other => begin_active state id other chord destination
  have count : (state.release id).gestures.length = state.gestures.length := by rw [kept.2]
  have begun : (state.begin id chord destination).gestures =
      state.gestures ++ [⟨chord, destination⟩] := by
    rw [RelayState.begin]
    simp only
    rw [(postDown_frame _ _ _).2.2, kept.2]
  have old : ∀ other gesture, other ≠ id →
      ((state.begin id chord destination).active.lookup other = some gesture ↔
        (state.release id).active.lookup other = some gesture) := by
    intro other gesture different
    rw [active, release_active, if_neg different, if_neg different]
  -- Numbers are given in turn, so all those active have smaller ones.
  have smaller : ∀ other gesture, (state.release id).active.lookup other = some gesture →
      gesture.number < state.gestures.length := by
    intro other gesture found
    have at_ := logged.known other gesture found
    rw [kept.2] at at_
    exact (List.getElem?_eq_some_iff.mp at_).1
  refine ⟨?_, ?_, ?_, ?_, ?_⟩
  · rw [RelayState.begin]
    simp only
    rw [(postDown_frame _ _ _).2.1, kept.1]
    exact before.enabled
  · intro other gesture found
    rw [begun]
    by_cases own : other = id
    · rw [active, if_pos own] at found
      cases found
      simp
    · have at_ := logged.known other gesture ((old other gesture own).mp found)
      rw [kept.2] at at_
      rw [List.getElem?_append_left (List.getElem?_eq_some_iff.mp at_).1]
      exact at_
  · -- The new gesture has a number of its own.
    intro other another gesture same found also numbers
    by_cases own : other = id <;> by_cases alsoOwn : another = id
    · rw [own, alsoOwn]
    · rw [active, if_pos own] at found
      cases found
      have bound := smaller another same ((old another same alsoOwn).mp also)
      simp only at numbers
      omega
    · rw [active, if_pos alsoOwn] at also
      cases also
      have bound := smaller other gesture ((old other gesture own).mp found)
      simp only at numbers
      omega
    · exact logged.unique other another gesture same ((old other gesture own).mp found)
        ((old another same alsoOwn).mp also) numbers
  · intro number gesture at_
    rw [begun] at at_
    rw [postsOf_append grown]
    -- An earlier gesture is active if and only if it was after the release.
    rcases Nat.lt_or_ge number state.gestures.length with early | late
    · rw [List.getElem?_append_left early] at at_
      obtain ⟨repeats, released, released_iff, posts⟩ :=
        logged.shaped number gesture (by rw [kept.2]; exact at_)
      refine ⟨repeats, released, released_iff.trans (not_congr ?_), ?_⟩
      · constructor
        · rintro ⟨other, same, found, numbers⟩
          refine ⟨other, same, (old other same ?_).mpr found, numbers⟩
          intro own
          rw [release_active, if_pos own] at found
          cases found
        · rintro ⟨other, same, found, numbers⟩
          refine ⟨other, same, (old other same ?_).mp found, numbers⟩
          intro own
          rw [active, if_pos own] at found
          cases found
          simp only at numbers
          omega
      · rw [if_neg (by omega), List.append_nil]
        exact posts
    · -- The new gesture has posted its start and nothing else.
      obtain ⟨bound, same⟩ := List.getElem?_eq_some_iff.mp at_
      have last : number = state.gestures.length := by
        simp only [List.length_append, List.length_singleton] at bound
        omega
      subst last
      have own : gesture = ⟨chord, destination⟩ := by simpa using same.symm
      subst own
      refine ⟨0, false, ⟨fun done => (by cases done), fun unheld => ?_⟩, ?_⟩
      · exact absurd ⟨id, _, by rw [active, if_pos rfl], rfl⟩ unheld
      · have fresh := logged.postsOf_fresh
        rw [kept.2] at fresh
        rw [fresh, if_pos rfl]
        simp [ActiveGesture.posts]
  · intro entry member
    rw [begun, List.length_append, List.length_singleton]
    rw [grown] at member
    rcases List.mem_append.mp member with early | new
    · have bound := logged.bounded entry early
      omega
    · obtain ⟨post, _, same⟩ := List.mem_map.mp new
      subst same
      simp only
      omega

/-- Releasing identifiers one after the other keeps the log in shape. -/
theorem Logged.releases {state : RelayState} (logged : state.Logged) (ids : List String) :
    (ids.foldl RelayState.release state).Logged := by
  induction ids generalizing state with
  | nil => exact logged
  | cons id rest ih => exact ih (logged.release id)

/-- Every call keeps the log in shape. -/
theorem Logged.call {state : RelayState} (logged : state.Logged) (call : RelayCall) :
    (state.call call).Logged := by
  cases call with
  | begin id chord destination => exact logged.begin id chord destination
  | repeatGesture id => exact logged.repeatGesture id
  | endGesture id => exact logged.release id
  | releaseAll order => exact logged.releases _

/-- A relayer that has not been called has posted nothing. -/
theorem Logged.start (poster : Poster) : (withPoster (some poster)).Logged where
  enabled := rfl
  known id gesture found := by cases found
  unique id other gesture same found := by cases found
  shaped number gesture at_ := by cases at_
  bounded entry member := by cases member

/-- The log is in shape after any calls. -/
theorem after_logged (poster : Poster) (calls : List RelayCall) : (after poster calls).Logged := by
  unfold after
  -- The calls are taken one at a time from a relayer whose log is in shape.
  have kept : ∀ state : RelayState, state.Logged → (calls.foldl call state).Logged := by
    induction calls with
    | nil => exact fun state logged => logged
    | cons first rest ih => exact fun state logged => ih _ (logged.call first)
  exact kept _ (.start poster)

/-- Releasing identifiers one after the other leaves no gesture under any of them. -/
theorem releases_active (ids : List String) (state : RelayState) (other : String) :
    (ids.foldl RelayState.release state).active.lookup other =
      if other ∈ ids then none else state.active.lookup other := by
  induction ids generalizing state with
  | nil => simp
  | cons id rest ih =>
    rw [List.foldl_cons, ih, release_active]
    by_cases later : other ∈ rest <;> by_cases first : other = id <;> simp [later, first]

/-- Releasing identifiers one after the other forgets no gesture ever begun. -/
theorem releases_gestures (ids : List String) (state : RelayState) :
    (ids.foldl RelayState.release state).gestures = state.gestures := by
  induction ids generalizing state with
  | nil => rfl
  | cons id rest ih => rw [List.foldl_cons, ih, (release_frame state id).2]

/-- Nothing is active once everything is released. -/
theorem releaseAll_active (state : RelayState) (order : IterationOrder String) (id : String) :
    (state.releaseAll order).active.lookup id = none := by
  rw [releaseAll, releases_active]
  split
  · rfl
  · rename_i unlisted
    rw [order.mem_arrange, ← AList.mem_keys] at unlisted
    exact AList.lookup_eq_none.mpr unlisted

/-- A call begins at most the one gesture it names. -/
theorem call_gestures (state : RelayState) (call : RelayCall) :
    (state.call call).gestures = state.gestures ++ call.begins.toList := by
  -- Only a beginning counts a gesture.
  cases call with
  | begin id chord destination =>
    simp only [RelayState.call, RelayState.begin, RelayCall.begins, Option.toList_some]
    rw [(postDown_frame _ _ _).2.2, (release_frame _ _).2]
  | repeatGesture id =>
    simp only [RelayState.call, RelayState.repeatGesture, RelayCall.begins, Option.toList_none,
      List.append_nil]
    split
    · exact (postDown_frame _ _ _).2.2
    · rfl
  | endGesture id =>
    simp only [RelayState.call, RelayState.endGesture, RelayCall.begins, Option.toList_none,
      List.append_nil]
    exact (release_frame _ _).2
  | releaseAll order =>
    simp only [RelayState.call, RelayState.releaseAll, RelayCall.begins, Option.toList_none,
      List.append_nil]
    exact releases_gestures _ _

/-- The gestures begun are those of the calls, in their order. -/
theorem after_gestures (poster : Poster) (calls : List RelayCall) :
    (after poster calls).gestures = calls.filterMap RelayCall.begins := by
  -- The induction is on the calls, from any number of gestures before them.
  unfold after
  have grown : ∀ state : RelayState,
      (calls.foldl call state).gestures = state.gestures ++ calls.filterMap RelayCall.begins := by
    induction calls with
    | nil => simp
    | cons first rest ih =>
      intro state
      rw [List.foldl_cons, ih, call_gestures, List.append_assoc]
      cases named : first.begins <;> simp [named]
  exact grown _

/-- The posts of a gesture that has been released exactly once, after any number of repeats. -/
def Released (state : RelayState) (number : Nat) (gesture : ActiveGesture) : Prop :=
  ∃ repeats, state.postsOf number = gesture.posts repeats true

/--
Whatever the backend answers, after any calls of an enabled relayer the posts of every gesture
begun start it, repeat it and release it as its own begin fixed.

A begin first releases what it replaces and makes its own gesture the active one. A repeat or an
end posts one key-down or the release of the active gesture, and nothing when there is none.
Releasing everything leaves every gesture ever begun released exactly once.
-/
theorem gestures_logged (poster : Poster) (calls : List RelayCall) :
    (after poster calls).gestures = calls.filterMap RelayCall.begins ∧
    (∀ entry ∈ (after poster calls).log, entry.1 < (after poster calls).gestures.length) ∧
    (∀ (number : Nat) (gesture : ActiveGesture),
      (after poster calls).gestures[number]? = some gesture →
      ∃ repeats released, (released = true ↔ ¬ (after poster calls).Holds number) ∧
        (after poster calls).postsOf number = gesture.posts repeats released) ∧
    (∀ id chord destination,
      (after poster (calls ++ [.begin id chord destination])).active.lookup id =
          some ⟨⟨chord, destination⟩, (after poster calls).gestures.length⟩ ∧
        (∀ previous, (after poster calls).active.lookup id = some previous →
          (after poster (calls ++ [.begin id chord destination])).log =
            (after poster calls).log ++ labelled previous.number previous.releasePosts ++
              labelled (after poster calls).gestures.length
                (ActiveGesture.startPosts ⟨chord, destination⟩)) ∧
        ((after poster calls).active.lookup id = none →
          (after poster (calls ++ [.begin id chord destination])).log =
            (after poster calls).log ++ labelled (after poster calls).gestures.length
              (ActiveGesture.startPosts ⟨chord, destination⟩))) ∧
    (∀ id active, (after poster calls).active.lookup id = some active →
      (after poster (calls ++ [.endGesture id])).log =
          (after poster calls).log ++ labelled active.number active.releasePosts ∧
        (after poster (calls ++ [.endGesture id])).active.lookup id = none ∧
        (after poster (calls ++ [.repeatGesture id])).log = (after poster calls).log ++
          labelled active.number [.down active.chord true active.destination] ∧
        (after poster (calls ++ [.repeatGesture id])).active.lookup id = some active) ∧
    (∀ id, (after poster calls).active.lookup id = none →
      (after poster (calls ++ [.endGesture id])).log = (after poster calls).log ∧
        (after poster (calls ++ [.repeatGesture id])).log = (after poster calls).log) ∧
    ∀ order (number : Nat) (gesture : ActiveGesture),
      (after poster (calls ++ [.releaseAll order])).gestures[number]? = some gesture →
      (after poster (calls ++ [.releaseAll order])).Released number gesture := by
  -- The log of a run with one more call is that of the call from the state before.
  have logged := after_logged poster calls
  have further : ∀ next, after poster (calls ++ [next]) = (after poster calls).call next := by
    intro next
    simp [after]
  refine ⟨after_gestures poster calls, logged.bounded, logged.shaped, ?_, ?_, ?_, ?_⟩
  · intro id chord destination
    rw [further]
    refine ⟨?_, ?_, ?_⟩
    · simp only [call]
      rw [begin_active, if_pos rfl]
    · -- What is replaced is released before the new gesture starts.
      intro previous found
      simp only [call]
      rw [begin_log _ logged.enabled, release_log _ logged.enabled found]
    · intro absent
      simp only [call]
      rw [begin_log _ logged.enabled, release_absent _ absent]
  · intro id active found
    rw [further, further]
    refine ⟨?_, ?_, ?_, ?_⟩
    · simp only [call, endGesture]
      rw [release_log _ logged.enabled found]
    · simp only [call, endGesture]
      rw [release_active, if_pos rfl]
    · simp only [call, repeatGesture, found]
      rw [postDown_log_repeat _ logged.enabled]
    · -- A repeat leaves its gesture active.
      simp only [call, repeatGesture, found]
      rw [(postDown_frame _ _ _).1, found]
  -- Without a gesture neither call posts anything.
  · intro id absent
    rw [further, further]
    constructor
    · simp only [call, endGesture]
      rw [release_absent _ absent]
    · simp only [call, repeatGesture, absent]
  · -- Nothing is active any more, so every gesture's posts end with its release.
    intro order number gesture at_
    obtain ⟨repeats, released, released_iff, posts⟩ :=
      (after_logged poster (calls ++ [.releaseAll order])).shaped number gesture at_
    have gone : ¬ (after poster (calls ++ [.releaseAll order])).Holds number := by
      rintro ⟨id, same, active, _⟩
      rw [further] at active
      simp only [call] at active
      rw [releaseAll_active] at active
      cases active
    rw [released_iff.mpr gone] at posts
    exact ⟨repeats, posts⟩

/-- A gesture that is repeated and replaced by one to a process, which is ended in turn. -/
def replacing : List RelayCall :=
  [.begin "held" ⟨{.command}, .a⟩ .hid, .repeatGesture "held", .begin "held" ⟨∅, .b⟩ (.process 7),
    .repeatGesture "held"]

/-- With every post failing, the first gesture is released before the second starts. -/
theorem gestures_logged_replaced :
    (after (fun _ _ => .error .eventSource) (replacing ++ [.endGesture "held"])).log =
      labelled 0 (ActiveGesture.posts ⟨⟨{.command}, .a⟩, .hid⟩ 1 true) ++
        labelled 1 (ActiveGesture.posts ⟨⟨∅, .b⟩, .process 7⟩ 1 true) := by
  -- The poster fails every post, and the gesture is released all the same.
  have active : (after (fun _ _ => .error .eventSource) replacing).active.lookup "held" =
      some ⟨⟨⟨∅, .b⟩, .process 7⟩, 1⟩ := rfl
  have before : (after (fun _ _ => .error .eventSource) replacing).log =
      labelled 0 (ActiveGesture.posts ⟨⟨{.command}, .a⟩, .hid⟩ 1 true) ++
        labelled 1 (ActiveGesture.posts ⟨⟨∅, .b⟩, .process 7⟩ 1 false) := rfl
  obtain ⟨_, _, _, _, ends, _⟩ := gestures_logged (fun _ _ => .error .eventSource) replacing
  rw [(ends _ _ active).1, before]
  rfl

/-- A relayer with its backend agrees with one that only counts on the posts it asks for. -/
structure Refines (state : RelayState) (relay : RelayKey) : Prop where
  active : ∀ id, relay.active.lookup id =
    (state.active.lookup id).map NumberedGesture.toActiveGesture
  poster : relay.poster = state.poster.isSome
  posted : relay.posted = state.log.map Prod.snd

section Refinement

variable {state : RelayState} {relay : RelayKey}

/-- An attempt is one post of the simpler relayer. -/
theorem Refines.attempt (refines : state.Refines relay) (number : Nat) (warning : String)
    (post : RelayPost) : (state.attempt number warning post).Refines (relay.post [post]) := by
  obtain ⟨active, poster, _⟩ := attempt_frame state number warning post
  refine ⟨?_, ?_, ?_⟩
  · simpa [active] using refines.active
  · rw [poster, ← refines.poster]
    unfold RelayKey.post
    split <;> rfl
  · rw [attempt_log, ← refines.poster]
    unfold RelayKey.post
    split <;> simp [refines.posted]

/-- Posts one after the other are posts together. -/
theorem post_post (relay : RelayKey) (first second : List RelayPost) :
    (relay.post first).post second = relay.post (first ++ second) := by
  unfold RelayKey.post
  split
  · rename_i enabled
    simp [enabled]
  · simp

/-- A key-down posts what the simpler relayer posts. -/
theorem Refines.postDown (refines : state.Refines relay) (gesture : NumberedGesture)
    (isRepeat : Bool) :
    (state.postDown gesture isRepeat).Refines
      (relay.post (Hotki.postDown gesture.chord isRepeat gesture.destination)) := by
  unfold RelayState.postDown Hotki.postDown
  split
  · have pressed := refines.attempt gesture.number "post_modifiers_failed"
      (.modifiers gesture.chord.modifiers true gesture.destination)
    rw [← List.singleton_append, ← post_post]
    exact pressed.attempt gesture.number "relay_down_failed" _
  · exact refines.attempt gesture.number "relay_down_failed" _

/-- A key-up posts what the simpler relayer posts. -/
theorem Refines.postUp (refines : state.Refines relay) (gesture : NumberedGesture) :
    (state.postUp gesture).Refines
      (relay.post (Hotki.postUp gesture.chord gesture.destination)) := by
  have lifted := refines.attempt gesture.number "relay_up_failed"
    (.up gesture.chord gesture.destination)
  unfold RelayState.postUp Hotki.postUp
  split
  · rw [← List.singleton_append, ← post_post]
    exact lifted.attempt gesture.number "post_modifiers_failed" _
  · exact lifted

/-- Ending a gesture refines ending it in the simpler relayer. -/
theorem Refines.release (refines : state.Refines relay) (id : String) :
    (state.release id).Refines (relay.endGesture id).2 := by
  unfold RelayState.release RelayKey.endGesture
  rw [refines.active]
  cases found : state.active.lookup id with
  | none => exact refines
  | some gesture =>
    -- The gesture is removed from both tables before its release is posted.
    have removed : Refines { state with active := state.active.erase id }
        { relay with active := relay.active.erase id } := by
      refine ⟨fun other => ?_, refines.poster, refines.posted⟩
      simp only [HashMap.lookup_erase_ite, refines.active]
      split <;> rfl
    exact removed.postUp gesture

/-- Beginning a gesture refines beginning it in the simpler relayer. -/
theorem Refines.begin (refines : state.Refines relay) (id : String) (chord : Chord)
    (destination : RelayDestination) :
    (state.begin id chord destination).Refines (relay.begin id chord destination) := by
  have started := (refines.release id).postDown
    ⟨⟨chord, destination⟩, (state.release id).gestures.length⟩ false
  refine ⟨fun other => ?_, started.poster, started.posted⟩
  rw [begin_active, RelayKey.begin_active, refines.active]
  split <;> rfl

/-- Repeating a gesture refines repeating it in the simpler relayer. -/
theorem Refines.repeatGesture (refines : state.Refines relay) (id : String) :
    (state.repeatGesture id).2.Refines (relay.repeatGesture id).2 := by
  unfold RelayState.repeatGesture RelayKey.repeatGesture
  rw [refines.active]
  cases state.active.lookup id with
  | none => exact refines
  | some gesture => exact refines.postDown gesture true

/-- What has been posted after a further post. -/
theorem post_posted (relay : RelayKey) (posts : List RelayPost) :
    (relay.post posts).posted = relay.posted ++ if relay.poster then posts else [] := by
  unfold RelayKey.post
  split <;> simp

/-- Ending an active gesture posts its release. -/
theorem endGesture_posted (relay : RelayKey) {id : String} {gesture : ActiveGesture}
    (found : relay.active.lookup id = some gesture) :
    (relay.endGesture id).2.poster = relay.poster ∧
      (relay.endGesture id).2.posted = relay.posted ++
        if relay.poster then Hotki.postUp gesture.chord gesture.destination else [] := by
  unfold RelayKey.endGesture
  rw [found]
  refine ⟨?_, post_posted _ _⟩
  simp only [RelayKey.post]
  split <;> rfl

/-- Ending the gestures of a table one after the other posts their releases in that order. -/
theorem endGestures_posted (entries : List (Sigma fun _ : String => ActiveGesture))
    (distinct : (entries.map Sigma.fst).Nodup) (relay : RelayKey)
    (held : ∀ entry ∈ entries, relay.active.lookup entry.1 = some entry.2) :
    ((entries.map Sigma.fst).foldl (fun relay id => (relay.endGesture id).2) relay).poster =
      relay.poster ∧
    ((entries.map Sigma.fst).foldl (fun relay id => (relay.endGesture id).2) relay).posted =
      relay.posted ++ if relay.poster then
        entries.flatMap fun entry => Hotki.postUp entry.2.chord entry.2.destination else [] := by
  -- Ending the first gesture leaves the others as they were.
  induction entries generalizing relay with
  | nil => simp
  | cons first rest ih =>
    rw [List.map_cons, List.nodup_cons] at distinct
    obtain ⟨poster, posted⟩ := endGesture_posted relay (held first (by simp))
    obtain ⟨laterPoster, laterPosted⟩ := ih distinct.2 (relay.endGesture first.1).2 (by
      intro entry member
      rw [RelayKey.endGesture_active, if_neg]
      · exact held entry (List.mem_cons_of_mem _ member)
      · intro same
        exact distinct.1 (List.mem_map.mpr ⟨entry, member, same⟩))
    simp only [List.map_cons, List.foldl_cons, List.flatMap_cons]
    refine ⟨laterPoster.trans poster, ?_⟩
    rw [laterPosted, posted, poster]
    split <;> simp

/-- Ending gestures one after the other refines ending them in the simpler relayer. -/
theorem Refines.releases (refines : state.Refines relay) (ids : List String) :
    (ids.foldl RelayState.release state).Refines
      (ids.foldl (fun relay id => (relay.endGesture id).2) relay) := by
  induction ids generalizing state relay with
  | nil => exact refines
  | cons id rest ih => exact ih (refines.release id)

/-- The order that visits one list of keys in the order of another. -/
def alike (visited arranged : List String) (same : arranged.Perm visited) :
    IterationOrder String where
  arrange keys := if keys = visited then arranged else keys
  perm keys := by
    split
    · rename_i equal
      rw [equal]
      exact same
    · exact .refl _

/-- The simpler relayer releases everything in one of the orders there are. -/
theorem Refines.releaseAll (refines : state.Refines relay) :
    ∃ order, (state.releaseAll order).Refines relay.releaseAll := by
  -- Both tables hold the same keys, and each of them once.
  have same : relay.active.keys.Perm state.active.keys := by
    apply (List.perm_ext_iff_of_nodup relay.active.keys_nodup state.active.keys_nodup).mpr
    intro id
    rw [← AList.mem_keys, ← AList.mem_keys, ← AList.lookup_isSome, ← AList.lookup_isSome,
      refines.active, Option.isSome_map]
  refine ⟨alike state.active.keys relay.active.keys same, ?_⟩
  have released := refines.releases relay.active.keys
  have posts := endGestures_posted relay.active.entries relay.active.keys_nodup relay
    fun entry member => AList.mem_lookup_iff.mpr member
  have arranged : (alike state.active.keys relay.active.keys same).arrange state.active.keys =
      relay.active.keys := if_pos rfl
  have lists := state.releaseAll_active (alike state.active.keys relay.active.keys same)
  rw [RelayState.releaseAll, arranged] at lists ⊢
  refine ⟨fun id => ?_, ?_, ?_⟩
  · rw [lists]
    rfl
  · rw [← released.poster]
    refine Eq.trans ?_ posts.1.symm
    unfold RelayKey.releaseAll RelayKey.post
    split <;> rfl
  · unfold RelayKey.releaseAll
    simp only
    rw [← released.posted, post_posted]
    simp only [List.flatMap_map]
    exact posts.2.symm

end Refinement

end RelayState

end Hotki

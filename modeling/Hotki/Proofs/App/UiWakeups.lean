import Hotki.Proofs.App.UiDelivery

/-! When the senders blocked at a full lane are woken, and what they return after the drop. -/

namespace Hotki

open Base

variable {Content : Type*}

namespace SenderStage

/-- Whether a call was notified and has not yet taken the lock again. -/
def isWaking : SenderStage Content → Bool
  | .waking _ _ => true
  | _ => false

/-- Whether a call is about to wait, with the lock. -/
def isParking : SenderStage Content → Bool
  | .parking _ _ => true
  | _ => false

/-- A call that is about to wait waits for something. -/
theorem eq_parking {stage : SenderStage Content} (parking : stage.isParking = true) :
    ∃ entry awaited, stage = .parking entry awaited := by
  cases stage with
  | parking entry awaited => exact ⟨entry, awaited, rfl⟩
  | opening | locking | sleeping | waking | returned | panicked => cases parking

/-- Whether a call waits for space, or is about to. -/
def isBlocked (stage : SenderStage Content) : Bool := stage.isParking || stage.isSleeping

end SenderStage

/-- How a critical section ends: its call returns, or is about to wait at a full open lane. -/
structure Ends (isOpen : Bool) (state : UiDeliveryState Content) (left : Section Content) :
    Prop where
  grown : state.ordered.length ≤ left.state.ordered.length
  stage : (∃ outcome, left.stage = .returned outcome) ∨ isOpen = true ∧
    left.stage.isParking = true ∧ uiOrderedCapacity ≤ left.state.ordered.length

/-- A critical section that looks for space fills a place or finds the lane full, and returns
nothing at a full closed lane. -/
structure Fills (isOpen : Bool) (state : UiDeliveryState Content) (left : Section Content) :
    Prop extends Ends isOpen state left where
  filled : state.ordered.length + 1 ≤ left.state.ordered.length ∨
    uiOrderedCapacity ≤ left.state.ordered.length
  refused : isOpen = false → uiOrderedCapacity ≤ state.ordered.length →
    left.stage = .returned none

namespace UiDeliveryState

variable {isOpen : Bool} {sender : Nat} {entry : SequencedUiEvent Content}
  {seen : List (UiObservation Content)} {state : UiDeliveryState Content}

/-- At a full lane a call waits or returns nothing. -/
theorem awaitSpace_fills (awaited : AwaitedSpace)
    (full : uiOrderedCapacity ≤ state.ordered.length) :
    Fills isOpen state (state.awaitSpace isOpen entry awaited seen) := by
  unfold awaitSpace
  cases isOpen with
  | true => exact ⟨⟨Nat.le_refl _, .inr ⟨rfl, rfl, full⟩⟩, .inr full, nofun⟩
  | false => exact ⟨⟨Nat.le_refl _, .inl ⟨none, rfl⟩⟩, .inr full, fun _ _ => rfl⟩

/-- Appending the call's own event fills a place, or finds none. -/
theorem finish_fills : Fills isOpen state (state.finish isOpen sender entry seen) := by
  unfold finish
  split
  · rename_i full
    exact awaitSpace_fills .finishing full
  · rename_i space
    have longer : (state.pushBack entry).ordered.length = state.ordered.length + 1 := by
      simp [pushBack]
    refine ⟨⟨?_, .inl ⟨_, rfl⟩⟩, .inl ?_, fun _ full => absurd full space⟩ <;> simp only [longer] <;>
      omega

/-- Moving the pending snapshots first fills at least as many places. -/
theorem flush_fills (turns : Nat) :
    Fills isOpen state (state.flush isOpen sender entry turns seen) := by
  -- The induction is on the snapshots still to flush, each of which fills one place.
  induction turns generalizing seen state with
  | zero => exact finish_fills
  | succ turns ih =>
    unfold flush
    split
    · exact finish_fills
    · rename_i sequence next
      split
      · rename_i full
        exact awaitSpace_fills (.flushing sequence) full
      · rename_i space
        split
        · -- The earliest pending snapshot is there to be taken.
          rename_i absent
          obtain ⟨⟨kind, other, held, rfl⟩, _⟩ := PendingSnapshots.nextSequence_eq_some next
          exact absurd absent (PendingSnapshots.take_ne_none held)
        · rename_i snapshot snapshots taken
          have further := @ih (seen ++ [.placed snapshot])
            { state.pushBack snapshot with snapshots }
          have longer : (state.pushBack snapshot).ordered.length = state.ordered.length + 1 := by
            simp [pushBack]
          have grown : state.ordered.length + 1 ≤ _ := longer ▸ further.grown
          exact ⟨⟨Nat.le_trans (Nat.le_succ _) grown, further.stage⟩, .inl grown,
            fun _ full => absurd full space⟩

/-- The first critical section of a call returns, or waits at a full open lane. -/
theorem send_ends (event : UiEvent Content) : Ends isOpen state (state.send isOpen sender event) := by
  unfold send
  simp only
  split
  · split <;> exact ⟨Nat.le_refl _, .inl ⟨_, rfl⟩⟩
  · split
    · exact ⟨Nat.le_refl _, .inl ⟨_, rfl⟩⟩
    · have fills := @flush_fills _ isOpen sender ⟨state.nextSequence, event⟩
        [.sequenced sender ⟨state.nextSequence, event⟩]
        { state with nextSequence := (state.nextSequence + 1) % UInt64.size } state.snapshots.len
      exact ⟨fills.grown, fills.stage⟩

/-- A call that was woken fills a place or finds none, if its snapshot is still there. -/
theorem resume_fills {awaited : AwaitedSpace}
    (present : ∀ sequence, awaited = .flushing sequence →
      state.ordered.length < uiOrderedCapacity →
      ∃ kind other, state.snapshots.slot kind = some other ∧ other.sequence = sequence) :
    Fills isOpen state (state.resume isOpen sender entry awaited) := by
  -- The woken call goes on from where it waited, in its flush or after it.
  cases awaited with
  | finishing => exact finish_fills
  | flushing sequence =>
    unfold resume
    simp only
    split
    · rename_i full
      exact awaitSpace_fills (.flushing sequence) full
    · rename_i space
      split
      · rename_i absent
        obtain ⟨kind, other, held, rfl⟩ := present sequence rfl (Nat.lt_of_not_le space)
        exact absurd absent (PendingSnapshots.take_ne_none held)
      · rename_i snapshot snapshots taken
        have further := @flush_fills _ isOpen sender entry [.placed snapshot]
          { state.pushBack snapshot with snapshots } snapshots.len
        have longer : (state.pushBack snapshot).ordered.length = state.ordered.length + 1 := by
          simp [pushBack]
        have grown : state.ordered.length + 1 ≤ _ := longer ▸ further.grown
        exact ⟨⟨Nat.le_trans (Nat.le_succ _) grown, further.stage⟩, .inl grown,
          fun _ full => absurd full space⟩

end UiDeliveryState

namespace UiDelivery

/-- The steps after which no sender is left asleep. -/
structure Tended (mailbox : UiDelivery Content) (label : UiLabel Content) : Prop where
  /-- A call that was woken to move a snapshot, and finds space, still finds that snapshot. -/
  present : ∀ sender entry sequence, label.1 = .sender sender →
    mailbox.senders[sender]? = some (.waking entry (.flushing sequence)) →
    mailbox.state.ordered.length < uiOrderedCapacity →
    ∃ kind other, mailbox.state.snapshots.slot kind = some other ∧ other.sequence = sequence
  /-- The drop wakes the senders while no call stands between its check and its sleep. -/
  unhurried : label.1 = .dropReceiver → mailbox.receiver = .dropping →
    ∀ stage ∈ mailbox.senders, stage.isParking = false
  /-- The receiver is closed at a full lane, or while no call is blocked. -/
  full : label.1 = .dropReceiver → mailbox.receiver = .live →
    (∃ stage ∈ mailbox.senders, stage.isBlocked = true) →
    uiOrderedCapacity ≤ mailbox.state.ordered.length

/-- What holds of the blocked senders between tended steps. -/
structure Attended (mailbox : UiDelivery Content) : Prop where
  parked : ∀ {sender : Nat} {stage : SenderStage Content}, mailbox.senders[sender]? = some stage →
    stage.isParking = true → mailbox.lockedBy = some sender
  locked : mailbox.lockedBy ≠ none → (∃ stage ∈ mailbox.senders, stage.isParking = true) ∧
    uiOrderedCapacity ≤ mailbox.state.ordered.length
  /-- Each free place belongs to a call that has been notified. -/
  live : mailbox.receiver = .live → (∃ stage ∈ mailbox.senders, stage.isSleeping = true) →
    uiOrderedCapacity ≤
      mailbox.state.ordered.length + mailbox.senders.countP SenderStage.isWaking
  shut : mailbox.receiver ≠ .live → (∃ stage ∈ mailbox.senders, stage.isBlocked = true) →
    uiOrderedCapacity ≤ mailbox.state.ordered.length
  dropped : mailbox.receiver = .dropped → ∀ stage ∈ mailbox.senders, stage.isBlocked = false
  calm : .panicked ∉ mailbox.senders

variable {mailbox next : UiDelivery Content} {sender : Nat} {stage : SenderStage Content}

/-- Counting the calls of a kind after one call has changed its stage. -/
theorem countP_setSender (kind : SenderStage Content → Bool)
    (found : mailbox.senders[sender]? = some stage) (changed : SenderStage Content) :
    (mailbox.setSender sender changed).senders.countP kind + (if kind stage then 1 else 0) =
      mailbox.senders.countP kind + if kind changed then 1 else 0 := by
  -- One call changes, so the count changes by that call alone.
  obtain ⟨inside, same⟩ := List.getElem?_eq_some_iff.mp found
  have counted := @List.countP_set _ kind mailbox.senders sender changed inside
  have some_ : kind stage = true → 0 < mailbox.senders.countP kind := fun held =>
    List.countP_pos_iff.mpr ⟨stage, List.mem_of_getElem? found, held⟩
  simp only [setSender, counted, same]
  by_cases held : kind stage = true
  · have positive := some_ held
    simp only [held, if_true]
    omega
  · simp only [held]
    simp

/-- A call with a changed stage, or another one as it was. -/
theorem mem_setSender {changed other : SenderStage Content}
    (member : other ∈ (mailbox.setSender sender changed).senders) :
    other ∈ mailbox.senders ∨ other = changed :=
  List.mem_or_eq_of_mem_set member

/-- Without the lock nobody is about to wait. -/
theorem Attended.unparked (attended : mailbox.Attended) (free : mailbox.lockedBy = none) :
    ∀ stage ∈ mailbox.senders, stage.isParking = false := by
  intro stage member
  obtain ⟨sender, found⟩ := List.getElem?_of_mem member
  by_contra parking
  have held := attended.parked found (by simpa using parking)
  rw [free] at held
  cases held

/-- A critical section keeps the lock exactly for a call that is about to wait. -/
theorem leave_lockedBy (mailbox : UiDelivery Content) (sender : Nat) (left : Section Content) :
    (mailbox.leave sender left).1.lockedBy = if left.stage.isParking then some sender else none := by
  unfold leave
  cases left.stage <;> rfl

/-- A critical section of a call keeps the blocked senders attended. -/
theorem Attended.leave (attended : mailbox.Attended) (free : mailbox.lockedBy = none)
    (found : mailbox.senders[sender]? = some stage) {left : Section Content}
    (ends : Ends mailbox.receiverOpen mailbox.state left)
    (filled : stage.isWaking = true →
      mailbox.state.ordered.length + 1 ≤ left.state.ordered.length ∨
        uiOrderedCapacity ≤ left.state.ordered.length) :
    (mailbox.leave sender left).1.Attended := by
  have unparked := attended.unparked free
  have grown := ends.grown
  have awake : left.stage.isSleeping = false ∧ left.stage.isWaking = false ∧
      left.stage ≠ .panicked := by
    rcases ends.stage with ⟨outcome, returned⟩ | ⟨_, parking, _⟩
    · rw [returned]
      exact ⟨rfl, rfl, by simp⟩
    · obtain ⟨entry, awaited, same⟩ := SenderStage.eq_parking parking
      rw [same]
      exact ⟨rfl, rfl, by simp⟩
  have counted := countP_setSender SenderStage.isWaking found left.stage
  rw [awake.2.1] at counted
  -- A call that is blocked afterwards was blocked before, unless it is the one that waits now.
  have closed : mailbox.receiver ≠ .live → left.stage.isBlocked = false := by
    intro shut
    rcases ends.stage with ⟨outcome, returned⟩ | ⟨isOpen, _⟩
    · rw [returned]
      rfl
    · simp [receiverOpen, shut] at isOpen
  have origin : ∀ other ∈ (mailbox.leave sender left).1.senders,
      other ∈ mailbox.senders ∨ other = left.stage := fun other member => mem_setSender member
  refine ⟨?_, ?_, ?_, ?_, ?_, ?_⟩
  · intro other read now parking
    rw [leave_lockedBy]
    change (mailbox.setSender sender left.stage).senders[other]? = some read at now
    simp only [setSender, List.getElem?_set] at now
    split at now
    · rename_i same
      split at now <;> cases now
      rw [parking, same]
      rfl
    · have still := unparked read (List.mem_of_getElem? now)
      rw [parking] at still
      cases still
  · intro held
    rw [leave_lockedBy] at held
    split at held
    · rename_i parking
      rcases ends.stage with ⟨outcome, returned⟩ | ⟨_, _, full⟩
      · rw [returned] at parking
        cases parking
      · obtain ⟨inside, _⟩ := List.getElem?_eq_some_iff.mp found
        exact ⟨⟨left.stage, List.mem_set inside left.stage, parking⟩, full⟩
    · exact absurd rfl held
  · rintro open_ ⟨other, member, asleep⟩
    change uiOrderedCapacity ≤ left.state.ordered.length +
      (mailbox.setSender sender left.stage).senders.countP SenderStage.isWaking
    rcases origin other member with old | rfl
    · have room := attended.live open_ ⟨other, old, asleep⟩
      -- A call that leaves its wake-up behind has filled a place or found none.
      by_cases waking : stage.isWaking = true
      · rw [waking] at counted
        simp only [if_true, Bool.false_eq_true, if_false] at counted
        rcases filled waking with more | full
        · omega
        · omega
      · simp only [waking, Bool.false_eq_true, if_false] at counted
        omega
    · rw [awake.1] at asleep
      cases asleep
  · rintro shut ⟨other, member, blocked⟩
    rcases origin other member with old | rfl
    · exact Nat.le_trans (attended.shut shut ⟨other, old, blocked⟩) grown
    · rw [closed shut] at blocked
      cases blocked
  · intro gone other member
    have shut : mailbox.receiver ≠ .live := by
      rw [show mailbox.receiver = .dropped from gone]
      simp
    rcases origin other member with old | rfl
    · exact attended.dropped gone other old
    · exact closed shut
  · intro member
    rcases origin _ member with old | same
    · exact attended.calm old
    · exact awake.2.2 same.symm

/-- A call that goes to sleep with the lock does so at a full lane. -/
theorem Attended.sleep (attended : mailbox.Attended) {entry : SequencedUiEvent Content}
    {awaited : AwaitedSpace} (found : mailbox.senders[sender]? = some (.parking entry awaited)) :
    Attended { mailbox.setSender sender (.sleeping entry awaited) with lockedBy := none } := by
  -- The receiver cannot have freed a place in between, as that needs the lock.
  have mine := attended.parked found rfl
  have full := (attended.locked (by rw [mine]; nofun)).2
  have calm : mailbox.receiver ≠ .dropped := by
    intro gone
    have blocked := attended.dropped gone _ (List.mem_of_getElem? found)
    cases blocked
  refine ⟨?_, fun held => absurd rfl held, fun _ _ => ?_, fun _ _ => full, fun gone => ?_, ?_⟩
  · -- Only one call can have had the lock.
    intro other read now parking
    change (mailbox.setSender sender _).senders[other]? = some read at now
    simp only [setSender, List.getElem?_set] at now
    split at now
    · split at now <;> cases now
      cases parking
    · rename_i apart
      have theirs := attended.parked now parking
      rw [mine] at theirs
      exact absurd (Option.some.inj theirs) apart
  · exact Nat.le_trans full (Nat.le_add_right _ _)
  · exact absurd gone calm
  · intro member
    rcases @mem_setSender _ mailbox sender _ _ member with old | same
    · exact attended.calm old
    · cases same

/-- A call that has not come to its lock may change to a stage without the lock. -/
theorem Attended.restage (attended : mailbox.Attended) {event : UiEvent Content}
    (changed : SenderStage Content) (found : mailbox.senders[sender]? = some (.opening event))
    (after : changed.isBlocked = false) (awake : changed.isWaking = false)
    (calm : changed ≠ .panicked) : (mailbox.setSender sender changed).Attended := by
  -- The call is neither asleep nor about to wait, before or after: the others decide.
  have origin : ∀ other ∈ (mailbox.setSender sender changed).senders,
      other.isBlocked = true → other ∈ mailbox.senders := by
    intro other member blocked
    rcases mem_setSender member with old | rfl
    · exact old
    · rw [after] at blocked
      cases blocked
  have sleeps : ∀ {other : SenderStage Content}, other.isSleeping = true → other.isBlocked = true := by
    intro other asleep
    simp [SenderStage.isBlocked, asleep]
  have parks : ∀ {other : SenderStage Content}, other.isParking = true → other.isBlocked = true := by
    intro other parking
    simp [SenderStage.isBlocked, parking]
  -- It is not on its way to the lock either, so as many calls are awake as before.
  have counted := countP_setSender SenderStage.isWaking found changed
  have closed : (SenderStage.opening event).isWaking = false := rfl
  simp only [closed, awake, Bool.false_eq_true, if_false] at counted
  refine ⟨?_, ?_, ?_, ?_, ?_, ?_⟩
  · intro other read now parking
    simp only [setSender, List.getElem?_set] at now
    split at now
    · split at now <;> cases now
      rw [parks parking] at after
      cases after
    · exact attended.parked now parking
  · intro held
    obtain ⟨⟨waiter, member, parking⟩, full⟩ := attended.locked held
    refine ⟨⟨waiter, ?_, parking⟩, full⟩
    -- The call that has the lock is another one.
    obtain ⟨index, read⟩ := List.getElem?_of_mem member
    refine List.mem_iff_getElem?.mpr ⟨index, ?_⟩
    simp only [setSender, List.getElem?_set]
    split
    · rename_i same
      rw [← same, found] at read
      cases read
      cases parking
    · exact read
  · rintro open_ ⟨other, member, asleep⟩
    have room := attended.live open_ ⟨other, origin other member (sleeps asleep), asleep⟩
    change uiOrderedCapacity ≤ mailbox.state.ordered.length + _
    omega
  · rintro shut ⟨other, member, blocked⟩
    exact attended.shut shut ⟨other, origin other member blocked, blocked⟩
  · intro gone other member
    by_contra blocked
    have was : other.isBlocked = true := by simpa using blocked
    rw [attended.dropped gone other (origin other member was)] at was
    cases was
  · intro member
    rcases mem_setSender member with old | same
    · exact attended.calm old
    · exact calm same.symm

/-- A step of a call keeps the blocked senders attended. -/
theorem Attended.senderStep (attended : mailbox.Attended) {seen : List (UiObservation Content)}
    (tended : mailbox.Tended (.sender sender, seen))
    (taken : mailbox.senderStep sender = some (next, seen)) : next.Attended := by
  -- One case for each stage of a call; only those with the lock change the lane.
  obtain ⟨stage, found, taken⟩ := Option.bind_eq_some_iff.mp taken
  cases stage with
  | opening event =>
    simp only at taken
    cases taken
    refine attended.restage _ found ?_ ?_ ?_ <;> cases mailbox.receiverOpen <;>
      simp [SenderStage.isBlocked, SenderStage.isParking, SenderStage.isSleeping,
        SenderStage.isWaking]
  | locking event =>
    simp only at taken
    split at taken
    · cases taken
    · rename_i free
      cases taken
      exact attended.leave (by simpa using free) found (UiDeliveryState.send_ends event) nofun
  | parking entry awaited =>
    simp only at taken
    cases taken
    exact attended.sleep found
  | waking entry awaited =>
    simp only at taken
    split at taken
    · cases taken
    · rename_i free
      cases taken
      have fills := @UiDeliveryState.resume_fills _ mailbox.receiverOpen sender entry mailbox.state
        awaited fun sequence same space =>
          tended.present sender entry sequence rfl (by rw [found, same]) space
      exact attended.leave (by simpa using free) found fills.toEnds fun _ => fills.filled
  | sleeping | returned | panicked => cases taken

/-- A received event leaves one place free in the lane, if it came from there. -/
theorem length_tryRecv {state after : UiDeliveryState Content} {entry : SequencedUiEvent Content}
    {freed : Bool} (received : state.tryRecv = some (after, entry, freed)) :
    state.ordered.length = after.ordered.length + if freed then 1 else 0 := by
  -- A snapshot is taken if it comes before the front of the lane, and leaves the lane as it is.
  have popped : ∀ {left : UiDeliveryState Content} {event : SequencedUiEvent Content},
      state.popFront = some (left, event) → state.ordered.length = left.ordered.length + 1 := by
    intro left event popped
    unfold UiDeliveryState.popFront at popped
    split at popped
    · cases popped
    · rename_i first rest lane
      cases popped
      rw [lane]
      rfl
  unfold UiDeliveryState.tryRecv at received
  simp only at received
  split at received
  · obtain ⟨⟨left, event⟩, front, same⟩ := Option.map_eq_some_iff.mp received
    cases same
    exact popped front
  · split at received
    · obtain ⟨⟨event, snapshots⟩, _, same⟩ := Option.map_eq_some_iff.mp received
      cases same
      rfl
    · obtain ⟨⟨left, event⟩, front, same⟩ := Option.map_eq_some_iff.mp received
      cases same
      exact popped front

/-- A reception wakes a sender for the place it frees, if any is asleep. -/
theorem Attended.receive (attended : mailbox.Attended) (open_ : mailbox.receiver = .live)
    (free : mailbox.lockedBy = none) {state : UiDeliveryState Content}
    (shorter : mailbox.state.ordered.length = state.ordered.length + 1) {woken : Nat}
    (notified : ({ mailbox with state } : UiDelivery Content).notifyOne woken = some next) :
    next.Attended := by
  -- The sleeper that is woken, if there is one, is the one for the freed place.
  unfold notifyOne at notified
  split at notified
  · obtain ⟨stage, found, notified⟩ := Option.bind_eq_some_iff.mp notified
    split at notified
    · rename_i asleep
      cases notified
      have woke : stage.woken.isWaking = true ∧ stage.woken.isParking = false ∧
          stage.woken ≠ .panicked ∧ stage.isWaking = false := by
          cases stage with
        | sleeping => exact ⟨rfl, rfl, nofun, rfl⟩
        | opening | locking | parking | waking | returned | panicked => cases asleep
      have counted := @countP_setSender _ { mailbox with state } woken stage SenderStage.isWaking
        found stage.woken
      simp only [woke.1, woke.2.2.2, if_true, Bool.false_eq_true, if_false] at counted
      refine ⟨?_, fun held => absurd free held, fun _ _ => ?_, fun shut => absurd open_ shut, ?_, ?_⟩
      · intro other read now parking
        simp only [setSender, List.getElem?_set] at now
        split at now
        · split at now <;> cases now
          rw [woke.2.1] at parking
          cases parking
        · exact attended.parked now parking
      · have room := attended.live open_ ⟨stage, List.mem_of_getElem? found, asleep⟩
        change uiOrderedCapacity ≤ state.ordered.length + _
        omega
      · intro gone
        rw [show mailbox.receiver = .dropped from gone] at open_
        cases open_
      · intro member
        rcases mem_setSender member with old | same
        · exact attended.calm old
        · exact woke.2.2.1 same.symm
    · cases notified
  · rename_i awake
    cases notified
    have resting : ¬ ∃ stage ∈ mailbox.senders, stage.isSleeping = true := by
      simpa using awake
    exact ⟨attended.parked, fun held => absurd free held, fun _ some_ => absurd some_ resting,
      fun shut => absurd open_ shut, attended.dropped, attended.calm⟩

/-- A tended step keeps the blocked senders attended. -/
theorem Attended.step (attended : mailbox.Attended) {label : UiLabel Content}
    (tended : mailbox.Tended label) (taken : mailbox.Steps label next) : next.Attended := by
  obtain ⟨choice, seen⟩ := label
  cases choice with
  | send event =>
    cases taken
    -- A call that only opens neither waits nor sleeps.
    have origin : ∀ stage ∈ mailbox.senders ++ [.opening event], stage ∈ mailbox.senders ∨
        stage = .opening event := by
      intro stage member
      simpa using member
    refine ⟨?_, ?_, ?_, ?_, ?_, ?_⟩
    · intro sender stage now parking
      rw [List.getElem?_append] at now
      split at now
      · exact attended.parked now parking
      · rw [List.mem_singleton.mp (List.mem_of_getElem? now)] at parking
        cases parking
    · intro held
      obtain ⟨⟨stage, member, parking⟩, full⟩ := attended.locked held
      exact ⟨⟨stage, List.mem_append_left _ member, parking⟩, full⟩
    · rintro open_ ⟨stage, member, asleep⟩
      rcases origin stage member with old | rfl
      · have room := attended.live open_ ⟨stage, old, asleep⟩
        change uiOrderedCapacity ≤ mailbox.state.ordered.length +
          (mailbox.senders ++ [SenderStage.opening event]).countP SenderStage.isWaking
        rw [List.countP_append]
        omega
      · cases asleep
    · rintro shut ⟨stage, member, blocked⟩
      rcases origin stage member with old | rfl
      · exact attended.shut shut ⟨stage, old, blocked⟩
      · cases blocked
    · intro gone stage member
      rcases origin stage member with old | rfl
      · exact attended.dropped gone stage old
      · rfl
    · intro member
      rcases origin _ member with old | same
      · exact attended.calm old
      · cases same
  | sender sender => exact attended.senderStep tended taken
  | tryRecv woken =>
    simp only [Steps, UiDelivery.step] at taken
    split at taken
    · rename_i able
      split at taken
      · cases taken
        exact attended
      · rename_i state entry received
        obtain ⟨notified, woke, same⟩ := Option.map_eq_some_iff.mp taken
        cases same
        -- An ordered event leaves room behind it, and a waiter is told.
        exact attended.receive able.1 able.2 (length_tryRecv received) woke
      · rename_i state entry received
        cases taken
        -- A snapshot leaves the lane as it is.
        have same : mailbox.state.ordered.length = state.ordered.length := length_tryRecv received
        refine ⟨attended.parked, fun held => absurd able.2 held, fun open_ some_ => ?_,
          fun shut => absurd able.1 shut, attended.dropped, attended.calm⟩
        have room := attended.live open_ some_
        rw [same] at room
        exact room
    · cases taken
  | dropReceiver =>
    simp only [Steps, UiDelivery.step] at taken
    split at taken
    · rename_i open_
      cases taken
      -- The receiver closes at a full lane, or while no call is blocked.
      exact ⟨attended.parked, attended.locked, by simp, fun _ => tended.full rfl open_, by simp,
        attended.calm⟩
    · rename_i closing
      cases taken
      -- Nobody is about to wait, and nobody is asleep any more.
      have unparked := tended.unhurried rfl closing
      have awake : ∀ stage ∈ mailbox.senders, stage.woken.isBlocked = false ∧
          stage.woken.isParking = false ∧ (stage.woken = .panicked → stage = .panicked) := by
        intro stage member
        have still := unparked stage member
        cases stage with
        | sleeping => exact ⟨rfl, rfl, by simp [SenderStage.woken]⟩
        | parking => cases still
        | opening | locking | waking | returned | panicked => exact ⟨rfl, rfl, fun same => same⟩
      refine ⟨?_, ?_, by simp, ?_, ?_, ?_⟩
      · intro sender stage now parking
        obtain ⟨before, member, rfl⟩ := List.mem_map.mp (List.mem_of_getElem? now)
        rw [(awake before member).2.1] at parking
        cases parking
      · intro held
        obtain ⟨⟨stage, member, parking⟩, _⟩ := attended.locked held
        rw [unparked stage member] at parking
        cases parking
      · rintro _ ⟨stage, member, blocked⟩
        obtain ⟨before, present, rfl⟩ := List.mem_map.mp member
        rw [(awake before present).1] at blocked
        cases blocked
      · intro _ stage member
        obtain ⟨before, present, rfl⟩ := List.mem_map.mp member
        exact (awake before present).1
      · intro member
        obtain ⟨before, member, same⟩ := List.mem_map.mp member
        rw [(awake before member).2.2 same] at member
        exact attended.calm member
    · cases taken

/-- A closed mailbox in which one call can only return nothing. -/
structure Refused (mailbox : UiDelivery Content) (sender : Nat) : Prop where
  shut : mailbox.receiver ≠ .live
  stage : (∀ stage, mailbox.senders[sender]? = some stage →
      (∃ event, stage = .opening event) ∨ stage = .returned none) ∨
    uiOrderedCapacity ≤ mailbox.state.ordered.length ∧
      ∃ stage, mailbox.senders[sender]? = some stage ∧ (stage.isBlocked = true ∨
        stage.isWaking = true ∨ stage = .returned none)

/-- A call's own step returns nothing, or leaves it where it can only return nothing. -/
theorem Refused.senderStep (refused : mailbox.Refused sender)
    {seen : List (UiObservation Content)} (tended : mailbox.Tended (.sender sender, seen))
    (taken : mailbox.senderStep sender = some (next, seen)) : next.Refused sender := by
  -- The receiver is gone, so the call returns from wherever it stands.
  have closed : mailbox.receiverOpen = false := by
    simp [receiverOpen, refused.shut]
  obtain ⟨stage, found, taken⟩ := Option.bind_eq_some_iff.mp taken
  obtain ⟨inside, _⟩ := List.getElem?_eq_some_iff.mp found
  cases stage with
  | opening event =>
    simp only [closed, Bool.false_eq_true, if_false] at taken
    cases taken
    refine ⟨refused.shut, .inl fun stage now => .inr ?_⟩
    simp only [setSender, List.getElem?_set_self inside] at now
    exact (Option.some.inj now).symm
  | locking event =>
    rcases refused.stage with early | ⟨_, stage, read, blocked⟩
    · rcases early _ found with ⟨_, opening⟩ | returned
      · cases opening
      · cases returned
    · rw [found] at read
      cases read
      rcases blocked with blocked | waking | returned
      · cases blocked
      · cases waking
      · cases returned
  -- It goes to sleep, and the lane is still full.
  | parking entry awaited =>
    simp only at taken
    cases taken
    rcases refused.stage with early | ⟨full, _⟩
    · rcases early _ found with ⟨_, opening⟩ | returned
      · cases opening
      · cases returned
    · exact ⟨refused.shut, .inr ⟨full, .sleeping entry awaited,
        by simp [setSender, List.getElem?_set_self inside], .inl rfl⟩⟩
  | waking entry awaited =>
    simp only at taken
    split at taken
    · cases taken
    · cases taken
      rcases refused.stage with early | ⟨full, _⟩
      · rcases early _ found with ⟨_, opening⟩ | returned
        · cases opening
        · cases returned
      · -- The lane is still full, and the receiver is closed.
        have fills := @UiDeliveryState.resume_fills _ mailbox.receiverOpen sender entry
          mailbox.state awaited fun sequence same space =>
            tended.present sender entry sequence rfl (by rw [found, same]) space
        refine ⟨refused.shut, .inl fun stage now => .inr ?_⟩
        rw [← fills.refused closed full]
        change (mailbox.setSender sender _).senders[sender]? = some stage at now
        simp only [setSender, List.getElem?_set_self inside] at now
        exact (Option.some.inj now).symm
  | sleeping | returned | panicked => cases taken

/-- A step of a call leaves the receiver and the stages of the others. -/
theorem senderStep_others {seen : List (UiObservation Content)}
    (taken : mailbox.senderStep sender = some (next, seen)) :
    next.receiver = mailbox.receiver ∧
      ∀ other ≠ sender, next.senders[other]? = mailbox.senders[other]? := by
  -- A call writes its own stage and the shared state.
  have others : ∀ (changed : SenderStage Content) (other : Nat), other ≠ sender →
      (mailbox.setSender sender changed).senders[other]? = mailbox.senders[other]? :=
    fun changed other apart => List.getElem?_set_ne (Ne.symm apart)
  obtain ⟨stage, found, taken⟩ := Option.bind_eq_some_iff.mp taken
  cases stage with
  | opening event | parking entry awaited =>
    simp only at taken
    cases taken
    exact ⟨rfl, others _⟩
  | locking event | waking entry awaited =>
    simp only at taken
    split at taken <;> cases taken
    exact ⟨rfl, others _⟩
  | sleeping | returned | panicked => cases taken

/-- A tended step of a call removes nothing from the lane. -/
theorem senderStep_grown {seen : List (UiObservation Content)}
    (tended : mailbox.Tended (.sender sender, seen))
    (taken : mailbox.senderStep sender = some (next, seen)) :
    mailbox.state.ordered.length ≤ next.state.ordered.length := by
  -- Whatever a call moves, it moves into the lane.
  obtain ⟨stage, found, taken⟩ := Option.bind_eq_some_iff.mp taken
  cases stage with
  | opening event | parking entry awaited =>
    simp only at taken
    cases taken
    exact Nat.le_refl _
  | locking event =>
    simp only at taken
    split at taken <;> cases taken
    exact (UiDeliveryState.send_ends event).grown
  | waking entry awaited =>
    simp only at taken
    split at taken <;> cases taken
    have fills := @UiDeliveryState.resume_fills _ mailbox.receiverOpen sender entry mailbox.state
      awaited fun sequence same space =>
        tended.present sender entry sequence rfl (by rw [found, same]) space
    exact fills.grown
  | sleeping | returned | panicked => cases taken

/-- A tended step leaves a refused call refused. -/
theorem Refused.step (refused : mailbox.Refused sender) {label : UiLabel Content}
    (tended : mailbox.Tended label) (taken : mailbox.Steps label next) : next.Refused sender := by
  -- A new call is opened at a closed receiver, and the others are about other calls.
  obtain ⟨choice, seen⟩ := label
  cases choice with
  | send event =>
    cases taken
    refine ⟨refused.shut, ?_⟩
    rcases refused.stage with early | ⟨full, stage, read, blocked⟩
    · refine .inl fun stage now => ?_
      change (mailbox.senders ++ [.opening event])[sender]? = some stage at now
      rw [List.getElem?_append] at now
      split at now
      · exact early stage now
      · exact .inl ⟨event, List.mem_singleton.mp (List.mem_of_getElem? now)⟩
    · refine .inr ⟨full, stage, ?_, blocked⟩
      obtain ⟨inside, _⟩ := List.getElem?_eq_some_iff.mp read
      show (mailbox.senders ++ [.opening event])[sender]? = some stage
      rwa [List.getElem?_append_left inside]
  | sender other =>
    by_cases same : other = sender
    · subst same
      exact refused.senderStep tended taken
    · obtain ⟨receiver, others⟩ := senderStep_others taken
      have grown := senderStep_grown tended taken
      have still := others sender (Ne.symm same)
      refine ⟨by rw [receiver]; exact refused.shut, ?_⟩
      rw [still]
      exact refused.stage.imp_right fun held => ⟨Nat.le_trans held.1 grown, held.2⟩
  -- Nobody receives from a closed receiver.
  | tryRecv woken =>
    simp only [Steps, UiDelivery.step, refused.shut, false_and, if_false] at taken
    cases taken
  | dropReceiver =>
    simp only [Steps, UiDelivery.step] at taken
    split at taken
    · rename_i open_
      exact absurd open_ refused.shut
    · cases taken
      refine ⟨by simp, ?_⟩
      show (∀ stage, (mailbox.senders.map SenderStage.woken)[sender]? = some stage → _) ∨ _ ∧
        ∃ stage, (mailbox.senders.map SenderStage.woken)[sender]? = some stage ∧ _
      rw [List.getElem?_map]
      rcases refused.stage with early | ⟨full, stage, read, blocked⟩
      · refine .inl fun stage now => ?_
        obtain ⟨before, read, rfl⟩ := Option.map_eq_some_iff.mp now
        rcases early before read with ⟨event, rfl⟩ | rfl
        · exact .inl ⟨event, rfl⟩
        · exact .inr rfl
      -- The drop wakes every sleeper, and the lane stays full.
      · refine .inr ⟨full, stage.woken, by rw [read]; rfl, ?_⟩
        cases stage with
        | sleeping => exact .inr (.inl rfl)
        | parking => exact .inl rfl
        | waking => exact .inr (.inl rfl)
        | returned outcome => exact blocked
        | opening | locking | panicked => exact blocked
    · cases taken

/-- A mailbox whose blocked senders are all going to be woken, and to return after the drop. -/
structure Attentive (mailbox : UiDelivery Content) : Prop where
  /-- A sender sleeps only at an open receiver, while each free place has a call on its way to
  fill it, or while the drop is about to wake everyone. -/
  asleep : ∀ stage ∈ mailbox.senders, stage.isSleeping = true →
    mailbox.receiver = .live ∧ uiOrderedCapacity ≤
        mailbox.state.ordered.length + mailbox.senders.countP SenderStage.isWaking ∨
      mailbox.receiver = .dropping
  /-- After the drop every call has returned, or can move, and returns when it does. -/
  ending : mailbox.receiver = .dropped → ∀ sender stage, mailbox.senders[sender]? = some stage →
    (∃ outcome, stage = .returned outcome) ∨
      (∃ label next, label.1 = .sender sender ∧ mailbox.Steps label next) ∧
      ∀ label next, label.1 = .sender sender → mailbox.Steps label next → mailbox.Tended label →
        ∃ outcome, next.senders[sender]? = some (.returned outcome)

/-- Attended senders are going to be woken, and to return after the drop. -/
theorem Attended.attentive (attended : mailbox.Attended) : mailbox.Attentive where
  asleep := by
    intro stage member sleeping
    cases receiver : mailbox.receiver with
    | live => exact .inl ⟨rfl, attended.live receiver ⟨stage, member, sleeping⟩⟩
    | dropping => exact .inr rfl
    | dropped =>
      have calm := attended.dropped receiver stage member
      simp [SenderStage.isBlocked, sleeping] at calm
  ending := by
    intro gone sender stage found
    have closed : mailbox.receiverOpen = false := by
      simp [receiverOpen, gone]
    -- Only a call about to wait holds the lock between steps, and none is left.
    have free : mailbox.lockedBy = none := by
      by_contra held
      obtain ⟨⟨other, member, parking⟩, _⟩ := attended.locked held
      have calm := attended.dropped gone other member
      simp [SenderStage.isBlocked, parking] at calm
    obtain ⟨inside, _⟩ := List.getElem?_eq_some_iff.mp found
    -- What a call's step takes it to is read at its own position.
    have reached : ∀ (changed : SenderStage Content) {label : UiLabel Content},
        label.1 = .sender sender → ∀ next, mailbox.Steps label next →
        (∀ seen, mailbox.senderStep sender = some (next, seen) →
          next.senders = mailbox.senders.set sender changed) →
        next.senders[sender]? = some changed := by
      rintro changed ⟨choice, seen⟩ rfl next taken moved
      rw [moved seen taken, List.getElem?_set_self inside]
    cases stage with
    | returned outcome => exact .inl ⟨outcome, rfl⟩
    | panicked => exact absurd (List.mem_of_getElem? found) attended.calm
    -- Neither stage is left once the receiver is dropped.
    | parking | sleeping =>
      have calm := attended.dropped gone _ (List.mem_of_getElem? found)
      cases calm
    | opening event =>
      have moved : mailbox.senderStep sender = some (mailbox.setSender sender (.returned none), []) := by
        simp [UiDelivery.senderStep, found, closed]
      refine .inr ⟨⟨(.sender sender, []), _, rfl, moved⟩, fun label next same taken _ => ⟨none, ?_⟩⟩
      refine reached _ same next taken fun seen stepped => ?_
      rw [moved] at stepped
      cases stepped
      rfl
    | locking event =>
      have moved : mailbox.senderStep sender =
          some (mailbox.leave sender (mailbox.state.send mailbox.receiverOpen sender event)) := by
        simp [UiDelivery.senderStep, found, free]
      refine .inr ⟨⟨(.sender sender, _), _, rfl, moved⟩, fun label next same taken _ => ?_⟩
      rcases (UiDeliveryState.send_ends event).stage with ⟨outcome, returned⟩ | ⟨isOpen, _⟩
      · refine ⟨outcome, reached _ same next taken fun seen stepped => ?_⟩
        rw [moved] at stepped
        cases stepped
        rw [← returned]
        rfl
      · rw [closed] at isOpen
        cases isOpen
    -- A woken call cannot wait again at a closed receiver.
    | waking entry awaited =>
      have moved : mailbox.senderStep sender = some (mailbox.leave sender
          (mailbox.state.resume mailbox.receiverOpen sender entry awaited)) := by
        simp [UiDelivery.senderStep, found, free]
      refine .inr ⟨⟨(.sender sender, _), _, rfl, moved⟩, fun label next same taken tended => ?_⟩
      have fills := @UiDeliveryState.resume_fills _ mailbox.receiverOpen sender entry mailbox.state
        awaited fun sequence flushing space =>
          tended.present sender entry sequence same (by rw [found, flushing]) space
      rcases fills.stage with ⟨outcome, returned⟩ | ⟨isOpen, _⟩
      · refine ⟨outcome, reached _ same next taken fun seen stepped => ?_⟩
        rw [moved] at stepped
        cases stepped
        rw [← returned]
        rfl
      · rw [closed] at isOpen
        cases isOpen

/-- The steps of a mailbox that leave no sender asleep. -/
def TendedSteps (mailbox : UiDelivery Content) (label : UiLabel Content)
    (next : UiDelivery Content) : Prop :=
  mailbox.Steps label next ∧ mailbox.Tended label

/-- An empty mailbox has no senders to attend to. -/
theorem Attended.start : Attended ({} : UiDelivery Content) where
  parked := by simp
  locked := by simp
  live := by simp
  shut := by simp
  dropped := by simp
  calm := by simp

/--
In every run of tended steps, no sender sleeps without a wake-up to come, and every call returns
after the drop; what was blocked when the receiver closed, or began later, returns nothing.
-/
theorem senders_attended {before after : List (UiLabel Content)} {middle final : UiDelivery Content}
    (earlier : Run TendedSteps {} before middle) (later : Run TendedSteps middle after final) :
    final.Attentive ∧ (middle.receiver ≠ .live →
      ∀ (sender : Nat) (outcome : Option UiDeliveryOutcome),
      (∀ stage : SenderStage Content, middle.senders[sender]? = some stage →
        stage.isBlocked = true) →
      final.senders[sender]? = some (.returned outcome) → outcome = none) := by
  -- The attention is kept along both parts of the run.
  have attended : ∀ {first last : UiDelivery Content} {labels : List (UiLabel Content)},
      Run TendedSteps first labels last → first.Attended → last.Attended := by
    intro first last labels run start
    exact run.invariant Attended (fun taken held => held.step taken.2 taken.1) start
  have reached := attended earlier .start
  refine ⟨(attended later reached).attentive, fun shut sender outcome blocked returned => ?_⟩
  have start : middle.Refused sender := by
    refine ⟨shut, ?_⟩
    cases found : middle.senders[sender]? with
    | none => exact .inl nofun
    | some stage =>
      have waits := blocked stage found
      exact .inr ⟨reached.shut shut ⟨stage, List.mem_of_getElem? found, waits⟩, stage, rfl,
        .inl waits⟩
  have refused := later.invariant (fun mailbox => mailbox.Refused sender)
    (fun taken held => held.step taken.2 taken.1) start
  rcases refused.stage with early | ⟨_, stage, read, waits⟩
  · rcases early _ returned with ⟨_, opening⟩ | same
    · cases opening
    · exact SenderStage.returned.inj same
  · rw [returned] at read
    cases read
    rcases waits with waits | waits | same
    · cases waits
    · cases waits
    · exact SenderStage.returned.inj same

/-- Whether a call was woken to move a snapshot. -/
private def flushes : SenderStage Unit → Bool
  | .waking _ (.flushing _) => true
  | _ => false

/-- Whether a step drops the receiver. -/
private def drops : UiChoice Unit → Bool
  | .dropReceiver => true
  | _ => false

/-- A step that no condition forbids: no call was woken to move a snapshot, and the drop finds a
full lane and nobody about to wait. -/
private def careful (mailbox : UiDelivery Unit) (choice : UiChoice Unit) :
    Option (UiDelivery Unit × List (UiObservation Unit)) :=
  if (mailbox.senders.all fun stage => !flushes stage) = true ∧ (drops choice = true →
      uiOrderedCapacity ≤ mailbox.state.ordered.length ∧
        (mailbox.senders.all fun stage => !stage.isParking) = true) then
    mailbox.step choice
  else none

/-- A careful step is tended. -/
private theorem careful_tended {mailbox next : UiDelivery Unit}
    {label : UiChoice Unit × List (UiObservation Unit)}
    (taken : careful mailbox label.1 = some (next, label.2)) :
    mailbox.TendedSteps label next := by
  -- The check looks at all calls, and so at each of them.
  unfold careful at taken
  split at taken
  · rename_i calm
    obtain ⟨awake, ready⟩ := calm
    refine ⟨taken, ⟨fun sender entry sequence _ read _ => ?_, fun drop _ => ?_, fun drop _ _ => ?_⟩⟩
    · have still := List.all_eq_true.mp awake _ (List.mem_of_getElem? read)
      cases still
    · have unparked := (ready (by rw [drop]; rfl)).2
      simpa using unparked
    · exact (ready (by rw [drop]; rfl)).1
  · cases taken

/-- A filling step is tended. -/
private theorem filling_tended {mailbox next : UiDelivery Unit} {label : UiLabel Unit}
    (taken : mailbox.FillingSteps label next) : mailbox.TendedSteps label next := by
  obtain ⟨stepped, awake, filling⟩ := taken
  refine ⟨stepped, ⟨fun sender entry sequence same read _ => ?_, fun drops _ => ?_,
    fun drops _ _ => ?_⟩⟩
  · exact absurd read (awake sender same entry _)
  · rw [drops] at filling
    exact absurd rfl filling
  · rw [drops] at filling
    exact absurd rfl filling

/-- The drop wakes the sleeping call, which returns, and so does one that begins later. -/
private def farewell : List (UiChoice Unit) :=
  [.dropReceiver, .sender 256, .send notice, .sender 257]

/-- Whether the receiver is gone and two calls returned nothing. -/
private def parted (mailbox : UiDelivery Unit) : Bool :=
  mailbox.receiver == .dropped && mailbox.senders[256]? == some (.returned none) &&
    mailbox.senders[257]? == some (.returned none)

/-- The same with a call asleep at a full lane when the receiver is dropped, and one that begins
after that: both return nothing. -/
theorem senders_attended_dropped :
    ∃ final : UiDelivery Unit, final.Attentive ∧ final.receiver = .dropped ∧
      final.senders[256]? = some (.returned none) ∧
      final.senders[257]? = some (.returned none) ∧
      ∀ outcome, final.senders[256]? = some (.returned outcome) → outcome = none := by
  -- The lane is full and one call sleeps when the receiver is dropped.
  obtain ⟨filling, filled⟩ := run_laden (Nat.le_refl uiOrderedCapacity)
  obtain ⟨middle, _, seen, earlier, _⟩ := Run.of_evaluate careful (laden uiOrderedCapacity)
    [.send notice, .sender 256, .sender 256, .sender 256, .dropReceiver]
    (fun result => (result.1.receiver, result.1.senders[256]?.map SenderStage.isBlocked,
      (evaluate careful result.1 farewell).map fun last => parted last.1))
    (.dropping, some true, some true) (by decide +kernel)
  simp only [Prod.mk.injEq] at seen
  obtain ⟨closing, blocked, evaluated⟩ := seen
  obtain ⟨final, _, shown, later, _⟩ := Run.of_evaluate careful middle farewell
    (fun last => parted last.1) true evaluated
  simp only [parted, Bool.and_eq_true, beq_iff_eq] at shown
  obtain ⟨⟨gone, first⟩, second⟩ := shown
  have told := senders_attended
    ((filled.mono filling_tended).append (earlier.mono careful_tended)) (later.mono careful_tended)
  refine ⟨final, told.1, gone, first, second, fun outcome returned => ?_⟩
  refine told.2 (by rw [closing]; nofun) 256 outcome (fun stage found => ?_) returned
  simpa [found] using blocked

/-- A call that passes its check just before the receiver closes, and sleeps after the drop. -/
private def raced : List (UiChoice Unit) :=
  [.send notice, .sender 256, .sender 256, .dropReceiver, .dropReceiver, .sender 256]

/-- After the drop nobody wakes a sleeping call. -/
private theorem asleep_step {mailbox next : UiDelivery Unit} {label : UiLabel Unit} {sender : Nat}
    (gone : mailbox.receiver = .dropped)
    (asleep : mailbox.senders[sender]?.map SenderStage.isSleeping = some true)
    (taken : mailbox.Steps label next) :
    next.receiver = .dropped ∧ next.senders[sender]?.map SenderStage.isSleeping = some true := by
  obtain ⟨stage, read, sleeps⟩ := Option.map_eq_some_iff.mp asleep
  obtain ⟨choice, seen⟩ := label
  cases choice with
  | send event =>
    cases taken
    obtain ⟨inside, _⟩ := List.getElem?_eq_some_iff.mp read
    refine ⟨gone, ?_⟩
    show (mailbox.senders ++ [.opening event])[sender]?.map SenderStage.isSleeping = some true
    rwa [List.getElem?_append_left inside]
  | sender other =>
    have apart : sender ≠ other := by
      -- The sleeping call itself has no step.
      rintro rfl
      obtain ⟨moved, found, step⟩ := Option.bind_eq_some_iff.mp taken
      rw [read] at found
      cases found
      cases stage with
      | sleeping entry awaited => cases step
      | opening | locking | parking | waking | returned | panicked => cases sleeps
    obtain ⟨receiver, others⟩ := senderStep_others taken
    exact ⟨by rw [receiver, gone], by rw [others sender apart, asleep]⟩
  | tryRecv woken =>
    simp [Steps, UiDelivery.step, gone] at taken
  | dropReceiver =>
    simp [Steps, UiDelivery.step, gone] at taken

/-- A call that passed its check before the receiver closed goes to sleep after the drop woke
everyone, and sleeps for ever. -/
theorem senders_attended_raced :
    ∃ labels, ∃ mailbox : UiDelivery Unit, Run Steps {} labels mailbox ∧
      mailbox.receiver = .dropped ∧ ¬ mailbox.Attentive ∧
      ∀ more final, Run Steps mailbox more final →
        final.senders[256]?.map SenderStage.isSleeping = some true := by
  obtain ⟨filling, filled⟩ := run_laden (Nat.le_refl uiOrderedCapacity)
  obtain ⟨mailbox, _, seen, run, _⟩ := Run.of_evaluate UiDelivery.step (laden uiOrderedCapacity)
    raced (fun result => (result.1.receiver, result.1.senders[256]?.map SenderStage.isSleeping))
    (.dropped, some true) (by decide +kernel)
  simp only [Prod.mk.injEq] at seen
  obtain ⟨gone, asleep⟩ := seen
  refine ⟨_, mailbox, (filled.mono fun taken => taken.1).append run, gone, fun calm => ?_,
    fun more final later => ?_⟩
  · -- A sleeping call needs an open receiver, or a drop that is still to wake it.
    obtain ⟨stage, read, sleeps⟩ := Option.map_eq_some_iff.mp asleep
    rcases calm.asleep stage (List.mem_of_getElem? read) sleeps with ⟨live, _⟩ | dropping
    · rw [gone] at live
      cases live
    · rw [gone] at dropping
      cases dropping
  · exact (later.invariant (fun mailbox => mailbox.receiver = .dropped ∧
      mailbox.senders[256]?.map SenderStage.isSleeping = some true)
      (fun taken held => asleep_step held.1 held.2 taken) ⟨gone, asleep⟩).2

end UiDelivery

end Hotki

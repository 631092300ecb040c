import Hotki.Base.Run
import Hotki.Proofs.App.UiMailbox

/-! When the mailbox delivers in order, loses nothing but replaced snapshots, and never panics. -/

namespace Hotki

open Base

variable {Content : Type*}

namespace Waits

variable {seen : List (UiObservation Content)} {state : UiDeliveryState Content} {sender : Nat}
  {entry : SequencedUiEvent Content}

/-- A call that still flushes may wait for any sequence up to the earliest pending one. -/
theorem flush {sequence : Nat} {awaited : AwaitedSpace}
    (waits : Waits seen state sender entry awaited) (bound : sequence ≤ state.nextSequence)
    (least : ∀ kind other, state.snapshots.slot kind = some other → sequence ≤ other.sequence) :
    Waits seen state sender entry (.flushing sequence) where
  -- The earliest pending sequence is no greater than any other pending one.
  ordered := waits.ordered
  sequenced := waits.sequenced
  unplaced := waits.unplaced
  flushing := by
    intro other same
    cases same
    exact ⟨bound, least⟩
  finishing := by simp

/-- A call with nothing left to flush has its event accepted. -/
theorem accept {awaited : AwaitedSpace} (waits : Waits seen state sender entry awaited)
    (none : ∀ kind, state.snapshots.slot kind = none) :
    Waits (seen ++ [.accepted sender entry]) state sender entry .finishing where
  ordered := waits.ordered
  sequenced := List.mem_append_left _ waits.sequenced
  unplaced := by simpa [placedOf] using waits.unplaced
  flushing := by simp
  finishing := fun _ => ⟨(List.singleton_sublist.mpr waits.sequenced).append (.refl _),
    fun kind other held => by simp [none kind] at held⟩

end Waits

namespace SenderStage

/-- What a call that waits for space will do with it. -/
def awaits : SenderStage Content → Option (SequencedUiEvent Content × AwaitedSpace)
  | .parking entry awaited | .sleeping entry awaited | .waking entry awaited =>
    some (entry, awaited)
  | _ => none

/-- A notification changes nothing about what a call waits for. -/
@[simp]
theorem awaits_woken (stage : SenderStage Content) : stage.woken.awaits = stage.awaits := by
  cases stage <;> rfl

end SenderStage

/-- What a critical section does to the mailbox, after its call has seen something already. -/
structure Serves (lost : Prop) (past acc : List (UiObservation Content))
    (state : UiDeliveryState Content) (sender : Nat) (entry : SequencedUiEvent Content)
    (left : Section Content) : Prop where
  coherent : Coherent (past ++ left.seen) left.state
  pending : ∀ kind other, left.state.snapshots.slot kind = some other →
    state.snapshots.slot kind = some other ∨ state.nextSequence ≤ other.sequence
  sequences : state.nextSequence ≤ left.state.nextSequence
  /-- Only snapshots and the call's own event are placed. -/
  placed : ∀ other ∈ placedOf left.seen,
    other ∈ placedOf acc ∨ other.event.snapshotClass ≠ none ∨ other = entry
  waits : ∀ other awaited, left.stage.awaits = some (other, awaited) →
    Waits (past ++ left.seen) left.state sender other awaited
  /-- Only a lost snapshot makes the call panic. -/
  calm : ∀ other, .panicked other ∈ left.seen → .panicked other ∈ acc ∨ lost

namespace UiDeliveryState

variable {past acc : List (UiObservation Content)} {state : UiDeliveryState Content} {sender : Nat}
  {entry : SequencedUiEvent Content} {isOpen : Bool} {lost : Prop}

/-- A call that finds the lane full keeps waiting, or gives up. -/
theorem awaitSpace_serves (coherent : Coherent (past ++ acc) state) {awaited : AwaitedSpace}
    (waits : Waits (past ++ acc) state sender entry awaited) :
    Serves lost past acc state sender entry (state.awaitSpace isOpen entry awaited acc) where
  -- The lane is full, so only the receiver can let the call go on.
  coherent := coherent
  pending := fun _ _ held => .inl held
  sequences := Nat.le_refl _
  placed := fun _ member => .inl member
  waits := by
    intro other wanted stage
    cases isOpen with
    | true =>
      simp only [awaitSpace, if_true, SenderStage.awaits, Option.some.injEq, Prod.mk.injEq] at stage
      obtain ⟨rfl, rfl⟩ := stage
      exact waits
    | false => simp [awaitSpace, SenderStage.awaits] at stage
  calm := fun _ member => .inl member

/-- An accepted call waits for space or appends its event. -/
theorem finish_serves (coherent : Coherent (past ++ acc) state)
    (waits : Waits (past ++ acc) state sender entry .finishing) :
    Serves lost past acc state sender entry (state.finish isOpen sender entry acc) := by
  -- The lane has room or it has not.
  unfold finish
  split
  · exact awaitSpace_serves coherent waits
  · refine ⟨?_, fun _ _ held => .inl held, Nat.le_refl _, ?_, by simp [SenderStage.awaits],
      fun _ member => .inl (by simpa using member)⟩
    · rw [← List.append_assoc]
      exact coherent.finish waits
    · intro other member
      simp only [placedOf_append, List.mem_append] at member
      rcases member with earlier | last
      · exact .inl earlier
      · simp only [placedOf, List.filterMap_cons, List.filterMap_nil, List.mem_singleton] at last
        exact .inr (.inr last)

/-- A call with nothing pending has its event accepted, and then waits or appends it. -/
theorem accept_serves (coherent : Coherent (past ++ acc) state) {awaited : AwaitedSpace}
    (waits : Waits (past ++ acc) state sender entry awaited)
    (none : ∀ kind, state.snapshots.slot kind = none) :
    Serves lost past acc state sender entry
      (state.finish isOpen sender entry (acc ++ [.accepted sender entry])) := by
  -- Nothing is pending before the event, so it is accepted at once.
  have accepted := coherent.accept sender entry none
  have finishing := waits.accept none
  rw [List.append_assoc] at accepted finishing
  have serves : Serves lost past (acc ++ [.accepted sender entry]) state sender entry
      (state.finish isOpen sender entry (acc ++ [.accepted sender entry])) :=
    finish_serves accepted finishing
  refine ⟨serves.coherent, serves.pending, serves.sequences, ?_, serves.waits, ?_⟩
  · simpa [placedOf] using serves.placed
  · simpa using serves.calm

/-- The state after the snapshot in a slot moved into the lane. -/
def moved (state : UiDeliveryState Content) (kind : SnapshotClass)
    (snapshot : SequencedUiEvent Content) : UiDeliveryState Content :=
  { state.pushBack snapshot with snapshots := state.snapshots.set kind none }

/-- Moving the earliest snapshot leaves a flushing call waiting for what is left. -/
theorem moved_waits (coherent : Coherent (past ++ acc) state) {sequence : Nat}
    (waits : Waits (past ++ acc) state sender entry (.flushing sequence)) {kind : SnapshotClass}
    {snapshot : SequencedUiEvent Content} (held : state.snapshots.slot kind = some snapshot) :
    Waits (past ++ (acc ++ [.placed snapshot])) (state.moved kind snapshot) sender entry
      (.flushing sequence) := by
  -- What is left pending was pending before.
  rw [← List.append_assoc]
  refine waits.later coherent ?_ ?_ (Nat.le_refl _)
  · -- The call's own event is ordered, so it is not the snapshot.
    intro member
    simp only [placedOf, List.filterMap_cons, List.filterMap_nil, List.mem_singleton] at member
    have kindOf := coherent.slots kind snapshot held
    rw [← member, waits.ordered] at kindOf
    cases kindOf
  · exact fun other event pending => .inl (PendingSnapshots.slot_of_emptied pending).2

/-- What a section does after one snapshot moved, it does from before that. -/
theorem serves_of_moved {kind : SnapshotClass} {snapshot : SequencedUiEvent Content}
    (kindOf : snapshot.event.snapshotClass = some kind) {left : Section Content}
    (serves : Serves lost past (acc ++ [.placed snapshot]) (state.moved kind snapshot) sender entry
      left) : Serves lost past acc state sender entry left where
  -- The moved snapshot is placed first, and what the rest does comes after it.
  coherent := serves.coherent
  pending := by
    intro other event pending
    rcases serves.pending other event pending with before | new
    · exact .inl (PendingSnapshots.slot_of_emptied before).2
    · exact .inr new
  sequences := serves.sequences
  placed := by
    intro other member
    rcases serves.placed other member with earlier | rest
    · simp only [placedOf_append, List.mem_append] at earlier
      rcases earlier with earlier | last
      · exact .inl earlier
      · simp only [placedOf, List.filterMap_cons, List.filterMap_nil, List.mem_singleton] at last
        exact .inr (.inl (by simp [last, kindOf]))
    · exact .inr rest
  waits := serves.waits
  calm := fun other member => by simpa using serves.calm other member

/-- Flushing moves snapshots in order until the lane is full or the event can be accepted. -/
theorem flush_serves (turns : Nat) (coherent : Coherent (past ++ acc) state) {first : Nat}
    (waits : Waits (past ++ acc) state sender entry (.flushing first))
    (enough : state.snapshots.len = turns) :
    Serves lost past acc state sender entry (state.flush isOpen sender entry turns acc) := by
  -- The induction is on the turns, which count the snapshots that are still pending.
  induction turns generalizing acc state with
  | zero =>
    exact accept_serves coherent waits fun kind => PendingSnapshots.slot_of_len_eq_zero enough kind
  | succ turns ih =>
    unfold flush
    cases next : state.snapshots.nextSequence with
    | none => exact accept_serves coherent waits (PendingSnapshots.nextSequence_eq_none next)
    | some sequence =>
      obtain ⟨⟨held, pending, inSlot, same⟩, least⟩ := PendingSnapshots.nextSequence_eq_some next
      simp only
      split
      · refine awaitSpace_serves coherent (waits.flush ?_ least)
        exact same ▸ Nat.le_of_lt (coherent.slot_lt inSlot)
      · cases taken : state.snapshots.take sequence with
        | none => exact absurd (same ▸ taken) (PendingSnapshots.take_ne_none inSlot)
        | some found =>
          obtain ⟨snapshot, snapshots⟩ := found
          obtain ⟨kind, inSlot, same, rfl⟩ := PendingSnapshots.take_eq_some taken
          have placed := coherent.place inSlot (same ▸ least)
          rw [List.append_assoc] at placed
          have counted := PendingSnapshots.len_emptied inSlot
          exact serves_of_moved (coherent.slots kind snapshot inSlot)
            (ih placed (moved_waits coherent waits inSlot) (by
              simp only [moved]
              omega))

/-- A critical section that begins by taking a sequence. -/
theorem serves_of_sequenced {next : UiDeliveryState Content}
    (serves : Serves lost past [.sequenced sender entry] next sender entry left)
    (pending : ∀ kind other, next.snapshots.slot kind = some other →
      state.snapshots.slot kind = some other ∨ state.nextSequence ≤ other.sequence)
    (sequences : state.nextSequence ≤ next.nextSequence) :
    Serves lost past [] state sender entry left where
  -- The sequence that is taken is greater than all before it.
  coherent := serves.coherent
  pending := by
    intro kind other held
    rcases serves.pending kind other held with before | new
    · exact pending kind other before
    · exact .inr (Nat.le_trans sequences new)
  sequences := Nat.le_trans sequences serves.sequences
  placed := fun other member => by simpa [placedOf] using serves.placed other member
  waits := serves.waits
  calm := fun other member => by simpa using serves.calm other member

/-- What the first critical section of a call does, while the sequences last. -/
theorem send_serves (coherent : Coherent past state) (event : UiEvent Content)
    (lasting : state.nextSequence + 1 < UInt64.size) :
    Serves lost past [] state sender ⟨state.nextSequence, event⟩
      (state.send isOpen sender event) := by
  -- A snapshot is retained in its slot, and an ordered event waits for those pending before it.
  have sequenced := coherent.sequence sender event
  have grown : state.nextSequence ≤ state.nextSequence + 1 := Nat.le_succ _
  unfold send
  rw [Nat.mod_eq_of_lt lasting]
  simp only
  cases kindOf : event.snapshotClass with
  | some kind =>
    have taken : .sequenced sender ⟨state.nextSequence, event⟩ ∈
        past ++ [.sequenced sender ⟨state.nextSequence, event⟩] := by simp
    have retained := sequenced.retain kindOf taken
      (fun other member => coherent.placed_lt (by simpa [placedOf] using member))
      (fun other held => coherent.slot_lt held)
    rw [List.append_assoc] at retained
    have serves (outcome : UiDeliveryOutcome) (stats : UiDeliveryStats) :
        Serves lost past [] state sender ⟨state.nextSequence, event⟩
          ⟨⟨state.ordered, state.snapshots.set kind (some ⟨state.nextSequence, event⟩), stats,
              state.nextSequence + 1⟩, .returned (some outcome),
            [.sequenced sender ⟨state.nextSequence, event⟩,
              .retained sender ⟨state.nextSequence, event⟩ (state.snapshots.slot kind)]⟩ := by
      refine ⟨retained.with_stats stats, ?_, grown, by simp [placedOf], by simp [SenderStage.awaits],
        by simp⟩
      -- The other slots hold what they held.
      intro other held pending
      by_cases same : other = kind
      · subst same
        simp only [PendingSnapshots.set_slot_self, Option.some.injEq] at pending
        exact .inr (by simp [← pending])
      · exact .inl (by rwa [PendingSnapshots.set_slot_of_ne same] at pending)
    simp only
    split
    · exact serves _ _
    · exact serves _ _
  | none =>
    simp only
    split
    · -- A log event that finds the lane full is dropped.
      have dropped := sequenced.ignore (.inl ⟨sender, ⟨state.nextSequence, event⟩, rfl⟩)
      rw [List.append_assoc] at dropped
      exact ⟨dropped.with_stats _, fun _ _ held => .inl held, grown, by simp [placedOf],
        by simp [SenderStage.awaits], by simp⟩
    -- No snapshot has been looked at yet, so the flush starts behind all those placed.
    · have waits : Waits (past ++ [.sequenced sender ⟨state.nextSequence, event⟩])
          { state with nextSequence := state.nextSequence + 1 } sender
          ⟨state.nextSequence, event⟩ (.flushing 0) := by
        refine ⟨kindOf, by simp, ?_, by simp, by simp⟩
        intro member
        exact Nat.lt_irrefl _ (coherent.placed_lt (by simpa [placedOf] using member))
      exact serves_of_sequenced (flush_serves _ sequenced waits rfl) (fun _ _ held => .inl held)
        grown

/-- What a notified call does next, where losing its snapshot is what makes it panic. -/
theorem resume_serves (coherent : Coherent past state) {awaited : AwaitedSpace}
    (waits : Waits past state sender entry awaited)
    (present : ∀ sequence, awaited = .flushing sequence →
      state.ordered.length < uiOrderedCapacity →
      (∃ kind other, state.snapshots.slot kind = some other ∧ other.sequence = sequence) ∨ lost) :
    Serves lost past [] state sender entry (state.resume isOpen sender entry awaited) := by
  -- The call stands where it waited, with whatever was pending then.
  have unseen : Coherent (past ++ []) state := by rwa [List.append_nil]
  have waiting : Waits (past ++ []) state sender entry awaited := by rwa [List.append_nil]
  cases awaited with
  | finishing => exact finish_serves unseen waiting
  | flushing sequence =>
    simp only [resume]
    split
    · exact awaitSpace_serves unseen waiting
    · rename_i space
      cases taken : state.snapshots.take sequence with
      | none =>
        refine ⟨coherent.ignore (.inr ⟨sender, rfl⟩), fun _ _ held => .inl held, Nat.le_refl _,
          by simp [placedOf], by simp [SenderStage.awaits], ?_⟩
        intro other _
        rcases present sequence rfl (Nat.not_le.mp space) with ⟨kind, held, inSlot, rfl⟩ | gone
        · exact absurd taken (PendingSnapshots.take_ne_none inSlot)
        · exact .inr gone
      | some found =>
        obtain ⟨snapshot, snapshots⟩ := found
        obtain ⟨kind, inSlot, same, rfl⟩ := PendingSnapshots.take_eq_some taken
        have placed := unseen.place inSlot (same ▸ (waiting.flushing sequence rfl).2)
        rw [List.append_assoc] at placed
        exact serves_of_moved (coherent.slots kind snapshot inSlot)
          (flush_serves _ placed (moved_waits unseen waiting inSlot) rfl)

/-- The front is what the lane began with. -/
theorem popFront_eq_some {next : UiDeliveryState Content} {event : SequencedUiEvent Content} :
    state.popFront = some (next, event) ↔
      ∃ ordered, state.ordered = event :: ordered ∧ next = { state with ordered } := by
  -- The lane is empty, or it has a front.
  unfold popFront
  cases lane : state.ordered with
  | nil => simp
  | cons entry ordered =>
    simp only [Option.some.injEq, Prod.mk.injEq, List.cons.injEq]
    constructor
    · rintro ⟨rfl, rfl⟩
      exact ⟨ordered, ⟨rfl, rfl⟩, rfl⟩
    · rintro ⟨rest, ⟨rfl, rfl⟩, rfl⟩
      exact ⟨rfl, rfl⟩

/-- Only an empty lane has no front. -/
theorem popFront_eq_none : state.popFront = none ↔ state.ordered = [] := by
  unfold popFront
  cases state.ordered <;> simp

/-- The receiver finds nothing only when nothing is left. -/
theorem tryRecv_eq_none (none : state.tryRecv = Option.none) :
    state.ordered = [] ∧ ∀ kind, state.snapshots.slot kind = Option.none := by
  unfold tryRecv at none
  cases next : state.snapshots.nextSequence with
  | none =>
    simp only [next, Option.map_eq_none_iff] at none
    exact ⟨popFront_eq_none.mp none, PendingSnapshots.nextSequence_eq_none next⟩
  | some sequence =>
    -- A pending snapshot is either in front of the lane or behind something in it.
    obtain ⟨⟨kind, pending, inSlot, same⟩, _⟩ := PendingSnapshots.nextSequence_eq_some next
    have present := PendingSnapshots.take_ne_none inSlot
    rw [same] at present
    simp only [next] at none
    split at none
    · simp [present] at none
    · rename_i behind
      rw [Option.map_eq_none_iff, popFront_eq_none] at none
      simp [none] at behind

/-- The receiver is given the front of the lane, or the earliest snapshot once the lane is empty. -/
theorem tryRecv_eq_some (coherent : Coherent past state) {next : UiDeliveryState Content}
    {event : SequencedUiEvent Content} {freed : Bool}
    (received : state.tryRecv = some (next, event, freed)) :
    (freed = true ∧ ∃ ordered, state.ordered = event :: ordered ∧ next = { state with ordered }) ∨
      freed = false ∧ ∃ kind, state.ordered = [] ∧ state.snapshots.slot kind = some event ∧
        (∀ other held, state.snapshots.slot other = some held → event.sequence ≤ held.sequence) ∧
        next = { state with snapshots := state.snapshots.set kind none } := by
  have fromLane (found : (state.popFront.map fun popped => (popped.1, popped.2, true)) =
      some (next, event, freed)) : freed = true ∧
        ∃ ordered, state.ordered = event :: ordered ∧ next = { state with ordered } := by
    obtain ⟨⟨left, front⟩, popped, same⟩ := Option.map_eq_some_iff.mp found
    simp only [Prod.mk.injEq] at same
    obtain ⟨rfl, rfl, rfl⟩ := same
    exact ⟨rfl, popFront_eq_some.mp popped⟩
  unfold tryRecv at received
  cases earliest : state.snapshots.nextSequence with
  | none =>
    simp only [earliest] at received
    exact .inl (fromLane received)
  | some sequence =>
    obtain ⟨_, least⟩ := PendingSnapshots.nextSequence_eq_some earliest
    simp only [earliest] at received
    split at received
    · rename_i front
      obtain ⟨⟨snapshot, snapshots⟩, taken, same⟩ := Option.map_eq_some_iff.mp received
      simp only [Prod.mk.injEq] at same
      obtain ⟨rfl, rfl, rfl⟩ := same
      obtain ⟨kind, inSlot, same, rfl⟩ := PendingSnapshots.take_eq_some taken
      refine .inr ⟨rfl, kind, ?_, inSlot, same ▸ least, rfl⟩
      -- An event in the lane was placed, so a pending snapshot is behind it.
      cases lane : state.ordered with
      | nil => rfl
      | cons entry ordered =>
        have member : entry ∈ placedOf past := by simp [coherent.lane, lane]
        have less := coherent.behind kind snapshot inSlot entry member
        simp only [lane, List.head?_cons, Option.all_some, decide_eq_true_eq] at front
        omega
    · exact .inl (fromLane received)

end UiDeliveryState

/-- A label of a run of the mailbox: the choice taken, and what it showed. -/
abbrev UiLabel (Content : Type*) := UiChoice Content × List (UiObservation Content)

/-- Everything seen along a run. -/
def seenOf (past : List (UiLabel Content)) : List (UiObservation Content) :=
  past.flatMap Prod.snd

@[simp]
theorem seenOf_append (first second : List (UiLabel Content)) :
    seenOf (first ++ second) = seenOf first ++ seenOf second :=
  List.flatMap_append

@[simp]
theorem seenOf_singleton (label : UiLabel Content) : seenOf [label] = label.2 := by
  simp [seenOf]

/-- What is seen along choices with their outputs is the outputs. -/
theorem seenOf_zip {choices : List (UiChoice Content)} {outputs : List (List (UiObservation Content))}
    (lengths : outputs.length = choices.length) :
    seenOf (choices.zip outputs) = outputs.flatten := by
  rw [seenOf, List.flatMap_def, List.map_snd_zip (Nat.le_of_eq lengths)]

namespace UiDelivery

/-- The steps after which the mailbox still keeps its promises. -/
structure Spared (_past : List (UiLabel Content)) (mailbox : UiDelivery Content)
    (label : UiLabel Content) : Prop where
  /-- The sequences do not wrap around. -/
  lasting : ∀ sender event, label.1 = .sender sender →
    mailbox.senders[sender]? = some (.locking event) → mailbox.state.nextSequence + 1 < UInt64.size
  /-- A call that was woken to move a snapshot still finds that very snapshot pending. -/
  present : ∀ sender entry sequence, label.1 = .sender sender →
    mailbox.senders[sender]? = some (.waking entry (.flushing sequence)) →
    mailbox.receiver = .live → mailbox.state.ordered.length < uiOrderedCapacity →
    ∃ kind other, mailbox.state.snapshots.slot kind = some other ∧ other.sequence = sequence

/-- What holds between the steps of a run that is spared. -/
structure Orderly (past : List (UiLabel Content)) (mailbox : UiDelivery Content) : Prop where
  coherent : Coherent (seenOf past) mailbox.state
  waits : ∀ {sender stage entry awaited}, mailbox.senders[sender]? = some stage →
    stage.awaits = some (entry, awaited) →
    Waits (seenOf past) mailbox.state sender entry awaited
  calm : mailbox.receiver = .live → ∀ sender, .panicked sender ∉ seenOf past

variable {past : List (UiLabel Content)} {mailbox next : UiDelivery Content}

/-- A step that shows nothing and leaves the mailbox's state and its waiting calls alone. -/
theorem Orderly.silent (orderly : Orderly past mailbox) (choice : UiChoice Content)
    (state : next.state = mailbox.state)
    (waiting : ∀ {sender : Nat} {stage : SenderStage Content} {entry awaited},
      next.senders[sender]? = some stage → stage.awaits = some (entry, awaited) →
      ∃ before : SenderStage Content, mailbox.senders[sender]? = some before ∧
        before.awaits = some (entry, awaited))
    (receiver : next.receiver = .live → mailbox.receiver = .live) :
    Orderly (past ++ [(choice, [])]) next where
  -- Nothing is shown and nothing moves, so all that was said of the calls stands.
  coherent := by simpa [state] using orderly.coherent
  waits := by
    intro sender stage entry awaited found awaits
    obtain ⟨before, read, same⟩ := waiting found awaits
    simpa [state] using orderly.waits read same
  calm := by
    intro live sender
    simpa using orderly.calm (receiver live) sender

/-- Replacing the stage of one call by one that awaits the same. -/
theorem awaits_setSender (changed : SenderStage Content) {sender other : Nat}
    {stage read : SenderStage Content}
    {entry : SequencedUiEvent Content} {awaited : AwaitedSpace}
    (found : mailbox.senders[sender]? = some stage)
    (same : changed.awaits = some (entry, awaited) → stage.awaits = some (entry, awaited))
    (now : (mailbox.setSender sender changed).senders[other]? = some read)
    (awaits : read.awaits = some (entry, awaited)) :
    ∃ before, mailbox.senders[other]? = some before ∧ before.awaits = some (entry, awaited) := by
  -- The call that is replaced awaits what it awaited before.
  simp only [setSender, List.getElem?_set] at now
  split at now
  · rename_i equal
    subst equal
    split at now
    · cases now
      exact ⟨stage, found, same awaits⟩
    · cases now
  · exact ⟨read, now, awaits⟩

/-- A critical section keeps the mailbox orderly. -/
theorem Orderly.leave (orderly : Orderly past mailbox) {sender : Nat}
    {entry : SequencedUiEvent Content} {left : Section Content} {lost : Prop}
    (serves : Serves lost (seenOf past) [] mailbox.state sender entry left)
    (own : ∀ other, .sequenced other entry ∈ seenOf past → other = sender)
    (found : mailbox.receiver = .live → ¬lost) (choice : UiChoice Content) :
    Orderly (past ++ [(choice, (mailbox.leave sender left).2)]) (mailbox.leave sender left).1 where
  coherent := by simpa [UiDelivery.leave] using serves.coherent
  waits := by
    intro other stage event awaited read awaits
    simp only [UiDelivery.leave, setSender, List.getElem?_set] at read
    rw [seenOf_append, seenOf_singleton]
    split at read
    · rename_i same
      subst same
      split at read
      · cases read
        exact serves.waits event awaited awaits
      · cases read
    · rename_i different
      have waits := orderly.waits read awaits
      refine waits.later orderly.coherent (fun member => ?_) serves.pending serves.sequences
      -- The section places snapshots and its own event, and no other call's.
      rcases serves.placed event member with none | snapshot | same
      · simp [placedOf] at none
      · exact snapshot waits.ordered
      · exact different (own other (same ▸ waits.sequenced)).symm
  calm := by
    intro live other member
    rw [seenOf_append, seenOf_singleton, List.mem_append] at member
    rcases member with before | now
    · exact orderly.calm live other before
    · exact (serves.calm other now).elim (by simp) (found live)

/-- A step of a call keeps the mailbox orderly. -/
theorem Orderly.senderStep (orderly : Orderly past mailbox) {sender : Nat}
    {seen : List (UiObservation Content)} (taken : mailbox.senderStep sender = some (next, seen))
    (spared : Spared past mailbox (.sender sender, seen)) :
    Orderly (past ++ [(.sender sender, seen)]) next := by
  -- Before its first critical section a call has shown nothing.
  obtain ⟨stage, read, taken⟩ := Option.bind_eq_some_iff.mp taken
  cases stage with
  | opening event =>
    cases taken
    refine orderly.silent _ rfl (fun now awaits => awaits_setSender _ read ?_ now awaits) id
    split <;> simp [SenderStage.awaits]
  | locking event =>
    simp only at taken
    split at taken
    · cases taken
    · cases taken
      refine orderly.leave (UiDeliveryState.send_serves orderly.coherent event
        (spared.lasting sender event rfl read)) (fun other before => ?_) (fun _ => not_false) _
      exact absurd (orderly.coherent.below other _ before) (Nat.lt_irrefl _)
  | parking entry awaited =>
    cases taken
    exact orderly.silent _ rfl (fun now awaits =>
      awaits_setSender (.sleeping entry awaited) read (fun same => same) now awaits) id
  | waking entry awaited =>
    simp only at taken
    split at taken
    · cases taken
    · cases taken
      have waits := orderly.waits read rfl
      have serves : Serves (mailbox.receiver ≠ .live) (seenOf past) [] mailbox.state sender entry
          (mailbox.state.resume mailbox.receiverOpen sender entry awaited) := by
        refine UiDeliveryState.resume_serves orderly.coherent waits fun sequence same space => ?_
        subst same
        by_cases live : mailbox.receiver = .live
        · exact .inl (spared.present sender entry sequence rfl read live space)
        · exact .inr live
      refine orderly.leave serves (fun other before => ?_) (fun live lost => lost live) _
      exact congrArg Prod.fst (orderly.coherent.sequenced_unique before waits.sequenced rfl)
  | sleeping | returned | panicked => cases taken

/-- Waking a call changes nothing about what the calls await. -/
theorem awaits_notifyOne {woken : Nat} (notified : mailbox.notifyOne woken = some next) :
    next.state = mailbox.state ∧ next.receiver = mailbox.receiver ∧
      ∀ {sender : Nat} {stage : SenderStage Content} {entry awaited},
        next.senders[sender]? = some stage → stage.awaits = some (entry, awaited) →
        ∃ before : SenderStage Content, mailbox.senders[sender]? = some before ∧
          before.awaits = some (entry, awaited) := by
  -- The woken call stands where it stood, and only knows that it may go on.
  unfold notifyOne at notified
  split at notified
  · obtain ⟨stage, read, notified⟩ := Option.bind_eq_some_iff.mp notified
    split at notified
    · cases notified
      exact ⟨rfl, rfl, fun now awaits => awaits_setSender _ read (by simp) now awaits⟩
    · cases notified
  · cases notified
    exact ⟨rfl, rfl, fun {_ stage _ _} now awaits => ⟨stage, now, awaits⟩⟩

/-- Delivering an event keeps the mailbox orderly. -/
theorem Orderly.received (orderly : Orderly past mailbox) {state : UiDeliveryState Content}
    {seen : List (UiObservation Content)} (coherent : Coherent (seenOf past ++ seen) state)
    (ordered : ∀ event ∈ placedOf seen,
      event.event.snapshotClass ≠ none) (calm : ∀ sender, .panicked sender ∉ seen)
    (pending : ∀ kind other, state.snapshots.slot kind = some other →
      mailbox.state.snapshots.slot kind = some other)
    (sequences : state.nextSequence = mailbox.state.nextSequence) (choice : UiChoice Content) :
    Orderly (past ++ [(choice, seen)]) { mailbox with state } where
  -- The delivered event was the earliest placed one, so what is left keeps its order.
  coherent := by simpa using coherent
  waits := by
    intro sender stage event awaited read awaits
    have waits := orderly.waits read awaits
    rw [seenOf_append, seenOf_singleton]
    exact waits.later orderly.coherent (fun member => ordered event member waits.ordered)
      (fun kind other held => .inl (pending kind other held)) (Nat.le_of_eq sequences.symm)
  calm := by
    intro live sender member
    rw [seenOf_append, seenOf_singleton, List.mem_append] at member
    exact member.elim (orderly.calm live sender) (calm sender)

/-- Every spared step keeps the mailbox orderly. -/
theorem Orderly.step (orderly : Orderly past mailbox) {label : UiLabel Content}
    (taken : mailbox.Steps label next) (spared : Spared past mailbox label) :
    Orderly (past ++ [label]) next := by
  obtain ⟨choice, seen⟩ := label
  simp only [Steps, UiDelivery.step] at taken
  cases choice with
  | send event =>
    cases taken
    refine orderly.silent _ rfl (fun {sender stage entry awaited} now awaits => ?_) id
    -- The new call awaits nothing yet.
    rw [List.getElem?_append] at now
    split at now
    · exact ⟨stage, now, awaits⟩
    · rw [List.getElem?_singleton] at now
      split at now <;> cases now
      cases awaits
  | sender sender => exact orderly.senderStep taken spared
  | tryRecv woken =>
    simp only at taken
    split at taken
    · cases received : mailbox.state.tryRecv with
      | none =>
        simp only [received, Option.some.injEq, Prod.mk.injEq] at taken
        obtain ⟨rfl, rfl⟩ := taken
        exact orderly.silent _ rfl (fun {_ stage _ _} now awaits => ⟨stage, now, awaits⟩) id
      | some found =>
        obtain ⟨state, entry, freed⟩ := found
        rcases UiDeliveryState.tryRecv_eq_some orderly.coherent received with
          ⟨rfl, ordered, front, rfl⟩ | ⟨rfl, kind, empty, held, earliest, rfl⟩
        · simp only [received, Option.map_eq_some_iff, Prod.mk.injEq] at taken
          obtain ⟨reached, notified, rfl, rfl⟩ := taken
          obtain ⟨sameState, sameReceiver, waiting⟩ := awaits_notifyOne notified
          have delivered := orderly.received (orderly.coherent.deliver front) (by simp [placedOf])
            (by simp) (fun _ _ held => held) rfl (.tryRecv woken)
          refine ⟨by rw [sameState]; exact delivered.coherent, fun now awaits => ?_, ?_⟩
          · obtain ⟨before, read, same⟩ := waiting now awaits
            rw [sameState]
            exact delivered.waits read same
          · rw [sameReceiver]
            exact delivered.calm
        · simp only [received, Option.some.injEq, Prod.mk.injEq] at taken
          obtain ⟨rfl, rfl⟩ := taken
          -- Delivering a snapshot is placing it in the empty lane and delivering its front.
          have placed := orderly.coherent.place held earliest
          have front : (mailbox.state.pushBack entry).ordered = [entry] := by
            simp [UiDeliveryState.pushBack, empty]
          have delivered := placed.deliver front
          rw [List.append_assoc] at delivered
          have coherent : Coherent (seenOf past ++ [.placed entry, .delivered entry])
              { mailbox.state with snapshots := mailbox.state.snapshots.set kind none } := by
            rw [← empty] at delivered
            exact delivered
          refine orderly.received coherent ?_ (by simp) (fun _ _ pending =>
            (PendingSnapshots.slot_of_emptied pending).2) rfl _
          · intro event member
            simp only [placedOf, List.filterMap_cons, List.filterMap_nil,
              List.mem_singleton] at member
            simp [member, orderly.coherent.slots kind entry held]
    · cases taken
  | dropReceiver =>
    simp only at taken
    split at taken
    · cases taken
      refine orderly.silent _ rfl (fun {_ stage _ _} now awaits => ⟨stage, now, awaits⟩) ?_
      intro live
      cases live
    · cases taken
      refine orderly.silent _ rfl (fun {sender stage entry awaited} now awaits => ?_) ?_
      · -- Every sleeping call is woken, and awaits what it awaited.
        simp only [notifyAll, List.getElem?_map, Option.map_eq_some_iff] at now
        obtain ⟨before, read, rfl⟩ := now
        exact ⟨before, read, by simpa using awaits⟩
      · intro live
        cases live
    · cases taken

/-- A call that returned with its event in the mailbox. -/
def Completed (seen : List (UiObservation Content)) (entry : SequencedUiEvent Content) : Prop :=
  ∃ sender, .queued sender entry ∈ seen ∨ ∃ replaced, .retained sender entry replaced ∈ seen

/-- What the mailbox promises about the events passing through it. -/
structure Delivers (labels : List (UiLabel Content)) (mailbox : UiDelivery Content) : Prop where
  /-- No call panics while the receiver is open. -/
  calm : mailbox.receiver = .live → ∀ sender, .panicked sender ∉ seenOf labels
  /-- An event whose call began after another's had returned is not delivered before it. -/
  inOrder : ∀ before after, labels = before ++ after → ∀ earlier later sender,
    Completed (seenOf before) earlier → .sequenced sender later ∈ seenOf after →
    ¬[later, earlier].Sublist (deliveredOf (seenOf labels))
  /-- Nothing is delivered twice, not even after what is still queued. -/
  once : (deliveredOf (seenOf labels) ++ mailbox.state.ordered).Nodup
  /-- An ordered event of a call that returned was accepted during it and is not lost. -/
  queued : ∀ sender entry, .queued sender entry ∈ seenOf labels →
    [.sequenced sender entry, .accepted sender entry, .queued sender entry].Sublist
      (seenOf labels) ∧ entry ∈ deliveredOf (seenOf labels) ++ mailbox.state.ordered
  /-- Only a snapshot replaced before any later event was accepted is not delivered. -/
  retained : ∀ sender entry replaced, .retained sender entry replaced ∈ seenOf labels →
    entry ∈ deliveredOf (seenOf labels) ++ mailbox.state.ordered ∨
      (∃ kind, mailbox.state.snapshots.slot kind = some entry) ∨ Superseded (seenOf labels) entry
  /-- Once drained, every queued event and the newest snapshot of every class is delivered. -/
  drained : mailbox.state.tryRecv = none →
    (∀ sender entry, .queued sender entry ∈ seenOf labels →
      entry ∈ deliveredOf (seenOf labels)) ∧
    ∀ kind entry, (retainedOf kind (seenOf labels)).getLast? = some entry →
      entry ∈ deliveredOf (seenOf labels)

/-- A spared run from the empty mailbox is orderly. -/
theorem Orderly.run {labels : List (UiLabel Content)} {final : List (UiLabel Content) × UiDelivery
    Content} (run : Run (Guarded Steps Spared) ([], {}) labels final) :
    Orderly final.1 final.2 := by
  refine run.invariant (fun reached => Orderly reached.1 reached.2) ?_ ?_
  · rintro ⟨before, reached⟩ label ⟨after, next⟩ ⟨taken, rfl, spared⟩ orderly
    exact orderly.step taken spared
  · exact ⟨.initial, by simp, by simp [seenOf]⟩

/-- Events that one part of an orderly run sequenced come before those of the next part. -/
theorem Orderly.sequenced_lt {before after : List (UiLabel Content)}
    (orderly : Orderly (before ++ after) mailbox) {sender other : Nat}
    {earlier later : SequencedUiEvent Content} (first : .sequenced sender earlier ∈ seenOf before)
    (second : .sequenced other later ∈ seenOf after) : earlier.sequence < later.sequence := by
  have increasing := orderly.coherent.increasing
  rw [seenOf_append, sequencedOf_append, List.pairwise_append] at increasing
  exact increasing.2.2 _ (mem_sequencedOf.mpr first) _ (mem_sequencedOf.mpr second)

/-- Completed calls are delivered before those that begin afterwards. -/
theorem Orderly.inOrder {before after : List (UiLabel Content)} {middle : UiDelivery Content}
    (early : Orderly before middle) (late : Orderly (before ++ after) mailbox)
    {earlier later : SequencedUiEvent Content} {sender : Nat}
    (completed : Completed (seenOf before) earlier)
    (started : .sequenced sender later ∈ seenOf after) :
    ¬[later, earlier].Sublist (deliveredOf (seenOf (before ++ after))) := by
  intro delivered
  have placed : [later, earlier].Sublist (placedOf (seenOf (before ++ after))) :=
    late.coherent.lane ▸ delivered.trans (List.sublist_append_left _ _)
  obtain ⟨caller, queued | ⟨replaced, retained⟩⟩ := completed
  · -- The earlier event was placed in the first part, and the later one was not.
    have known := (early.coherent.queued caller earlier queued).1
    have order := late.coherent.order
    rw [seenOf_append, placedOf_append] at placed order
    obtain ⟨first, second, split, left, right⟩ := List.sublist_append_iff.mp placed
    have apart := (List.pairwise_append.mp order).2.2 earlier known
    rcases first with _ | ⟨head, _ | ⟨next, rest⟩⟩
    · rw [List.nil_append] at split
      have again : earlier ∈ second := by simp [← split]
      exact (apart earlier (right.mem again)).1 rfl
    · have again : earlier ∈ second := by
        simp only [List.singleton_append, List.cons.injEq] at split
        simp [← split.2]
      exact (apart earlier (right.mem again)).1 rfl
    · have member : later ∈ placedOf (seenOf before) := by
        simp only [List.cons_append, List.cons.injEq] at split
        exact left.mem (by simp [← split.1])
      obtain ⟨owner, taken⟩ := early.coherent.placed later member
      exact Nat.lt_irrefl _ (late.sequenced_lt taken started)
  · -- A placed snapshot is later than all before it.
    have less := late.sequenced_lt (early.coherent.retained caller earlier replaced retained) started
    have snapshot := early.coherent.snapshots caller earlier replaced retained
    have greater := (late.coherent.order.forall_sublist placed).2 snapshot
    omega

/--
Along every run whose steps are all spared, whoever's turn it is, the mailbox delivers.

No call panics, completed calls are respected, and only replaced snapshots are left out.
-/
theorem delivers {labels : List (UiLabel Content)} {final : List (UiLabel Content) × UiDelivery
    Content} (run : Run (Guarded Steps Spared) ([], {}) labels final) :
    Delivers labels final.2 := by
  obtain ⟨past, mailbox⟩ := final
  have recorded : past = labels := Guarded.recorded run
  subst recorded
  have orderly : Orderly past mailbox := .run run
  have coherent := orderly.coherent
  refine ⟨orderly.calm, ?_, ?_, ?_, ?_, ?_⟩
  · intro before after split earlier later sender completed started
    subst split
    obtain ⟨⟨early, middle⟩, left, _⟩ := run.split
    have recorded : early = before := Guarded.recorded left
    subst recorded
    exact (Orderly.run left).inOrder orderly completed started
  -- What was placed is what was delivered, and then what is still in the lane.
  · rw [← coherent.lane]
    exact coherent.order.imp And.left
  · intro sender entry queued
    obtain ⟨member, calls⟩ := coherent.queued sender entry queued
    exact ⟨calls, coherent.lane ▸ member⟩
  · intro sender entry replaced retained
    rw [← coherent.lane]
    exact coherent.kept sender entry replaced retained
  · intro drained
    obtain ⟨empty, none⟩ := UiDeliveryState.tryRecv_eq_none drained
    have all : placedOf (seenOf past) = deliveredOf (seenOf past) := by
      rw [coherent.lane, empty, List.append_nil]
    rw [← all]
    refine ⟨fun sender entry queued => (coherent.queued sender entry queued).1,
      fun kind entry last => ?_⟩
    refine (coherent.newest kind entry last).resolve_right fun held => ?_
    rw [none kind] at held
    cases held

/-- A notification, which stays ordered. -/
def notice : UiEvent Unit := .message (.notify ())

/-- A state of the HUD, of which only the latest matters. -/
private def hud : UiEvent Unit := .message (.hudUpdate ())

/-- The sends of one event, by the calls from a given one on, each up to its first wait. -/
private def sends (event : UiEvent Unit) (first count : Nat) : List (UiChoice Unit) :=
  (List.range count).flatMap fun index =>
    [.send event, .sender (first + index), .sender (first + index)]

/-- A step that is taken only while the sequences last and no call was woken. -/
private def steady (mailbox : UiDelivery Unit) (choice : UiChoice Unit) :
    Option (UiDelivery Unit × List (UiObservation Unit)) :=
  if mailbox.state.nextSequence + 1 < UInt64.size ∧
    mailbox.senders.all fun stage => !stage matches .waking _ _ then mailbox.step choice else none

/-- A steady step is spared. -/
private theorem steady_spared {mailbox next : UiDelivery Unit}
    {label : UiChoice Unit × List (UiObservation Unit)}
    (taken : steady mailbox label.1 = some (next, label.2)) :
    mailbox.Steps label next ∧ ∀ past, Spared past mailbox label := by
  unfold steady at taken
  split at taken
  · rename_i calm
    refine ⟨taken, fun past => ⟨fun _ _ _ _ => calm.1, fun sender entry sequence _ read => ?_⟩⟩
    have awake := List.all_eq_true.mp calm.2 _ (List.mem_of_getElem? read)
    simp at awake
  · cases taken

/-- Two states of the HUD, a notification, and two receptions. -/
private def coalescing : List (UiChoice Unit) :=
  sends hud 0 2 ++ sends notice 2 1 ++ [.tryRecv 0, .tryRecv 0]

/-- A replaced snapshot is left out, and the newer one is delivered before the notification. -/
theorem delivers_coalesced :
    ∃ labels mailbox, Delivers labels mailbox ∧ mailbox.state.tryRecv = none ∧
      deliveredOf (seenOf labels) = [⟨1, hud⟩, ⟨2, notice⟩] := by
  obtain ⟨mailbox, outputs, seen, run, lengths⟩ := Run.of_evaluate steady {} coalescing
    (fun result => (result.1.state.tryRecv.isNone, deliveredOf result.2.flatten))
    (true, [⟨1, hud⟩, ⟨2, notice⟩]) (by decide +kernel)
  simp only [Prod.mk.injEq, Option.isNone_iff_eq_none] at seen
  have spared := run.guarded Steps Spared (fun _ taken => steady_spared taken) []
  refine ⟨_, mailbox, delivers spared, seen.1, ?_⟩
  rw [seenOf_zip lengths, seen.2]

/-- The mailbox after so many notifications that nobody received. -/
def laden (count : Nat) : UiDelivery Unit where
  state :=
    { ordered := (List.range count).map fun sequence => ⟨sequence, notice⟩, nextSequence := count }
  senders := List.replicate count (.returned (some .queued))

/-- A step of an open mailbox in which no call was woken. -/
def FillingSteps (mailbox : UiDelivery Unit) (label : UiLabel Unit) (next : UiDelivery Unit) :
    Prop :=
  mailbox.Steps label next ∧ (∀ sender, label.1 = .sender sender → ∀ entry awaited,
    mailbox.senders[sender]? ≠ some (.waking entry awaited)) ∧ ¬ label.1 matches .dropReceiver

/-- The lane can be filled up to its capacity. -/
theorem run_laden {count : Nat} (room : count ≤ uiOrderedCapacity) :
    ∃ labels, Run FillingSteps ({} : UiDelivery Unit) labels (laden count) := by
  induction count with
  | zero => exact ⟨[], .nil _⟩
  | succ count ih =>
    obtain ⟨labels, run⟩ := ih (Nat.le_of_succ_le room)
    have space : count < uiOrderedCapacity := room
    have bounded : count + 1 < 18446744073709551616 := by
      simp only [uiOrderedCapacity] at space
      omega
    let stage (last : SenderStage Unit) : UiDelivery Unit :=
      { laden count with senders := (laden count).senders ++ [last] }
    have called : (laden count).Steps (.send notice, []) (stage (.opening notice)) := rfl
    have opened : (stage (.opening notice)).Steps (.sender count, []) (stage (.locking notice)) := by
      simp [Steps, UiDelivery.step, senderStep, stage, laden, setSender, receiverOpen]
    obtain ⟨seen, sent⟩ : ∃ seen, (stage (.locking notice)).Steps (.sender count, seen)
        (laden (count + 1)) := by
      have full : ¬ uiOrderedCapacity ≤ count := Nat.not_le.mpr space
      simp [Steps, UiDelivery.step, senderStep, stage, laden, leave, setSender, receiverOpen,
        UiDeliveryState.send, UiDeliveryState.flush, UiDeliveryState.finish, full, bounded,
        Nat.mod_eq_of_lt, UiDeliveryState.pushBack, notice, UiEvent.snapshotClass, UiEvent.isLog,
        PendingSnapshots.len, PendingSnapshots.entries, List.range_succ, List.replicate_succ']
    -- The call that moves is never one that was woken.
    have mine : ∀ last : SenderStage Unit, (stage last).senders[count]? = some last := by
      intro last
      simp [stage, laden]
    have awake : ∀ (last : SenderStage Unit) (seen : List (UiObservation Unit)),
        (∀ entry awaited, last ≠ .waking entry awaited) →
        ∀ sender, ((.sender count, seen) : UiLabel Unit).1 = .sender sender →
        ∀ entry awaited, (stage last).senders[sender]? ≠ some (.waking entry awaited) := by
      intro last seen apart sender same entry awaited
      cases same
      rw [mine]
      simpa using apart entry awaited
    exact ⟨_, run.append (.cons ⟨called, by simp, by simp⟩
      (.cons ⟨opened, awake _ [] (by simp), by simp⟩
        (.cons ⟨sent, awake _ seen (by simp), by simp⟩ (.nil _))))⟩

/-- With a full lane: a snapshot, a call that waits to move it, and a newer snapshot. -/
private def outrun : List (UiChoice Unit) :=
  [.send hud, .sender 256, .sender 256, .send notice, .sender 257, .sender 257, .sender 257,
    .tryRecv 257, .send hud, .sender 258, .sender 258, .sender 257]

/-- A call whose snapshot was replaced while it waited panics, although the receiver is open. -/
theorem delivers_outrun :
    ∃ labels mailbox, Run Steps ({} : UiDelivery Unit) labels mailbox ∧
      mailbox.receiver = .live ∧ ¬Delivers labels mailbox := by
  -- The lane is filled first, and then the blocked call loses its snapshot to a newer one.
  obtain ⟨filling, filled⟩ := run_laden (Nat.le_refl uiOrderedCapacity)
  obtain ⟨mailbox, outputs, seen, run, lengths⟩ := Run.of_evaluate UiDelivery.step
    (laden uiOrderedCapacity) outrun (fun result => (result.1.receiver, result.2.getLast?))
    (.live, some [.panicked 257]) (by decide +kernel)
  simp only [Prod.mk.injEq] at seen
  refine ⟨_, mailbox, (filled.mono fun taken => taken.1).append run, seen.1,
    fun kept => kept.calm seen.1 257 ?_⟩
  rw [seenOf_append, seenOf_zip lengths]
  exact List.mem_append_right _ (List.mem_flatten.mpr ⟨_, List.mem_of_getLast? seen.2, by simp⟩)

end UiDelivery

end Hotki

import Hotki.Base.Run
import Hotki.Proofs.Server.ClientDelivery

/-! What a client that keeps receiving gets once nothing is sent to it any more. -/

namespace Hotki.Client

open Base

variable {Content : Type*}

namespace DeliveryLane

variable {record : String → String → String → Content} {lane next : DeliveryLane Content}

/-- Whether a receive last found nothing to return. -/
def foundNothing (lane : DeliveryLane Content) : Bool :=
  match lane.receiver with
  | .resting (some .empty) | .resting (some .disconnected) | .waiting => true
  | _ => false

/-- Whether nothing is on its way. -/
def IsEmpty (lane : DeliveryLane Content) : Prop :=
  lane.cargo.ordered = [] ∧ ∀ kind, lane.snapshots.slot kind = none

/-- What a receive finds out while nothing is sent. -/
structure Quiet (sent : List (DeliveryEntry Content)) (lane : DeliveryLane Content) : Prop where
  stopped : lane.sendsStopped = true
  sent : lane.sent = sent
  looked : ∀ waits, lane.receiver = .peeking waits → lane.bufferedOrdered = none → lane.ordered = []
  nothing : lane.foundNothing = true → lane.IsEmpty

variable {sent : List (DeliveryEntry Content)}

/-- A receive that neither looked nor found nothing may do anything. -/
theorem Quiet.unless (stopped : lane.sendsStopped = true) (same : lane.sent = sent)
    (peeks : ∀ waits, lane.receiver ≠ .peeking waits) (found : lane.foundNothing = false) :
    lane.Quiet sent := by
  refine ⟨stopped, same, fun waits looks => absurd looks (peeks waits), fun nothing => ?_⟩
  rw [found] at nothing
  cases nothing

/-- A try without a snapshot finds nothing only if nothing is there. -/
theorem Quiet.tryBuffered {waits : Bool} (quiet : lane.Quiet sent)
    (peeks : lane.receiver = .peeking waits)
    (slots : lane.bufferedOrdered = none → ∀ kind, lane.snapshots.slot kind = none) :
    (lane.tryBuffered waits).Quiet sent := by
  -- The buffer is looked at first, and an empty one ends the try.
  unfold DeliveryLane.tryBuffered
  split
  · exact .unless quiet.stopped quiet.sent (fun _ same => by cases same) rfl
  · rename_i empty
    refine ⟨quiet.stopped, quiet.sent, fun other looks => ?_, fun _ => ?_⟩
    · simp only [answering] at looks
      split at looks
      · split at looks <;> cases looks
      · cases looks
    · refine ⟨?_, slots empty⟩
      simp only [DeliveryLane.cargo, empty, quiet.looked waits peeks empty]
      rfl

/-- What is left to report and to deliver. -/
def load (lane : DeliveryLane Content) : Nat :=
  (lane.droppedLogs - lane.reportedDroppedLogs) + (lane.sent.length - lane.delivered.length)

/-- The end of the ordered channel is noticed after the producer is gone and it is empty. -/
structure Ended (lane : DeliveryLane Content) : Prop where
  dropped : lane.senderDropped = true → lane.sendsStopped = true
  closed : lane.orderedClosed = true → lane.senderDropped = true ∧ lane.ordered = []

/-- In an empty lane nobody is gone. -/
theorem Ended.start : ({} : DeliveryLane Content).Ended := by
  constructor
  · intro gone
    cases gone
  · intro closed
    cases closed

/-- Filling the buffer leaves everything else alone, and an empty buffer means an empty channel. -/
theorem Ended.buffer (ended : lane.Ended) (filled : lane.buffer = some next) :
    next.Ended ∧ next.sendsStopped = lane.sendsStopped ∧ next.sent = lane.sent ∧
      next.load = lane.load ∧ (next.bufferedOrdered = none → next.ordered = []) := by
  -- An event is taken from the channel, or there is none.
  unfold DeliveryLane.buffer at filled
  split at filled
  · rename_i entry rest listed
    cases filled
    refine ⟨⟨ended.dropped, fun closed => ?_⟩, rfl, rfl, rfl, fun empty => by cases empty⟩
    have empty := (ended.closed closed).2
    rw [listed] at empty
    cases empty
  · rename_i empty
    split at filled
    · rename_i gone
      cases filled
      exact ⟨⟨ended.dropped, fun _ => ⟨gone, empty⟩⟩, rfl, rfl, rfl, fun _ => empty⟩
    · cases filled

/-- A channel that gives nothing to the buffer is empty. -/
theorem buffer_none (nothing : lane.buffer = none) : lane.ordered = [] := by
  unfold buffer at nothing
  split at nothing
  · cases nothing
  · rename_i empty
    exact empty

/-- A look at the ordered channel leaves the buffer empty only if the channel is. -/
theorem Ended.look (ended : lane.Ended) {waits : Bool} (looks : lane.receiver = .looking waits)
    (stepped : lane.receiveOn record = some next) :
    next.Ended ∧ next.sendsStopped = lane.sendsStopped ∧ next.sent = lane.sent ∧
      next.load = lane.load ∧ next.receiver = .peeking waits ∧
      (next.bufferedOrdered = none → next.ordered = []) := by
  -- A full buffer is left as it is.
  simp only [receiveOn, looks] at stepped
  split at stepped
  · cases stepped
    cases filled : lane.buffer with
    | none => exact ⟨⟨ended.dropped, ended.closed⟩, rfl, rfl, rfl, rfl,
      fun _ => @buffer_none _ lane filled⟩
    | some buffered =>
      obtain ⟨after, stopped, sent, load, empty⟩ := ended.buffer filled
      exact ⟨⟨after.dropped, after.closed⟩, stopped, sent, load, rfl, empty⟩
  · rename_i skips
    cases stepped
    refine ⟨⟨ended.dropped, ended.closed⟩, rfl, rfl, rfl, rfl, fun empty => ?_⟩
    replace empty : lane.bufferedOrdered = none := empty
    simp only [empty, Option.isNone_none, Bool.true_and, Bool.not_eq_true', Bool.not_eq_false]
      at skips
    exact (ended.closed skips).2

/-- What a step of a receive leaves alone, unless it looks at the ordered channel. -/
theorem receiveOn_kept (looks : ∀ waits, lane.receiver ≠ .looking waits)
    (stepped : lane.receiveOn record = some next) :
    next.sender = lane.sender ∧ next.senderDropped = lane.senderDropped ∧ next.sent = lane.sent ∧
      next.ordered = lane.ordered ∧ next.orderedClosed = lane.orderedClosed := by
  -- The stages before the look only read, and those after it only move what was found.
  have answered (waits : Bool) : (lane.tryBuffered waits).sender = lane.sender ∧
      (lane.tryBuffered waits).senderDropped = lane.senderDropped ∧
      (lane.tryBuffered waits).sent = lane.sent ∧ (lane.tryBuffered waits).ordered = lane.ordered ∧
      (lane.tryBuffered waits).orderedClosed = lane.orderedClosed := by
    unfold tryBuffered
    split <;> exact ⟨rfl, rfl, rfl, rfl, rfl⟩
  unfold receiveOn at stepped
  split at stepped
  · cases stepped
  · cases stepped
  · cases stepped
  · dsimp only at stepped
    split at stepped <;> cases stepped <;> exact ⟨rfl, rfl, rfl, rfl, rfl⟩
  · rename_i waits stage
    exact absurd stage (looks waits)
  · split at stepped
    · split at stepped
      · cases stepped
        exact ⟨rfl, rfl, rfl, rfl, rfl⟩
      · cases stepped
        exact answered _
    · cases stepped
      exact answered _
  · split at stepped <;> cases stepped <;> exact ⟨rfl, rfl, rfl, rfl, rfl⟩

/-- The steps of a receive keep what it finds out while nothing is sent. -/
theorem Quiet.receiveOn (quiet : lane.Quiet sent) (ended : lane.Ended)
    (stepped : lane.receiveOn record = some next) : next.Quiet sent := by
  -- Each stage either finds something or passes on that it found nothing.
  cases stage : lane.receiver with
  | looking waits =>
    obtain ⟨_, stopped, same, _, peeks, empty⟩ := ended.look stage stepped
    refine ⟨stopped.trans quiet.stopped, same.trans quiet.sent, fun _ _ => empty, fun found => ?_⟩
    simp only [foundNothing, peeks] at found
    cases found
  | peeking waits =>
    simp only [DeliveryLane.receiveOn, stage] at stepped
    split at stepped
    · rename_i sequence first
      split at stepped
      · cases stepped
        exact .unless quiet.stopped quiet.sent (fun _ same => by cases same) rfl
      · rename_i later
        cases stepped
        refine quiet.tryBuffered stage fun empty => ?_
        simp [precedesOrdered, empty] at later
    · rename_i absent
      cases stepped
      exact quiet.tryBuffered stage fun _ => Slots.next_eq_none SnapshotKind.mem_all absent
  | counting waits =>
    simp only [DeliveryLane.receiveOn, stage] at stepped
    split at stepped <;> cases stepped <;>
      exact .unless quiet.stopped quiet.sent (fun _ same => by cases same) rfl
  | taking waits sequence =>
    simp only [DeliveryLane.receiveOn, stage] at stepped
    split at stepped <;> cases stepped <;>
      exact .unless quiet.stopped quiet.sent (fun _ same => by cases same) rfl
  | _ =>
    simp only [DeliveryLane.receiveOn, stage] at stepped
    cases stepped

/-- Every step keeps the end of the ordered channel what it is. -/
theorem Ended.step {choice : LaneChoice Content} (stepped : lane.Steps record choice next)
    (ended : lane.Ended) : next.Ended := by
  cases choice with
  | send message =>
    simp only [Steps, DeliveryLane.step] at stepped
    split at stepped
    · rename_i free
      cases stepped
      -- A new send needs a producer that is still there.
      simp only [Bool.and_eq_true, Bool.not_eq_true'] at free
      refine ⟨fun gone => ?_, ended.closed⟩
      exact absurd (gone.symm.trans free.2) (by simp)
    · cases stepped
  | sender =>
    -- A producer that is gone has no send in progress.
    have open_ : lane.senderDropped = false := by
      cases gone : lane.senderDropped with
      | false => rfl
      | true =>
        have stopped := ended.dropped gone
        unfold sendsStopped at stopped
        split at stopped
        · rename_i idle
          simp only [Steps, DeliveryLane.step, sendOn, idle] at stepped
          cases stepped
        · cases stopped
    obtain ⟨_, _, _, dropped, closed, _⟩ := sendOn_kept stepped
    constructor
    · intro gone
      rw [dropped, open_] at gone
      cases gone
    · intro shut
      have gone := (ended.closed (closed.symm.trans shut)).1
      rw [open_] at gone
      cases gone
  | receiver =>
    by_cases looks : ∃ waits, lane.receiver = .looking waits
    · obtain ⟨waits, looks⟩ := looks
      exact (ended.look looks stepped).1
    -- Only a look at the channel finds it closed.
    · obtain ⟨sender, dropped, _, ordered, closed⟩ :=
        receiveOn_kept (fun waits stage => looks ⟨waits, stage⟩) stepped
      constructor
      · rw [dropped, sendsStopped, sender]
        exact ended.dropped
      · rw [closed, dropped, ordered]
        exact ended.closed
  | awaitOrdered =>
    simp only [Steps, DeliveryLane.step, wait] at stepped
    split at stepped
    · obtain ⟨later, found, same⟩ := Option.map_eq_some_iff.mp stepped
      subst same
      obtain ⟨after, _⟩ := ended.buffer found
      exact ⟨after.dropped, after.closed⟩
    · cases stepped
  | awaitReady =>
    simp only [Steps, DeliveryLane.step, wait] at stepped
    split at stepped
    · split at stepped
      · cases stepped
        exact ⟨ended.dropped, ended.closed⟩
      · cases stepped
    · cases stepped
  | dropSender =>
    simp only [Steps, DeliveryLane.step] at stepped
    split at stepped
    · rename_i stopped
      cases stepped
      exact ⟨fun _ => stopped, fun closed => ⟨rfl, (ended.closed closed).2⟩⟩
    · cases stepped
  | _ =>
    simp only [Steps, DeliveryLane.step] at stepped
    split at stepped
    · cases stepped
      exact ⟨ended.dropped, ended.closed⟩
    · cases stepped

/-- The steps of receives keep what they find out while nothing is sent. -/
theorem Quiet.step {choice : LaneChoice Content} (stepped : lane.Steps record choice next)
    (receives : choice.isReceive = true) (ended : lane.Ended) (quiet : lane.Quiet sent) :
    next.Quiet sent := by
  -- Only the receiver moves, as nothing is sent any more.
  cases choice with
  | receiver => exact quiet.receiveOn ended stepped
  | receive waits =>
    simp only [Steps, DeliveryLane.step] at stepped
    split at stepped
    · cases stepped
      exact .unless quiet.stopped quiet.sent (fun _ same => by cases same) rfl
    · cases stepped
  | awaitOrdered =>
    simp only [Steps, DeliveryLane.step, wait] at stepped
    split at stepped
    · obtain ⟨later, found, same⟩ := Option.map_eq_some_iff.mp stepped
      subst same
      obtain ⟨_, stopped, sent, _⟩ := ended.buffer found
      exact .unless (stopped.trans quiet.stopped) (sent.trans quiet.sent)
        (fun _ same => by cases same) rfl
    · cases stepped
  | awaitReady =>
    simp only [Steps, DeliveryLane.step, wait] at stepped
    split at stepped
    · split at stepped
      · cases stepped
        exact .unless quiet.stopped quiet.sent (fun _ same => by cases same) rfl
      · cases stepped
    · cases stepped
  | cancel =>
    simp only [Steps, DeliveryLane.step] at stepped
    split at stepped
    · cases stepped
      exact .unless quiet.stopped quiet.sent (fun _ same => by cases same) rfl
    · cases stepped
  | _ => cases receives

/-- Whether steps of receives lead from one state of the lane to another. -/
def Receives (record : String → String → String → Content) (lane later : DeliveryLane Content) :
    Prop :=
  ∃ choices, choices ≠ [] ∧ (∀ choice ∈ choices, choice.isReceive = true) ∧
    Run (Steps record) lane choices later

/-- A step of a receive in front of others. -/
theorem Receives.cons {choice : LaneChoice Content} {later : DeliveryLane Content}
    (stepped : lane.Steps record choice next) (receives : choice.isReceive = true)
    (further : next = later ∨ Receives record next later) : Receives record lane later := by
  -- The receive goes on with the rest, or it ended before it.
  rcases further with same | ⟨choices, _, all, run⟩
  · subst same
    refine ⟨[choice], by simp, fun other member => ?_, .cons stepped (.nil _)⟩
    rw [List.mem_singleton.mp member]
    exact receives
  · refine ⟨choice :: choices, by simp, fun other member => ?_, .cons stepped run⟩
    rcases List.mem_cons.mp member with same | member
    · rw [same]
      exact receives
    · exact all other member

/-- Receives after receives. -/
theorem Receives.trans {middle later : DeliveryLane Content} (left : Receives record lane middle)
    (right : Receives record middle later) : Receives record lane later := by
  obtain ⟨before, some, firsts, run⟩ := left
  obtain ⟨after, _, lasts, further⟩ := right
  refine ⟨before ++ after, by simp [some], fun choice member => ?_, run.append further⟩
  rcases List.mem_append.mp member with first | last
  · exact firsts choice first
  · exact lasts choice last

/-- Receives keep what they find out while nothing is sent. -/
theorem Quiet.run {choices : List (LaneChoice Content)} {later : DeliveryLane Content}
    (run : Run (Steps record) lane choices later)
    (receives : ∀ choice ∈ choices, choice.isReceive = true) (ended : lane.Ended)
    (quiet : lane.Quiet sent) : later.Quiet sent := by
  induction run with
  | nil => exact quiet
  | cons taken _ ih =>
    apply ih
    · exact fun choice member => receives choice (List.mem_cons_of_mem _ member)
    · exact ended.step taken
    · exact quiet.step taken (receives _ List.mem_cons_self) ended

/-- Once sends have stopped, receives that end up finding nothing leave nothing. -/
theorem Receives.empty {later : DeliveryLane Content} (ended : lane.Ended)
    (stopped : lane.sendsStopped = true) (resting : lane.isResting = true)
    (receives : Receives record lane later) (found : later.foundNothing = true) :
    later.IsEmpty ∧ later.sent = lane.sent := by
  obtain ⟨choices, some, all, run⟩ := receives
  cases run with
  | nil => exact absurd rfl some
  | @cons _ next _ choice rest taken further =>
    -- The first step starts a receive, whatever the last one had found.
    have started : ∃ waits, next = { lane with receiver := .counting waits } := by
      unfold isResting at resting
      split at resting
      · rename_i rests
        have receive := all choice List.mem_cons_self
        cases choice with
        | receive waits =>
          simp only [Steps, DeliveryLane.step] at taken
          split at taken
          · exact ⟨waits, (Option.some.inj taken).symm⟩
          · cases taken
        | receiver => simp [Steps, DeliveryLane.step, receiveOn, rests] at taken
        | awaitOrdered => simp [Steps, DeliveryLane.step, wait, rests] at taken
        | awaitReady => simp [Steps, DeliveryLane.step, wait, rests] at taken
        | cancel => simp [Steps, DeliveryLane.step, rests] at taken
        | _ => cases receive
      · cases resting
    obtain ⟨waits, started⟩ := started
    have fresh : next.Quiet lane.sent := by
      subst started
      exact .unless stopped rfl (fun _ same => by cases same) rfl
    have quiet := fresh.run further (fun choice member => all choice (List.mem_cons_of_mem _ member))
      (ended.step taken)
    exact ⟨quiet.nothing found, quiet.sent⟩

/-- How a try ends: it found nothing, or there is less to do. -/
def Tried (lane later : DeliveryLane Content) : Prop :=
  later.isResting = true ∧ later.sendsStopped = lane.sendsStopped ∧
    (later.foundNothing = true ∨ later.load < lane.load)

/-- Delivering one more entry leaves less to do. -/
theorem Sound.load_lt (after : next.Sound) {entry : DeliveryEntry Content}
    (delivered : next.delivered = lane.delivered ++ [entry]) (same : next.sent = lane.sent)
    (logs : next.droppedLogs - next.reportedDroppedLogs =
      lane.droppedLogs - lane.reportedDroppedLogs) : next.load < lane.load := by
  have fewer : next.delivered.length ≤ next.sent.length :=
    (List.subperm_of_subset after.cargo.once after.cargo.handed).length_le
  rw [delivered, same] at fewer
  simp only [load, delivered, same, logs]
  simp only [List.length_append, List.length_singleton] at fewer ⊢
  omega

/-- A try that returns what is in the buffer, or finds none, leaves less to do or nothing. -/
theorem Sound.tried_buffered (sound : lane.Sound)
    (stepped : lane.Steps record .receiver (lane.tryBuffered false)) :
    Tried lane (lane.tryBuffered false) := by
  have after := (sound.step stepped).2
  cases buffer : lane.bufferedOrdered with
  | some entry =>
    simp only [tryBuffered, buffer] at after ⊢
    exact ⟨rfl, rfl, .inr (after.load_lt rfl rfl rfl)⟩
  | none =>
    simp only [tryBuffered, buffer]
    cases lane.orderedClosed <;> exact ⟨rfl, rfl, .inl rfl⟩

/-- A try that has looked at the ordered channel ends. -/
theorem Sound.tried_peeking (sound : lane.Sound) (peeks : lane.receiver = .peeking false) :
    ∃ later, Receives record lane later ∧ Tried lane later := by
  cases first : lane.snapshots.nextSequence with
  | none =>
    have stepped : lane.Steps record .receiver (lane.tryBuffered false) := by
      simp only [Steps, DeliveryLane.step, receiveOn, peeks, first]
    exact ⟨_, .cons stepped rfl (.inl rfl), sound.tried_buffered stepped⟩
  | some sequence =>
    by_cases precedes : lane.precedesOrdered sequence = true
    · have stepped : lane.Steps record .receiver { lane with receiver := .taking false sequence } := by
        simp only [Steps, DeliveryLane.step, receiveOn, peeks, first, if_pos precedes]
      -- Nothing is sent, so the snapshot that was seen is still there.
      obtain ⟨kind, seen, held, same⟩ := Slots.next_mem first
      have there := @Slots.take_ne_none _ _ _ _ DeliveryEntry.sequence SnapshotKind.mem_all
        lane.snapshots kind seen held
      rw [same] at there
      obtain ⟨⟨entry, left⟩, taken⟩ := Option.ne_none_iff_exists'.mp there
      replace taken : lane.snapshots.takeSequence sequence = some (entry, left) := taken
      let later : DeliveryLane Content := { lane with
        snapshots := left
        receiver := .resting (some (.message entry.message))
        delivered := lane.delivered ++ [entry] }
      have takes : Steps record { lane with receiver := .taking false sequence } .receiver later := by
        simp only [Steps, DeliveryLane.step, receiveOn, taken]
        rfl
      have after : later.Sound := ((sound.step stepped).2.step takes).2
      exact ⟨later, .cons stepped rfl (.inr (.cons takes rfl (.inl rfl))), rfl, rfl,
        .inr (after.load_lt rfl rfl rfl)⟩
    · have stepped : lane.Steps record .receiver (lane.tryBuffered false) := by
        simp only [Steps, DeliveryLane.step, receiveOn, peeks, first, if_neg precedes]
      exact ⟨_, .cons stepped rfl (.inl rfl), sound.tried_buffered stepped⟩

/-- A try with nothing sent ends, having found nothing or leaving less to do. -/
theorem Sound.tries (sound : lane.Sound) (ended : lane.Ended)
    (resting : lane.isResting = true) : ∃ later, Receives record lane later ∧ Tried lane later := by
  -- A try counts what was dropped, looks, and then delivers or gives up.
  have starts : lane.Steps record (.receive false) { lane with receiver := .counting false } := by
    simp only [Steps, DeliveryLane.step, if_pos resting]
  by_cases reported : lane.droppedLogs - lane.reportedDroppedLogs = 0
  · have counts : Steps record { lane with receiver := .counting false } .receiver
        { lane with receiver := .looking false } := by
      simp only [Steps, DeliveryLane.step, receiveOn, if_pos reported]
    obtain ⟨peeking, looks⟩ : ∃ peeking, Steps record { lane with receiver := .looking false }
        .receiver peeking := by
      simp only [Steps, DeliveryLane.step, receiveOn]
      split <;> exact ⟨_, rfl⟩
    have before := ((sound.step starts).2.step counts).2
    obtain ⟨_, same, _, sameLoad, peeks, _⟩ :=
      @Ended.look _ record _ _ ((ended.step starts).step counts) false rfl looks
    obtain ⟨later, receives, rests, idle, less⟩ := (before.step looks).2.tried_peeking peeks
    refine ⟨later, .cons starts rfl (.inr (.cons counts rfl (.inr (.cons looks rfl
      (.inr receives))))), rests, idle.trans same, ?_⟩
    have kept : peeking.load = lane.load := sameLoad
    rw [← kept]
    exact less
  · have counts : Steps record { lane with receiver := .counting false } .receiver
        { lane with
          reportedDroppedLogs := lane.droppedLogs
          receiver := .resting (some (.message (droppedLogSummary record
            (lane.droppedLogs - lane.reportedDroppedLogs)))) } := by
      simp only [Steps, DeliveryLane.step, receiveOn, if_neg reported]
      rfl
    refine ⟨_, .cons starts rfl (.inr (.cons counts rfl (.inl rfl))), rfl, rfl, .inr ?_⟩
    simp only [load]
    omega

/-- Once sends have stopped, receives can be repeated until one finds nothing. -/
theorem Sound.drains (sound : lane.Sound) (ended : lane.Ended) (stopped : lane.sendsStopped = true)
    (resting : lane.isResting = true) :
    ∃ later, Receives record lane later ∧ later.foundNothing = true := by
  -- Every try leaves less to do, until one finds nothing.
  induction todo : lane.load using Nat.strong_induction_on generalizing lane with
  | _ amount ih =>
    obtain ⟨middle, receives, rests, idle, found | less⟩ :=
      @Sound.tries _ record lane sound ended resting
    · exact ⟨middle, receives, found⟩
    · obtain ⟨choices, _, _, run⟩ := id receives
      obtain ⟨soundToo, endedToo⟩ : middle.Sound ∧ middle.Ended :=
        run.invariant (fun lane => lane.Sound ∧ lane.Ended)
          (fun taken before => ⟨(before.1.step taken).2, before.2.step taken⟩) ⟨sound, ended⟩
      obtain ⟨later, further, found⟩ := ih middle.load (by omega) soundToo endedToo
        (idle.trans stopped) rests rfl
      exact ⟨later, receives.trans further, found⟩

/-- The newest snapshot of a kind among those that were sent. -/
def Newest (sent : List (DeliveryEntry Content)) (kind : SnapshotKind)
    (entry : DeliveryEntry Content) : Prop :=
  entry ∈ sent ∧ entry.kind = some kind ∧
    ∀ other ∈ sent, other.kind = some kind → other.sequence ≤ entry.sequence

/-- What the lane promises of what it delivered, apart from the order. -/
structure Lossless (record : String → String → String → Content) (lane : DeliveryLane Content) :
    Prop where
  /-- Sequences are taken in the order of the sends. -/
  sent : lane.sent.Pairwise fun first second => first.sequence < second.sequence
  /-- Only what was sent is delivered, and once. -/
  once : (∀ entry ∈ lane.delivered, entry ∈ lane.sent) ∧ lane.delivered.Nodup
  /-- The ordered events are delivered in order, all but those in the buffer and the channel. -/
  events : orderedEvents lane.sent =
    orderedEvents lane.delivered ++ (lane.bufferedOrdered.toList ++ lane.ordered)
  /-- A snapshot that was not delivered is pending, or was replaced by a newer one of its kind. -/
  dropped : ∀ kind, ∀ entry ∈ lane.sent, entry.kind = some kind → entry ∉ lane.delivered →
    lane.snapshots.slot kind = some entry ∨ ∃ newer ∈ lane.sent, (entry, newer) ∈ lane.replaced ∧
      newer.kind = some kind ∧ entry.sequence < newer.sequence
  /-- Once sends have stopped, receives can go on until one finds nothing; and when one does, every
  ordered event and the newest snapshot of each kind have been delivered. -/
  drained : lane.sendsStopped = true → lane.isResting = true →
    (∃ later, Receives record lane later ∧ later.foundNothing = true) ∧
    ∀ later, Receives record lane later → later.foundNothing = true →
      orderedEvents later.delivered = orderedEvents lane.sent ∧
        ∀ kind entry, Newest lane.sent kind entry → entry ∈ later.delivered

/-- A lane that is sound loses nothing. -/
theorem Sound.lossless (sound : lane.Sound) (ended : lane.Ended) : lane.Lossless record where
  -- A snapshot that is missing was replaced by a newer one, which is delivered or held.
  sent := sound.cargo.sorted
  once := ⟨sound.cargo.handed, sound.cargo.once⟩
  events := sound.cargo.events
  dropped kind entry member snapshot missing := by
    rcases sound.cargo.kept kind entry member snapshot with delivered | held | ⟨newer, logged⟩
    · exact absurd delivered missing
    · exact .inl held
    · obtain ⟨sent, same, later⟩ := sound.cargo.newer entry newer logged
      exact .inr ⟨newer, sent, logged, same.trans snapshot, later⟩
  drained stopped resting := by
    refine ⟨sound.drains ended stopped resting, fun later receives found => ?_⟩
    obtain ⟨⟨channel, slots⟩, same⟩ := receives.empty ended stopped resting found
    obtain ⟨choices, _, _, run⟩ := receives
    have after : later.Sound := run.invariant Sound (fun taken before => (before.step taken).2) sound
    constructor
    · have events := after.cargo.events
      rw [channel, List.append_nil] at events
      rw [← same]
      exact events.symm
    · rintro kind entry ⟨member, snapshot, newest⟩
      rw [← same] at member newest
      rcases after.cargo.kept kind entry member snapshot with delivered | held | ⟨newer, logged⟩
      · exact delivered
      · replace held : later.snapshots.slot kind = some entry := held
        rw [slots kind] at held
        cases held
      · -- What replaced it would be newer.
        obtain ⟨sent, alike, behind⟩ := after.cargo.newer entry newer logged
        have before := newest newer sent (alike.trans snapshot)
        omega

/--
In every run in which every step is careful, whatever is sent and however the steps of the producer
and of the consumer interleave, entries are delivered in increasing sequence, every ordered event is
delivered exactly once, a snapshot is dropped only for a newer one of its kind, and draining the
lane delivers the newest snapshot of each kind.
-/
theorem client_delivery (record : String → String → String → Content)
    {choices : List (LaneChoice Content)} {lane : DeliveryLane Content}
    (run : Run (CarefulSteps record) {} choices lane) :
    (lane.delivered.Pairwise fun first second => first.sequence < second.sequence) ∧
      lane.Lossless record := by
  have kept : lane.Sound ∧ lane.Ended ∧ lane.cargo.InOrder :=
    run.invariant (fun lane => lane.Sound ∧ lane.Ended ∧ lane.cargo.InOrder)
      (fun stepped before => ⟨(before.1.step stepped.1).2, before.2.1.step stepped.1,
        before.1.inOrder stepped before.2.2⟩)
      ⟨.start, .start, .nil, fun _ member => by cases member⟩
  exact ⟨kept.2.2.increasing, kept.1.lossless kept.2.1⟩

/-- A run of the test content, in which log records are content zero. -/
private def logContent (_ _ _ : String) : Nat := 0

/-- An event and a snapshot are sent between the two looks of a try. -/
private def betweenLooks : List (LaneChoice Nat) :=
  [.receive false, .receiver, .receiver, .send (.notify 1), .sender, .sender, .sender,
    .send (.heartbeat 2), .sender, .sender, .sender, .receiver, .receiver, .receive false,
    .receiver, .receiver, .receiver]

/-- A try that finds the ordered channel empty delivers a snapshot before the event that was sent
ahead of it. -/
theorem client_delivery_overtaken :
    ∃ choices lane, Run (Steps logContent) ({} : DeliveryLane Nat) choices lane ∧
      ¬ lane.delivered.Pairwise fun first second => first.sequence < second.sequence := by
  obtain ⟨lane, seen, run⟩ := Run.of_foldlM (DeliveryLane.step logContent) {} betweenLooks
    (fun lane => lane.delivered.map DeliveryEntry.sequence) [1, 0] (by decide +kernel)
  refine ⟨betweenLooks, lane, run, fun increasing => ?_⟩
  have sorted := List.pairwise_map.mpr increasing
  rw [seen] at sorted
  simp at sorted

/-- The steps of the test run but those that take a snapshot before an earlier event. -/
private def patientStep (lane : DeliveryLane Nat) (choice : LaneChoice Nat) :
    Option (DeliveryLane Nat) :=
  match lane.receiver with
  | .taking _ sequence =>
    if lane.ordered.all fun entry => decide (sequence < entry.sequence) then
      lane.step logContent choice
    else none
  | _ => lane.step logContent choice

/-- Such steps are careful. -/
private theorem patientStep_careful {lane next : DeliveryLane Nat} {choice : LaneChoice Nat}
    (stepped : lane.patientStep choice = some next) : CarefulSteps logContent lane choice next := by
  -- Only taking a snapshot needs care, and there the step looks at the whole channel.
  unfold patientStep at stepped
  split at stepped
  · rename_i waits sequence taking
    obtain ⟨later, stepped⟩ := Option.ite_none_right_eq_some.mp stepped
    refine ⟨stepped, ?_⟩
    cases choice with
    | receiver =>
      intro waits' sequence' same _ _ entry member
      cases taking.symm.trans same
      exact of_decide_eq_true (List.all_eq_true.mp later entry member)
    | _ => trivial
  · rename_i elsewhere
    refine ⟨stepped, ?_⟩
    cases choice with
    | receiver => exact fun waits sequence taking => absurd taking (elsewhere waits sequence)
    | _ => trivial

/-- A message is sent. -/
private def sending (message : UiMessage Nat) : List (LaneChoice Nat) :=
  [.send message, .sender, .sender, .sender]

/-- Two events are sent, and between them a snapshot and one that replaces it; then three messages
are received. -/
private def received : List (LaneChoice Nat) :=
  sending (.notify 1) ++ sending (.heartbeat 2) ++ sending (.heartbeat 3) ++ sending (.notify 4) ++
    [.receive false, .receiver, .receiver, .receiver, .receive false, .receiver, .receiver,
      .receiver, .receiver, .receive false, .receiver, .receiver, .receiver]

/-- The conclusion at a run that delivers both events, and the newer snapshot between them. -/
theorem client_delivery_once :
    ∃ lane, Run (CarefulSteps logContent) ({} : DeliveryLane Nat) received lane ∧
      lane.delivered.map DeliveryEntry.sequence = [0, 2, 3] ∧
      (lane.delivered.Pairwise fun first second => first.sequence < second.sequence) ∧
      lane.Lossless logContent := by
  obtain ⟨lane, seen, run⟩ := Run.of_foldlM patientStep ({} : DeliveryLane Nat) received
    (fun lane => lane.delivered.map DeliveryEntry.sequence) [0, 2, 3] (by decide +kernel)
  have careful := run.mono patientStep_careful
  exact ⟨lane, careful, seen, client_delivery logContent careful⟩

end DeliveryLane

end Hotki.Client

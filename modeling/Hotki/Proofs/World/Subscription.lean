import Hotki.Proofs.World.Polling
import Hotki.World.Subscription

/-! Following the focus: a subscriber that has received everything holds the focus of the world. -/

namespace Hotki

open Base

/-- The focus after an event, for one who had a focus before it. -/
def WorldEvent.after (focus : Option FocusSnapshot) : WorldEvent → Option FocusSnapshot
  | .focusChanged change => change.focus
  | .displaysChanged => focus

/-- The focus after events, for one who had a focus before them. -/
def followEvents (focus : Option FocusSnapshot) (events : List WorldEvent) :
    Option FocusSnapshot :=
  events.foldl WorldEvent.after focus

/-- Events are followed one part after the other. -/
theorem followEvents_append (focus : Option FocusSnapshot) (events more : List WorldEvent) :
    followEvents focus (events ++ more) = followEvents (followEvents focus events) more :=
  List.foldl_append

/-- Events lead everybody to the same focus, or leave everybody with their own. -/
theorem followEvents_cases (events : List WorldEvent) :
    (∀ focus, followEvents focus events = focus) ∨
      ∃ final, ∀ focus, followEvents focus events = final := by
  induction events with
  | nil => exact .inl fun _ => rfl
  | cons event rest ih =>
    cases event with
    | focusChanged change => exact .inr ⟨followEvents change.focus rest, fun _ => rfl⟩
    | displaysChanged => exact ih

/-- Whoever has followed events stays where they are when following them again. -/
theorem followEvents_again (focus : Option FocusSnapshot) (events : List WorldEvent) :
    followEvents (followEvents focus events) events = followEvents focus events := by
  rcases followEvents_cases events with same | ⟨final, same⟩
  · exact same _
  · rw [same, same]

/-- The events of an update that a stage of the poll loop is still to publish. -/
def PollStage.unpublished {Displays : Type} : PollStage Displays → List WorldEvent
  | .publishing _ events => events
  | _ => []

/-- What a step of the polling world does to the focus and to the events that tell of it. -/
inductive FocusMoves {Displays : Type} (world next : PollingWorld Displays) : Prop where
  | same (hub : next.hub = world.hub)
      (unpublished : next.stage.unpublished = world.stage.unpublished)
      (focus : next.state.focus = world.state.focus)
  | published (event : WorldEvent) (hub : next.hub = world.hub.send event)
      (unpublished : world.stage.unpublished = event :: next.stage.unpublished)
      (focus : next.state.focus = world.state.focus)
  | updated (hub : next.hub = world.hub) (unpublished : world.stage.unpublished = [])
      (follows : followEvents world.state.focus next.stage.unpublished = next.state.focus)
      (told : ∀ change, .focusChanged change ∈ next.stage.unpublished →
        change.focus = next.state.focus)

section Updates

variable {Displays : Type} [BEq Displays]

/-- The events of an update lead from the focus before it to the focus after it. -/
theorem WorldState.applyPollUpdate_follow (data : WorldState Displays)
    (update : WorldPollUpdate Displays) (lastTickMs currentPollMs : Nat) :
    followEvents data.focus (data.applyPollUpdate update lastTickMs currentPollMs).1.events =
      (data.applyPollUpdate update lastTickMs currentPollMs).2.focus := by
  by_cases changed : data.focused ≠ update.focused ∨ data.focus ≠ update.focus
  · -- A change is told with the focus after it, whatever is told of the displays before.
    simp only [applyPollUpdate, WorldPollChanges.events, if_pos changed, followEvents_append]
    cases update.focus <;> rfl
  · obtain ⟨_, same⟩ := not_or.mp changed
    have focus : data.focus = update.focus := not_not.mp same
    show followEvents data.focus (data.applyPollUpdate update lastTickMs currentPollMs).1.events =
      update.focus
    rw [← focus]
    simp only [applyPollUpdate, WorldPollChanges.events, if_neg changed]
    split <;> rfl

/-- Changes tell of a focus by at most one event. -/
theorem WorldPollChanges.mem_events {changes : WorldPollChanges} {change : FocusChange} :
    .focusChanged change ∈ changes.events ↔ changes.focusChanged = some change := by
  unfold events
  cases changes.displaysChanged <;> simp

/-- The events of an update tell no focus but the one after it. -/
theorem WorldState.applyPollUpdate_told (data : WorldState Displays)
    (update : WorldPollUpdate Displays) (lastTickMs currentPollMs : Nat) {change : FocusChange}
    (told : .focusChanged change ∈
      (data.applyPollUpdate update lastTickMs currentPollMs).1.events) :
    change.focus = (data.applyPollUpdate update lastTickMs currentPollMs).2.focus := by
  rw [WorldPollChanges.mem_events] at told
  simp only [applyPollUpdate] at told ⊢
  split at told <;> cases told
  cases update.focus <;> rfl

/-- Every step of the polling world is one of these. -/
theorem PollingWorld.Steps.focus [Inhabited Displays] {world next : PollingWorld Displays}
    {choice : PollChoice Displays} (stepped : world.Steps choice next) :
    FocusMoves world next := by
  obtain ⟨moved, went, same⟩ := Option.map_eq_some_iff.mp stepped
  subst same
  cases choice with
  | loop =>
    replace went : world.stepLoop = some moved := went
    unfold PollingWorld.stepLoop at went
    split at went
    case h_3 =>
      -- Only here the state changes, with the events to be published.
      rename_i generation began platform elapsed stage
      cases went
      exact .updated rfl (by rw [stage]; rfl)
        (world.state.applyPollUpdate_follow (worldPollUpdate platform) elapsed world.intervalMs)
        fun _ => world.state.applyPollUpdate_told (worldPollUpdate platform) elapsed world.intervalMs
    -- An event is sent that was to be published.
    case h_4 =>
      rename_i generation event rest stage
      cases went
      exact .published event rfl (by rw [stage]; rfl) rfl
    case h_7 =>
      rename_i stage
      split at went <;> cases went <;> exact .same rfl (by rw [stage]; rfl) rfl
    case h_8 =>
      rename_i stage
      split at went <;> cases went
      exact .same rfl (by rw [stage]; rfl) rfl
    all_goals cases went
    all_goals rename_i stage
    all_goals exact .same rfl (by rw [stage]; rfl) rfl
  | captured platform elapsed =>
    simp only [move] at went
    split at went <;> cases went
    rename_i stage
    exact .same rfl (by rw [stage]; rfl) rfl
  | dropped =>
    simp only [move] at went
    split at went <;> cases went
    rename_i stage
    exact .same rfl (by rw [stage]; rfl) rfl
  | timer =>
    simp only [move] at went
    split at went <;> cases went
    rename_i stage
    exact .same rfl (by rw [stage]; rfl) rfl
  | refresh =>
    cases went
    exact .same rfl rfl rfl
  | caller index =>
    obtain ⟨caller, found, rest⟩ := Option.bind_eq_some_iff.mp went
    obtain ⟨⟨tuner, after⟩, taken, same⟩ := Option.bind_eq_some_iff.mp rest
    cases same
    exact .same rfl rfl rfl
  | gone index =>
    obtain ⟨caller, found, rest⟩ := Option.bind_eq_some_iff.mp went
    split at rest <;> cases rest
    exact .same rfl rfl rfl

end Updates

namespace PollingWorld

variable {Displays : Type}

/-- Whoever holds a focus and has yet to receive what follows a position will get to the focus of
the world. -/
def Leads (world : PollingWorld Displays) (receiver : Nat) (held : Option FocusSnapshot) : Prop :=
  followEvents held (world.hub.pending receiver ++ world.stage.unpublished) = world.state.focus

/-- What was heard since a position and what is still pending is all that was sent since then. -/
def HeardAll (world : PollingWorld Displays) (since : Nat) (heard : List WorldEvent)
    (receiver : Nat) : Prop :=
  heard ++ world.hub.pending receiver = world.hub.pending since

end PollingWorld

section Moves

variable {Displays : Type} {world next : PollingWorld Displays}

/-- Positions of the channel stay behind its end. -/
theorem FocusMoves.within (moves : FocusMoves world next) {position : Nat}
    (within : position ≤ world.hub.sent.length) : position ≤ next.hub.sent.length := by
  cases moves with
  | same hub => rwa [hub]
  | published event hub =>
    rw [hub]
    simp only [Broadcast.send, List.length_append]
    omega
  | updated hub => rwa [hub]

/-- Whatever moves in the world, who would get to its focus still does. -/
theorem FocusMoves.leads (moves : FocusMoves world next) {receiver : Nat}
    (within : receiver ≤ world.hub.sent.length) {held : Option FocusSnapshot}
    (leads : world.Leads receiver held) : next.Leads receiver held := by
  unfold PollingWorld.Leads at leads ⊢
  cases moves with
  | same hub unpublished focus =>
    rw [hub, unpublished, focus]
    exact leads
  | published event hub unpublished focus =>
    -- The event moves from those to be published to those to be received.
    rw [hub, focus, Broadcast.pending_send _ within, List.append_assoc, List.singleton_append,
      ← unpublished]
    exact leads
  | updated hub unpublished follows =>
    rw [unpublished, List.append_nil] at leads
    rw [hub, followEvents_append, leads]
    exact follows

/-- Where anyone gets to the focus of the world, that focus gets to itself. -/
theorem PollingWorld.Leads.self {receiver : Nat} {held : Option FocusSnapshot}
    (leads : world.Leads receiver held) : world.Leads receiver world.state.focus := by
  unfold PollingWorld.Leads at leads ⊢
  rw [← leads]
  exact followEvents_again held _

/-- Whatever moves in the world, nothing is missing from what was heard and what is pending. -/
theorem FocusMoves.heard (moves : FocusMoves world next) {since receiver : Nat}
    {heard : List WorldEvent} (began : since ≤ world.hub.sent.length)
    (within : receiver ≤ world.hub.sent.length) (all : world.HeardAll since heard receiver) :
    next.HeardAll since heard receiver := by
  -- What is published is put into the hub, where the subscriber will find it.
  unfold PollingWorld.HeardAll at all ⊢
  cases moves with
  | same hub =>
    rw [hub]
    exact all
  | published event hub =>
    rw [hub, Broadcast.pending_send _ within, Broadcast.pending_send _ began, ← List.append_assoc,
      all]
  | updated hub =>
    rw [hub]
    exact all

end Moves

namespace Followed

variable {Displays : Type}

/-- What holds in every state of a subscriber. -/
structure Tracks (state : Followed Displays) : Prop where
  retains : 0 < state.world.hub.capacity
  told : state.world.Leads 0 none
  began : state.since ≤ state.world.hub.sent.length
  /-- From a subscription on, the focus of the world and what is yet to come agree. -/
  seeding : ∀ cursor, state.stage = .seeding cursor → cursor.lostCount = 0 ∧
    cursor.receiver ≤ state.world.hub.sent.length ∧
    state.world.Leads cursor.receiver state.world.state.focus ∧
    state.world.HeardAll state.since state.heard cursor.receiver
  applying : ∀ cursor lastLost focus, state.stage = .applying cursor lastLost focus →
    cursor.lostCount = 0 ∧ lastLost = 0 ∧ cursor.receiver ≤ state.world.hub.sent.length ∧
    state.world.Leads cursor.receiver focus ∧
    state.world.HeardAll state.since state.heard cursor.receiver
  /-- A subscriber that lost something has an event left to receive, and will start again. -/
  reading : ∀ cursor lastLost, state.stage = .reading cursor lastLost → lastLost = 0 ∧
    cursor.receiver ≤ state.world.hub.sent.length ∧
    (cursor.lostCount = 0 → state.world.Leads cursor.receiver state.held ∧
      state.world.HeardAll state.since state.heard cursor.receiver) ∧
    (0 < cursor.lostCount → cursor.receiver < state.world.hub.sent.length)

/-- Whatever moves in the world, the subscriber keeps track of it. -/
theorem Tracks.world {state : Followed Displays} (tracks : state.Tracks)
    {world : PollingWorld Displays} (moves : FocusMoves state.world world)
    (capacity : world.hub.capacity = state.world.hub.capacity) :
    Tracks { state with world } where
  -- The world moves without the subscriber, whose cursor keeps what is still to come.
  retains := by
    rw [capacity]
    exact tracks.retains
  told := moves.leads (Nat.zero_le _) tracks.told
  began := moves.within tracks.began
  seeding cursor stage := by
    obtain ⟨lost, within, leads, heard⟩ := tracks.seeding cursor stage
    exact ⟨lost, moves.within within, (moves.leads within leads).self,
      moves.heard tracks.began within heard⟩
  applying cursor lastLost focus stage := by
    obtain ⟨lost, last, within, leads, heard⟩ := tracks.applying cursor lastLost focus stage
    exact ⟨lost, last, moves.within within, moves.leads within leads,
      moves.heard tracks.began within heard⟩
  reading cursor lastLost stage := by
    obtain ⟨last, within, follows, lagged⟩ := tracks.reading cursor lastLost stage
    refine ⟨last, moves.within within, ?_, ?_⟩
    · intro none
      exact ⟨moves.leads within (follows none).1, moves.heard tracks.began within (follows none).2⟩
    · intro lost
      exact moves.within (lagged lost)

/-- What a cursor finds when it looks for the next event. -/
theorem look_cases (cursor : EventCursor) {hub : Broadcast WorldEvent} (retains : 0 < hub.capacity) :
    (∃ event, cursor.look hub = (some event, { cursor with receiver := cursor.receiver + 1 }) ∧
      cursor.receiver + 1 ≤ hub.sent.length ∧
      hub.pending cursor.receiver = event :: hub.pending (cursor.receiver + 1)) ∨
    (∃ after, cursor.look hub = (none, after) ∧ 0 < after.lostCount ∧
      after.receiver < hub.sent.length) ∨
    cursor.look hub = (none, cursor) := by
  unfold EventCursor.look
  split
  · rename_i event receiver got
    obtain ⟨same, within, pending⟩ := Broadcast.recv_value got
    subst same
    exact .inl ⟨event, rfl, within, pending⟩
  · rename_i missed receiver got
    obtain ⟨some, left⟩ := Broadcast.recv_lagged retains got
    refine .inr (.inl ⟨_, rfl, ?_, left⟩)
    -- A saturated count of lost events is still positive.
    show 0 < min (cursor.lostCount + missed) u64Max
    have large : 0 < u64Max := by decide
    omega
  · rename_i receiver got
    rw [Broadcast.recv_empty got]
    exact .inr (.inr rfl)

/-- The subscriber keeps track of the world when it receives an event. -/
theorem Tracks.received {world : PollingWorld Displays} {held : Option FocusSnapshot} {since : Nat}
    {heard : List WorldEvent} (retains : 0 < world.hub.capacity) (told : world.Leads 0 none)
    (began : since ≤ world.hub.sent.length) {cursor : EventCursor} {event : WorldEvent}
    (looked : cursor.look world.hub = (some event, { cursor with receiver := cursor.receiver + 1 }))
    (inside : cursor.receiver + 1 ≤ world.hub.sent.length)
    (pending : world.hub.pending cursor.receiver =
      event :: world.hub.pending (cursor.receiver + 1))
    (follows : cursor.lostCount = 0 → world.Leads cursor.receiver held ∧
      world.HeardAll since heard cursor.receiver) :
    (Followed.follow ⟨world, .reading cursor 0, held, since, heard⟩).Tracks := by
  -- The event was the next one; with nothing lost it leads from the focus known so far.
  have moved : Followed.follow ⟨world, .reading cursor 0, held, since, heard⟩ =
      ⟨world, .take { cursor with receiver := cursor.receiver + 1 } 0 event, held, since,
        heard ++ [event]⟩ := by
    simp [Followed.follow, FollowStage.step, Followed.receives, looked]
  rw [moved]
  by_cases lost : cursor.lostCount = 0
  · obtain ⟨leads, all⟩ := follows lost
    -- What was heard and what is unread still make up all that was sent.
    have further : world.HeardAll since (heard ++ [event]) (cursor.receiver + 1) := by
      unfold PollingWorld.HeardAll at all ⊢
      rw [List.append_assoc, List.singleton_append, ← pending]
      exact all
    unfold PollingWorld.Leads at leads
    rw [pending] at leads
    refine ⟨retains, told, began, ?_, ?_, ?_⟩
    · intro other same
      cases event <;> simp [FollowStage.take, lost] at same
    · intro other lastLost focus same
      cases event with
      | displaysChanged => simp [FollowStage.take, lost] at same
      | focusChanged change =>
        simp only [FollowStage.take, lost, gt_iff_lt, Nat.lt_irrefl, if_false] at same
        cases same
        exact ⟨rfl, rfl, inside, leads, further⟩
    · intro other lastLost same
      cases event with
      | focusChanged change => simp [FollowStage.take, lost] at same
      | displaysChanged =>
        simp only [FollowStage.take, lost, gt_iff_lt, Nat.lt_irrefl, if_false] at same
        cases same
        refine ⟨rfl, inside, fun _ => ⟨leads, further⟩, fun lagged => ?_⟩
        exact absurd lagged (Nat.lt_irrefl 0)
  · -- Events were lost before this one, and the subscriber starts again.
    have again : FollowStage.take { cursor with receiver := cursor.receiver + 1 } 0 event =
        .subscribing := by
      cases event <;> simp [FollowStage.take, Nat.pos_of_ne_zero lost]
    simp only [again]
    refine ⟨retains, told, began, ?_, ?_, ?_⟩
    · intro other same
      cases same
    · intro other lastLost focus same
      cases same
    · intro other lastLost same
      cases same

/-- The subscriber keeps track of the world when it moves itself. -/
theorem Tracks.follow {state : Followed Displays} (tracks : state.Tracks) :
    state.follow.Tracks := by
  obtain ⟨world, stage, held, since, heard⟩ := state
  obtain ⟨retains, told, began, seeding, applying, reading⟩ := tracks
  simp only at retains told began seeding applying reading
  cases stage with
  | subscribing =>
    -- What was sent before the subscription and what is to be published account for the focus.
    have leads : world.Leads world.hub.subscribe (followEvents none world.hub.sent) := by
      unfold PollingWorld.Leads at told ⊢
      rw [world.hub.pending_subscribe, List.nil_append]
      rwa [Broadcast.pending, List.drop_zero, followEvents_append] at told
    refine ⟨retains, told, Nat.le_refl _, ?_, ?_, ?_⟩
    · intro cursor same
      cases same
      exact ⟨rfl, Nat.le_refl _, leads.self, rfl⟩
    · intro cursor lastLost focus same
      cases same
    · intro cursor lastLost same
      cases same
  -- The seed is the focus the world has, which is what the unread events lead on from.
  | seeding cursor =>
    obtain ⟨lost, within, leads, all⟩ := seeding cursor rfl
    have unheard : world.HeardAll since (heard ++ []) cursor.receiver := by
      rwa [List.append_nil]
    refine ⟨retains, told, began, ?_, ?_, ?_⟩
    · intro other same
      cases same
    · intro other lastLost focus same
      cases same
      exact ⟨lost, lost, within, leads, unheard⟩
    · intro other lastLost same
      cases same
  | applying cursor lastLost focus =>
    obtain ⟨lost, last, within, leads, all⟩ := applying cursor lastLost focus rfl
    have unheard : world.HeardAll since (heard ++ []) cursor.receiver := by
      rwa [List.append_nil]
    refine ⟨retains, told, began, ?_, ?_, ?_⟩
    · intro other same
      cases same
    · intro other lastLost focus same
      cases same
    · intro other lastLost same
      cases same
      refine ⟨last, within, fun _ => ⟨leads, unheard⟩, fun lagged => ?_⟩
      rw [lost] at lagged
      exact absurd lagged (Nat.lt_irrefl 0)
  | reading cursor lastLost =>
    obtain ⟨last, within, follows, lagged⟩ := reading cursor lastLost rfl
    subst last
    rcases look_cases cursor retains with
      ⟨event, looked, inside, pending⟩ | ⟨after, looked, lost, left⟩ | looked
    · exact Tracks.received retains told began looked inside pending follows
    · -- A subscriber that finds it lost something knows nothing until it starts again.
      have moved : Followed.follow ⟨world, .reading cursor 0, held, since, heard⟩ =
          ⟨world, .reading after 0, held, since, heard⟩ := by
        simp [Followed.follow, FollowStage.step, Followed.receives, looked]
      rw [moved]
      refine ⟨retains, told, began, ?_, ?_, ?_⟩
      · intro other same
        cases same
      · intro other lastLost focus same
        cases same
      · intro other lastLost same
        cases same
        refine ⟨rfl, Nat.le_of_lt left, fun none_ => ?_, fun _ => left⟩
        rw [none_] at lost
        exact absurd lost (Nat.lt_irrefl 0)
    · have moved : Followed.follow ⟨world, .reading cursor 0, held, since, heard⟩ =
          ⟨world, .reading cursor 0, held, since, heard⟩ := by
        simp [Followed.follow, FollowStage.step, Followed.receives, looked]
      rw [moved]
      exact ⟨retains, told, began, seeding, applying, reading⟩

section Runs

variable [BEq Displays] [Inhabited Displays]

/-- A polling world keeps the capacity of its hub. -/
theorem steps_capacity {world next : PollingWorld Displays} {choice : PollChoice Displays}
    (stepped : world.Steps choice next) : next.hub.capacity = world.hub.capacity := by
  cases stepped.focus with
  | same hub => rw [hub]
  | published event hub =>
    rw [hub]
    rfl
  | updated hub => rw [hub]

/-- Every step keeps track of the world. -/
theorem Tracks.step {state next : Followed Displays} {choice : FollowChoice Displays}
    (stepped : state.Steps choice next) (tracks : state.Tracks) : next.Tracks := by
  -- The world moves, or the subscriber does.
  cases choice with
  | world choice =>
    obtain ⟨world, moved, same⟩ := stepped
    subst same
    exact tracks.world moved.focus (steps_capacity moved)
  | follow =>
    cases stepped
    exact tracks.follow

omit [BEq Displays] in
/-- A subscriber that is yet to subscribe to a fresh world keeps track of it. -/
theorem Tracks.start (cfg : WorldCfg) (held : Option FocusSnapshot) :
    Tracks ({ world := .spawn cfg, held } : Followed Displays) where
  retains := Nat.pos_of_isPowerOfTwo (Nat.isPowerOfTwo_nextPowerOfTwo _)
  told := rfl
  began := Nat.le_refl _
  seeding cursor same := by cases same
  applying cursor lastLost focus same := by cases same
  reading cursor lastLost same := by cases same

/--
In every run of a polling world and a subscriber, whoever moves, a subscriber that has received
every event holds the focus of the world whenever no update is being published; while it lost
nothing, it received or is yet to receive every event sent since it subscribed; and the events
account for every change of the focus.
-/
theorem focus_followed (cfg : WorldCfg) (held : Option FocusSnapshot)
    {choices : List (FollowChoice Displays)} {state : Followed Displays}
    (run : Run Steps { world := .spawn cfg, held } choices state) :
    (∀ cursor lastLost, state.stage = .reading cursor lastLost →
      cursor.receiver = state.world.hub.sent.length → state.world.stage.unpublished = [] →
      state.held = state.world.state.focus) ∧
    (∀ cursor lastLost, state.stage = .reading cursor lastLost → cursor.lostCount = lastLost →
      state.heard ++ state.world.hub.sent.drop cursor.receiver =
        state.world.hub.sent.drop state.since) ∧
    followEvents none (state.world.hub.sent ++ state.world.stage.unpublished) =
      state.world.state.focus := by
  have tracks : state.Tracks := run.invariant Tracks
    (fun stepped before => before.step stepped) (.start cfg held)
  refine ⟨?_, ?_, tracks.told⟩
  · intro cursor lastLost stage drained settled
    obtain ⟨last, _, follows, lagged⟩ := tracks.reading cursor lastLost stage
    -- Nothing is left to receive, so nothing was lost unnoticed.
    have kept : cursor.lostCount = 0 := by
      by_contra lost
      have left := lagged (Nat.pos_of_ne_zero lost)
      omega
    have leads := (follows kept).1
    rw [PollingWorld.Leads, settled, List.append_nil, Broadcast.pending, drained,
      List.drop_length] at leads
    exact leads
  · intro cursor lastLost stage kept
    obtain ⟨last, _, follows, _⟩ := tracks.reading cursor lastLost stage
    exact (follows (kept.trans last)).2

/-- Steps of a world and its subscriber as a function. -/
private def followStep (state : Followed Unit) : FollowChoice Unit → Option (Followed Unit)
  | .world choice => ((state.world.move choice).map fun moved =>
      { moved with now := state.world.now + 1 }).map fun world => { state with world }
  | .follow => some state.follow

/-- Such steps are steps of a world and its subscriber. -/
private theorem followStep_steps {state next : Followed Unit} {choice : FollowChoice Unit}
    (stepped : followStep state choice = some next) : state.Steps choice next := by
  cases choice with
  | world choice =>
    obtain ⟨world, moved, same⟩ := Option.map_eq_some_iff.mp stepped
    exact ⟨world, moved, same.symm⟩
  | follow => exact (Option.some.inj stepped).symm

/-- A subscriber that subscribed before the first poll, and received the focus it found. -/
theorem focus_followed_once :
    ∃ choices, ∃ state : Followed Unit, Run Steps { world := .spawn {} } choices state ∧
      state.held = some ⟨7, "Editor", "Notes", 3, none⟩ ∧ state.held = state.world.state.focus := by
  -- The subscriber has read everything, so its focus is that of the world.
  let found : PlatformSnapshot Unit :=
    { focused := some ⟨"Editor", "Notes", 3, 7, none⟩, displays := () }
  let choices : List (FollowChoice Unit) := [.follow, .world .loop, .world .loop,
    .world (.captured found 4), .follow, .follow, .world .loop, .world .loop, .follow, .follow]
  obtain ⟨state, seen, run⟩ := Run.of_foldlM followStep { world := .spawn {} } choices
    (fun state => (state.held, state.stage, state.world.hub.sent.length,
      state.world.stage.unpublished))
    (some ⟨7, "Editor", "Notes", 3, none⟩, .reading ⟨0, 1⟩ 0, 1, []) (by decide +kernel)
  simp only [Prod.mk.injEq] at seen
  have steps := run.mono followStep_steps
  have followed := focus_followed {} none steps
  refine ⟨choices, state, steps, seen.1, ?_⟩
  exact followed.1 _ _ seen.2.1 (by rw [seen.2.2.1]) seen.2.2.2

end Runs

end Followed

end Hotki

import Hotki.Proofs.World.Subscription
import Hotki.Engine.WorldSync

/-! Dispatch freshness: what a dispatch resolves against beside the world snapshot it refreshed. -/

namespace Hotki

open Base

/-- The focuses that events tell. -/
def toldFocuses (events : List WorldEvent) : List (Option FocusSnapshot) :=
  events.filterMap fun event =>
    match event with
    | .focusChanged change => some change.focus
    | .displaysChanged => none

/-- A focus is told by events when one of them tells it. -/
theorem mem_toldFocuses {events : List WorldEvent} {focus : Option FocusSnapshot} :
    focus ∈ toldFocuses events ↔ ∃ change, .focusChanged change ∈ events ∧ change.focus = focus := by
  unfold toldFocuses
  rw [List.mem_filterMap]
  constructor
  · rintro ⟨event, listed, told⟩
    cases event with
    | focusChanged change => exact ⟨change, listed, Option.some.inj told⟩
    | displaysChanged => cases told
  · rintro ⟨change, listed, rfl⟩
    exact ⟨.focusChanged change, listed, rfl⟩

/-- The cursor of a subscriber, once it has one. -/
def FollowStage.cursor? : FollowStage → Option EventCursor
  | .subscribing => none
  | .seeding cursor | .applying cursor _ _ | .reading cursor _ => some cursor

/-- The focuses a subscriber has received and not applied yet, and those it has yet to receive. -/
def FollowStage.backlog (hub : Broadcast WorldEvent) (stage : FollowStage) :
    List (Option FocusSnapshot) :=
  let unread := toldFocuses ((stage.cursor?.map fun cursor =>
    hub.pending cursor.receiver).getD [])
  match stage with
  | .applying _ _ focus => focus :: unread
  | _ => unread

/-- A subscriber that looks for an event moves on to later ones. -/
theorem look_pending {cursor after : EventCursor} {hub : Broadcast WorldEvent}
    {found : Option WorldEvent} (looked : cursor.look hub = (found, after)) :
    (∀ event ∈ hub.pending after.receiver, event ∈ hub.pending cursor.receiver) ∧
      ∀ event, found = some event → event ∈ hub.pending cursor.receiver := by
  -- Whether the subscriber finds an event or nothing, what is left comes later.
  unfold EventCursor.look at looked
  split at looked <;> rename_i got <;> cases looked
  · obtain ⟨_, _, pending⟩ := Broadcast.recv_value got
    refine ⟨fun event => Broadcast.recv_pending got, fun event same => ?_⟩
    cases same
    rw [pending]
    exact List.mem_cons_self
  · exact ⟨fun event => Broadcast.recv_pending got, fun event same => by cases same⟩
  · exact ⟨fun event => Broadcast.recv_pending got, fun event same => by cases same⟩

/-- A subscriber that looks for an event is never past the end of the channel. -/
theorem look_within {cursor after : EventCursor} {hub : Broadcast WorldEvent}
    {found : Option WorldEvent} (within : cursor.receiver ≤ hub.sent.length)
    (looked : cursor.look hub = (found, after)) : after.receiver ≤ hub.sent.length := by
  unfold EventCursor.look at looked
  split at looked <;> rename_i got <;> cases looked <;> exact Broadcast.recv_within within got

/-- A subscriber that moves is never past the end of the channel. -/
theorem FollowStage.step_within {Displays : Type} {world : PollingWorld Displays}
    {stage next : FollowStage} {applied : Option (Option FocusSnapshot)}
    (within : ∀ cursor, stage.cursor? = some cursor → cursor.receiver ≤ world.hub.sent.length)
    (stepped : stage.step world = (next, applied)) (cursor : EventCursor)
    (has : next.cursor? = some cursor) : cursor.receiver ≤ world.hub.sent.length := by
  cases stage with
  | subscribing =>
    cases stepped
    cases has
    exact Nat.le_refl _
  | seeding held | applying held _ _ =>
    cases stepped
    cases has
    exact within _ rfl
  | reading held lastLost =>
    simp only [FollowStage.step] at stepped
    split at stepped <;> rename_i looked <;> cases stepped <;>
      have inside := look_within (within held rfl) looked
    · rename_i event after
      -- Whatever it does with the event, it keeps the cursor or starts again.
      cases event <;> simp only [take] at has <;> split at has <;> cases has <;> exact inside
    · cases has
      exact inside

/-- A subscriber that moves gets no older focuses than those it has and the one of the world. -/
theorem FollowStage.step_backlog {Displays : Type} {world : PollingWorld Displays}
    {stage next : FollowStage} {applied : Option (Option FocusSnapshot)}
    (stepped : stage.step world = (next, applied)) :
    (∀ focus ∈ next.backlog world.hub,
      focus ∈ stage.backlog world.hub ∨ focus = world.state.focus) ∧
      ∀ focus, applied = some focus → focus ∈ stage.backlog world.hub := by
  cases stage with
  | subscribing =>
    -- A new subscription has nothing to receive.
    cases stepped
    refine ⟨fun focus told => ?_, fun focus same => by cases same⟩
    simp [backlog, cursor?, EventCursor.subscribe, Broadcast.pending_subscribe, toldFocuses] at told
  -- The seed is the focus of now; what is unread comes after it.
  | seeding cursor =>
    cases stepped
    refine ⟨fun focus told => ?_, fun focus same => by cases same⟩
    rcases List.mem_cons.mp told with seed | unread
    · exact .inr seed
    · exact .inl unread
  | applying cursor lastLost focus =>
    cases stepped
    refine ⟨fun focus unread => .inl (List.mem_cons_of_mem _ unread), fun focus same => ?_⟩
    cases same
    exact List.mem_cons_self
  | reading cursor lastLost =>
    simp only [FollowStage.step] at stepped
    split at stepped <;> rename_i looked <;> cases stepped <;>
      obtain ⟨kept, received⟩ := look_pending looked <;>
      refine ⟨fun focus told => .inl ?_, fun focus same => by cases same⟩
    · -- What it does with the event, it has no more to apply than before.
      rename_i event after
      have unread : ∀ focus ∈ toldFocuses (world.hub.pending after.receiver),
          focus ∈ toldFocuses (world.hub.pending cursor.receiver) := by
        intro focus told
        obtain ⟨change, listed, same⟩ := mem_toldFocuses.mp told
        exact mem_toldFocuses.mpr ⟨change, kept _ listed, same⟩
      cases event with
      | displaysChanged =>
        simp only [take] at told
        split at told
        · cases told
        · exact unread focus told
      | focusChanged change =>
        simp only [take] at told
        split at told
        · cases told
        · rcases List.mem_cons.mp told with now | later
          · exact mem_toldFocuses.mpr ⟨change, received _ rfl, now.symm⟩
          · exact unread focus later
    · obtain ⟨change, listed, same⟩ := mem_toldFocuses.mp told
      exact mem_toldFocuses.mpr ⟨change, kept _ listed, same⟩

/-- What is sent by a step of the world tells no older focus than that of the world. -/
theorem FocusMoves.backlog {Displays : Type} {world next : PollingWorld Displays}
    (moves : FocusMoves world next)
    (told : ∀ change, .focusChanged change ∈ world.stage.unpublished →
      change.focus = world.state.focus) {stage : FollowStage}
    (within : ∀ cursor, stage.cursor? = some cursor → cursor.receiver ≤ world.hub.sent.length) :
    ∀ focus ∈ stage.backlog next.hub,
      focus ∈ stage.backlog world.hub ∨ focus = next.state.focus := by
  cases moves with
  | same hub => rw [hub]; exact fun focus unread => .inl unread
  | updated hub => rw [hub]; exact fun focus unread => .inl unread
  | published event hub unpublished focus =>
    -- The event it sends tells the focus of the world, and comes after all that is pending.
    have further : ∀ cursor : EventCursor, cursor.receiver ≤ world.hub.sent.length →
        ∀ other ∈ toldFocuses (next.hub.pending cursor.receiver),
          other ∈ toldFocuses (world.hub.pending cursor.receiver) ∨ other = next.state.focus := by
      intro cursor behind other listed
      obtain ⟨change, pending, same⟩ := mem_toldFocuses.mp listed
      rw [hub, Broadcast.pending_send _ behind, List.mem_append, List.mem_singleton] at pending
      rcases pending with before | now
      · exact .inl (mem_toldFocuses.mpr ⟨change, before, same⟩)
      · refine .inr ?_
        rw [← same, focus]
        exact told change (by rw [unpublished, now]; exact List.mem_cons_self)
    intro other listed
    cases stage with
    | subscribing => exact .inl listed
    | seeding cursor => exact further cursor (within cursor rfl) other listed
    | reading cursor lastLost => exact further cursor (within cursor rfl) other listed
    | applying cursor lastLost held =>
      rcases List.mem_cons.mp listed with now | later
      · exact .inl (List.mem_cons.mpr (.inl now))
      · exact (further cursor (within cursor rfl) other later).imp_left (List.mem_cons_of_mem held)

/-- What is still to be published keeps telling the focus of the world. -/
theorem FocusMoves.told {Displays : Type} {world next : PollingWorld Displays}
    (moves : FocusMoves world next)
    (told : ∀ change, .focusChanged change ∈ world.stage.unpublished →
      change.focus = world.state.focus) :
    ∀ change, .focusChanged change ∈ next.stage.unpublished →
      change.focus = next.state.focus := by
  -- A published event was the first of those still to be told.
  cases moves with
  | same hub unpublished focus =>
    rw [unpublished, focus]
    exact told
  | published event hub unpublished focus =>
    rw [focus]
    rw [unpublished] at told
    exact fun change left => told change (List.mem_cons_of_mem event left)
  | updated hub unpublished follows told => exact told

/-- What the snapshot of a dispatch is as of, once the dispatch has cached it. -/
def DispatchStage.cachedAsOf : DispatchStage → Option Nat
  | .changed asOf _ | .reading asOf | .resolving asOf _ => some asOf
  | _ => none

/-- What the snapshot of a dispatch is as of, once its own rebind is over. -/
def DispatchStage.boundAsOf : DispatchStage → Option Nat
  | .reading asOf | .resolving asOf _ => some asOf
  | _ => none

namespace WorldSync

variable {Displays : Type}

/-- The focuses the world has had since a moment. -/
def since (state : WorldSync Displays) (asOf : Nat) : List (Option FocusSnapshot) :=
  state.history.drop asOf

/-- The subscription task has nothing on its hands from before a moment: no focus it has yet to
apply or to receive, and no rebind. -/
structure CaughtUp (state : WorldSync Displays) (asOf : Nat) : Prop where
  unread : ∀ focus ∈ state.follow.backlog state.world.hub, focus ∈ state.since asOf
  rebinding : ∀ focus, state.rebind = some (.rebinding focus) → focus ∈ state.since asOf

/-- Whether a dispatch may cache its snapshot: the subscription task has nothing from before the
snapshot on its hands, and a snapshot that is in the cache already was also bound for. -/
def Careful (state : WorldSync Displays) : SyncChoice Displays → Prop
  | .proceed _ => ∀ asOf focus, state.dispatch = .applying asOf focus →
      state.CaughtUp asOf ∧ (state.focusCtx = focus → state.rendered = focus)
  | _ => True

/-- The focus a dispatch resolves with, in its action context and its binding, is not older than the
snapshot it refreshed. -/
def DispatchFresh (state : WorldSync Displays) : Prop :=
  ∀ asOf focus rendered, state.dispatch = .resolved asOf focus rendered →
    focus ∈ state.since asOf ∧ rendered ∈ state.since asOf

/-- What a dispatch keeps since its snapshot. -/
structure Refreshed (state : WorldSync Displays) : Prop where
  /-- The history ends with the focus of the world. -/
  current : state.history[state.history.length - 1]? = some state.world.state.focus
  /-- What is still to be published tells that focus. -/
  told : ∀ change, .focusChanged change ∈ state.world.stage.unpublished →
    change.focus = state.world.state.focus
  within : ∀ cursor, state.follow.cursor? = some cursor →
    cursor.receiver ≤ state.world.hub.sent.length
  applying : ∀ asOf focus, state.dispatch = .applying asOf focus → focus ∈ state.since asOf
  /-- Once the snapshot is cached, neither the cache nor what could replace it is older. -/
  cached : ∀ asOf, state.dispatch.cachedAsOf = some asOf →
    state.focusCtx ∈ state.since asOf ∧ state.CaughtUp asOf
  changed : ∀ asOf focus, state.dispatch = .changed asOf (.rebinding focus) →
    focus ∈ state.since asOf
  bound : ∀ asOf, state.dispatch.boundAsOf = some asOf → state.rendered ∈ state.since asOf
  resolving : ∀ asOf focus, state.dispatch = .resolving asOf focus → focus ∈ state.since asOf
  resolved : state.DispatchFresh

/-- Nothing is lost from what the world has had since a moment. -/
theorem since_append (state : WorldSync Displays) {asOf : Nat} {focus : Option FocusSnapshot}
    (member : focus ∈ state.since asOf) (more : List (Option FocusSnapshot)) :
    focus ∈ (state.history ++ more).drop asOf := by
  rw [List.drop_append]
  exact List.mem_append_left _ member

/-- The focus of the world is one it has had since any moment there was. -/
theorem Refreshed.now_since {state : WorldSync Displays} (refreshed : state.Refreshed) {asOf : Nat}
    (past : asOf < state.history.length) : state.world.state.focus ∈ state.since asOf := by
  obtain ⟨inside, current⟩ := List.getElem?_eq_some_iff.mp refreshed.current
  rw [since, List.mem_drop_iff_getElem]
  exact ⟨state.history.length - 1 - asOf, by omega, by
    rw [← current]
    congr 1
    omega⟩

/-- A moment since which there was a focus is past. -/
theorem past_of_since {state : WorldSync Displays} {asOf : Nat} {focus : Option FocusSnapshot}
    (member : focus ∈ state.since asOf) : asOf < state.history.length := by
  have some_ := List.length_pos_of_mem member
  rw [since, List.length_drop] at some_
  omega

/-- What moves in the world leaves the snapshot of a dispatch as it was. -/
theorem Refreshed.world {state : WorldSync Displays} (refreshed : state.Refreshed)
    {moved : PollingWorld Displays} (moves : FocusMoves state.world moved) :
    Refreshed { state with world := moved, history := state.history ++ [moved.state.focus] } where
  current := by simp
  told := moves.told refreshed.told
  within cursor has := moves.within (refreshed.within cursor has)
  applying asOf focus stage := state.since_append (refreshed.applying asOf focus stage) _
  cached asOf stage := by
    obtain ⟨cached, caughtUp⟩ := refreshed.cached asOf stage
    refine ⟨state.since_append cached _, ⟨fun focus unread => ?_, fun focus pending =>
      state.since_append (caughtUp.rebinding focus pending) _⟩⟩
    -- What is sent meanwhile tells the focus of the world, which is not older.
    rcases moves.backlog refreshed.told refreshed.within focus unread with before | now
    · exact state.since_append (caughtUp.unread focus before) _
    · have past := past_of_since cached
      show focus ∈ (state.history ++ [moved.state.focus]).drop asOf
      rw [now, List.drop_append_of_le_length (Nat.le_of_lt past)]
      exact List.mem_append_right _ List.mem_cons_self
  changed asOf focus stage := state.since_append (refreshed.changed asOf focus stage) _
  bound asOf stage := state.since_append (refreshed.bound asOf stage) _
  resolving asOf focus stage := state.since_append (refreshed.resolving asOf focus stage) _
  resolved asOf focus rendered stage := by
    obtain ⟨read, found⟩ := refreshed.resolved asOf focus rendered stage
    exact ⟨state.since_append read _, state.since_append found _⟩

/-- A dispatch keeps its snapshot as long as the subscription task does nothing older. -/
theorem Refreshed.kept {state next : WorldSync Displays} (refreshed : state.Refreshed)
    (world : next.world = state.world) (history : next.history = state.history)
    (dispatch : next.dispatch = state.dispatch)
    (within : ∀ cursor, next.follow.cursor? = some cursor →
      cursor.receiver ≤ state.world.hub.sent.length)
    (cached : ∀ asOf, state.focusCtx ∈ state.since asOf → state.CaughtUp asOf →
      next.focusCtx ∈ state.since asOf ∧
      (∀ focus ∈ next.follow.backlog state.world.hub, focus ∈ state.since asOf) ∧
      ∀ focus, next.rebind = some (.rebinding focus) → focus ∈ state.since asOf)
    (bound : ∀ asOf, state.CaughtUp asOf →
      state.rendered ∈ state.since asOf → next.rendered ∈ state.since asOf) : next.Refreshed := by
  -- The history and the dispatch stand, so what was possible since the snapshot still is.
  have same : ∀ asOf, next.since asOf = state.since asOf := by
    intro asOf
    rw [since, since, history]
  have whole : ∀ asOf, state.dispatch.boundAsOf = some asOf →
      state.dispatch.cachedAsOf = some asOf := by
    intro asOf stage
    cases past : state.dispatch <;> rw [past] at stage <;> first | exact stage | cases stage
  constructor
  · rw [history, world]
    exact refreshed.current
  · rw [world]
    exact refreshed.told
  · rw [world]
    exact within
  · intro asOf focus stage
    rw [same]
    exact refreshed.applying asOf focus (dispatch ▸ stage)
  · intro asOf stage
    obtain ⟨before, caughtUp⟩ := refreshed.cached asOf (dispatch ▸ stage)
    obtain ⟨now, unread, rebinding⟩ := cached asOf before caughtUp
    rw [same]
    refine ⟨now, ⟨?_, ?_⟩⟩
    · rw [world, same]
      exact unread
    · rw [same]
      exact rebinding
  · intro asOf focus stage
    rw [same]
    exact refreshed.changed asOf focus (dispatch ▸ stage)
  · intro asOf stage
    rw [dispatch] at stage
    rw [same]
    exact bound asOf (refreshed.cached asOf (whole asOf stage)).2 (refreshed.bound asOf stage)
  · intro asOf focus stage
    rw [same]
    exact refreshed.resolving asOf focus (dispatch ▸ stage)
  · intro asOf focus shown stage
    rw [same]
    exact refreshed.resolved asOf focus shown (dispatch ▸ stage)

/-- A step of the subscription task keeps the snapshot of a dispatch. -/
theorem Refreshed.stepFollow {state : WorldSync Displays} (refreshed : state.Refreshed)
    (bound : Bool) : (state.stepFollow bound).Refreshed := by
  unfold WorldSync.stepFollow
  split
  · -- The cache is read again, which is not older by then.
    refine refreshed.kept rfl rfl rfl refreshed.within (fun asOf cached caughtUp =>
      ⟨cached, caughtUp.unread, fun focus same => ?_⟩) (fun _ _ rendered => rendered)
    cases same
    exact cached
  · rename_i focus rebinding
    refine refreshed.kept rfl rfl rfl refreshed.within (fun asOf cached caughtUp =>
      ⟨cached, caughtUp.unread, fun focus same => by cases same⟩) fun asOf caughtUp rendered => ?_
    cases bound with
    | false => exact rendered
    -- A finished rebind renders the focus it was for.
    | true => exact caughtUp.rebinding focus rebinding
  · rename_i settled
    split
    · rename_i follow moved
      obtain ⟨backlog, _⟩ := FollowStage.step_backlog moved
      refine refreshed.kept rfl rfl rfl (FollowStage.step_within refreshed.within moved)
        (fun asOf cached caughtUp => ⟨cached, fun focus unread => ?_, fun focus same => ?_⟩)
        (fun _ _ rendered => rendered)
      · rcases backlog focus unread with before | now
        · exact caughtUp.unread focus before
        · rw [now]
          exact refreshed.now_since (past_of_since cached)
      · exact caughtUp.rebinding focus same
    · rename_i follow focus moved
      -- The focus of an event or a seed goes to the cache, whatever is there.
      obtain ⟨backlog, applied⟩ := FollowStage.step_backlog moved
      refine refreshed.kept rfl rfl rfl (FollowStage.step_within refreshed.within moved)
        (fun asOf cached caughtUp => ⟨?_, fun other unread => ?_, fun other same => ?_⟩)
        (fun _ _ rendered => rendered)
      · simp only [applyWorldFocusSnapshot]
        split
        · exact caughtUp.unread focus (applied focus rfl)
        · exact cached
      · rcases backlog other unread with before | now
        · exact caughtUp.unread other before
        · rw [now]
          exact refreshed.now_since (past_of_since cached)
      · simp only [applyWorldFocusSnapshot] at same
        split at same <;> cases same

/-- A dispatch that gets to a stage keeps its snapshot if it has what that stage needs. -/
theorem Refreshed.reached {state next : WorldSync Displays} (refreshed : state.Refreshed)
    (world : next.world = state.world) (history : next.history = state.history)
    (follow : next.follow = state.follow) (rebind : next.rebind = state.rebind)
    {stage : DispatchStage} (dispatch : next.dispatch = stage)
    (applying : ∀ asOf focus, stage = .applying asOf focus → focus ∈ state.since asOf)
    (cached : ∀ asOf, stage.cachedAsOf = some asOf →
      next.focusCtx ∈ state.since asOf ∧ state.CaughtUp asOf)
    (changed : ∀ asOf focus, stage = .changed asOf (.rebinding focus) → focus ∈ state.since asOf)
    (bound : ∀ asOf, stage.boundAsOf = some asOf → next.rendered ∈ state.since asOf)
    (resolving : ∀ asOf focus, stage = .resolving asOf focus → focus ∈ state.since asOf)
    (resolved : ∀ asOf focus rendered, stage = .resolved asOf focus rendered →
      focus ∈ state.since asOf ∧ rendered ∈ state.since asOf) : next.Refreshed := by
  -- The new stage has the snapshot of the old one, as nothing has moved the cache since.
  have same : ∀ asOf, next.since asOf = state.since asOf := by
    intro asOf
    rw [since, since, history]
  constructor
  · rw [history, world]
    exact refreshed.current
  · rw [world]
    exact refreshed.told
  · rw [world, follow]
    exact refreshed.within
  · simpa only [dispatch, same] using applying
  · intro asOf stage
    rw [dispatch] at stage
    obtain ⟨now, caughtUp⟩ := cached asOf stage
    rw [same]
    refine ⟨now, ⟨?_, ?_⟩⟩
    · rw [world, follow, same]
      exact caughtUp.unread
    · rw [rebind, same]
      exact caughtUp.rebinding
  · simpa only [dispatch, same] using changed
  · simpa only [dispatch, same] using bound
  · simpa only [dispatch, same] using resolving
  · unfold DispatchFresh
    simpa only [dispatch, same] using resolved

/-- A dispatch that is over or waits for its refresh has nothing to keep. -/
theorem Refreshed.idle {state next : WorldSync Displays} (refreshed : state.Refreshed)
    (world : next.world = state.world) (history : next.history = state.history)
    (follow : next.follow = state.follow) (rebind : next.rebind = state.rebind)
    (dispatch : next.dispatch = .idle ∨ next.dispatch = .snapshotting ∨
      ∃ caller, next.dispatch = .refreshing caller) : next.Refreshed := by
  rcases dispatch with stage | stage | ⟨caller, stage⟩ <;>
    exact refreshed.reached world history follow rebind stage (by simp)
      (by simp [DispatchStage.cachedAsOf]) (by simp) (by simp [DispatchStage.boundAsOf]) (by simp)
      (by simp)

/-- A careful step of a dispatch keeps its snapshot. -/
theorem Refreshed.stepDispatch {state next : WorldSync Displays} (refreshed : state.Refreshed)
    {bound : Bool} (careful : state.Careful (.proceed bound))
    (stepped : state.stepDispatch bound = some next) : next.Refreshed := by
  -- The cases are the stages of a dispatch; only caching and reading touch the snapshot.
  unfold WorldSync.stepDispatch at stepped
  split at stepped
  · cases stepped
  · cases stepped
  · split at stepped <;> cases stepped <;>
      exact refreshed.idle rfl rfl rfl rfl (.inr (.inl rfl))
  · -- The snapshot is the focus the world has at this moment.
    cases stepped
    refine refreshed.reached rfl rfl rfl rfl rfl ?_ (by simp [DispatchStage.cachedAsOf]) (by simp)
      (by simp [DispatchStage.boundAsOf]) (by simp) (by simp)
    intro asOf focus same
    cases same
    obtain ⟨inside, _⟩ := List.getElem?_eq_some_iff.mp refreshed.current
    exact refreshed.now_since inside
  · rename_i asOf focus stage
    have fresh := refreshed.applying asOf focus stage
    -- Nothing older is unread and no rebind is pending when the snapshot is cached.
    obtain ⟨caughtUp, rendered⟩ := careful asOf focus stage
    by_cases cached : state.focusCtx = focus
    · -- Nothing is rebound for a focus that is cached already.
      have kept : applyWorldFocusSnapshot state.focusCtx focus = (state.focusCtx, none) :=
        if_neg (not_not.mpr cached)
      rw [kept] at stepped
      cases stepped
      refine refreshed.reached rfl rfl rfl rfl rfl (by simp) ?_ (by simp) ?_ (by simp) (by simp)
      · intro other same
        cases same
        exact ⟨by rw [cached]; exact fresh, caughtUp⟩
      · intro other same
        cases same
        show state.rendered ∈ state.since asOf
        rw [rendered cached]
        exact fresh
    · have wrote : applyWorldFocusSnapshot state.focusCtx focus = (focus, some .rereading) :=
        if_pos cached
      rw [wrote] at stepped
      cases stepped
      refine refreshed.reached rfl rfl rfl rfl rfl (by simp) ?_ (by simp)
        (by simp [DispatchStage.boundAsOf]) (by simp) (by simp)
      intro other same
      cases same
      exact ⟨fresh, caughtUp⟩
  · rename_i asOf stage
    obtain ⟨cached, caughtUp⟩ := refreshed.cached asOf (by rw [stage]; rfl)
    cases stepped
    refine refreshed.reached rfl rfl rfl rfl rfl (by simp) ?_ ?_ (by simp [DispatchStage.boundAsOf])
      (by simp) (by simp)
    · intro other same
      cases same
      exact ⟨cached, caughtUp⟩
    · intro other focus same
      cases same
      exact cached
  · rename_i asOf focus stage
    obtain ⟨cached, caughtUp⟩ := refreshed.cached asOf (by rw [stage]; rfl)
    have fresh := refreshed.changed asOf focus stage
    cases stepped
    cases bound with
    -- A failed rebind ends the dispatch.
    | false => exact refreshed.idle rfl rfl rfl rfl (.inl rfl)
    | true =>
      refine refreshed.reached rfl rfl rfl rfl rfl (by simp) ?_ (by simp) ?_ (by simp) (by simp)
      · intro other same
        cases same
        exact ⟨cached, caughtUp⟩
      · intro other same
        cases same
        exact fresh
  · rename_i asOf stage
    obtain ⟨cached, caughtUp⟩ := refreshed.cached asOf (by rw [stage]; rfl)
    have rendered := refreshed.bound asOf (by rw [stage]; rfl)
    cases stepped
    refine refreshed.reached rfl rfl rfl rfl rfl (by simp) ?_ (by simp) ?_ ?_ (by simp)
    · intro other same
      cases same
      exact ⟨cached, caughtUp⟩
    · intro other same
      cases same
      exact rendered
    · intro other focus same
      cases same
      exact cached
  · rename_i asOf focus stage
    have rendered := refreshed.bound asOf (by rw [stage]; rfl)
    have read := refreshed.resolving asOf focus stage
    cases stepped
    refine refreshed.reached rfl rfl rfl rfl rfl (by simp) (by simp [DispatchStage.cachedAsOf])
      (by simp) (by simp [DispatchStage.boundAsOf]) (by simp) ?_
    intro other again shown same
    cases same
    exact ⟨read, rendered⟩

section Steps

variable [BEq Displays] [Inhabited Displays]

/-- A careful step of whoever moves keeps the snapshot of a dispatch. -/
theorem Refreshed.step {state next : WorldSync Displays} {choice : SyncChoice Displays}
    (stepped : state.Steps choice next) (careful : state.Careful choice)
    (refreshed : state.Refreshed) : next.Refreshed := by
  -- The world and the subscription move beside the dispatch, with the care that is asked of them.
  cases choice with
  | world choice =>
    obtain ⟨moved, went, same⟩ := Option.map_eq_some_iff.mp stepped
    subst same
    have moves : state.world.Steps choice { moved with now := state.world.now + 1 } := by
      rw [PollingWorld.Steps, went]
      rfl
    exact refreshed.world moves.focus
  | follow bound =>
    cases stepped
    exact refreshed.stepFollow bound
  | dispatch =>
    simp only [Steps, WorldSync.step] at stepped
    split at stepped
    · obtain ⟨moved, went, same⟩ := Option.map_eq_some_iff.mp stepped
      subst same
      have moves : state.world.Steps .refresh { moved with now := state.world.now + 1 } := by
        rw [PollingWorld.Steps, went]
        rfl
      exact (refreshed.world moves.focus).idle rfl rfl rfl rfl (.inr (.inr ⟨_, rfl⟩))
    · cases stepped
  | proceed bound => exact refreshed.stepDispatch careful stepped
  | finish bound =>
    simp only [Steps, WorldSync.step] at stepped
    split at stepped <;> cases stepped <;> exact refreshed.idle rfl rfl rfl rfl (.inl rfl)

omit [BEq Displays] in
/-- At the start nobody has anything to keep. -/
theorem Refreshed.start (cfg : WorldCfg) : (start cfg : WorldSync Displays).Refreshed where
  current := rfl
  told change listed := by cases listed
  within cursor has := by cases has
  applying asOf focus stage := by cases stage
  cached asOf stage := by cases stage
  changed asOf focus stage := by cases stage
  bound asOf stage := by cases stage
  resolving asOf focus stage := by cases stage
  resolved asOf focus rendered stage := by cases stage

/-- Careful steps. -/
def CarefulSteps (state : WorldSync Displays) (choice : SyncChoice Displays)
    (next : WorldSync Displays) : Prop :=
  state.Steps choice next ∧ state.Careful choice

/--
In every run of the polling world, the subscription task and physical dispatches, whoever moves, in
which a dispatch caches its snapshot only while the subscription task has nothing from before it to
read, apply or render, a dispatch builds its action context for a focus, and resolves a binding
rendered for a focus, that the world had when the dispatch took its refreshed snapshot or later.
-/
theorem dispatch_focus_fresh (cfg : WorldCfg) {choices : List (SyncChoice Displays)}
    {state : WorldSync Displays} (run : Run CarefulSteps (start cfg) choices state) :
    state.DispatchFresh := by
  have refreshed : state.Refreshed := run.invariant Refreshed
    (fun stepped before => before.step stepped.1 stepped.2) (.start cfg)
  exact refreshed.resolved

end Steps

/-- A poll that finds a window focused, up to where the loop would go to sleep. -/
private def pollOf (app title : String) (pid : Int32) (id : UInt32) : List (SyncChoice Unit) :=
  let found : PlatformSnapshot Unit := { focused := some ⟨app, title, pid, id, none⟩, displays := () }
  [.world .loop, .world .loop, .world (.captured (some found) 4), .world .loop, .world .loop,
    .world .loop]

/-- A dispatch whose refresh is served by the polls that are given. -/
private def refreshing (polls : List (SyncChoice Unit)) : List (SyncChoice Unit) :=
  [.dispatch] ++ List.replicate 5 (.world (.caller 0)) ++ polls ++
    List.replicate 2 (.world (.caller 0)) ++ List.replicate 4 (.proceed true)

/-- The subscription task reads an event from before the snapshot of a dispatch, after the dispatch
cached its snapshot and before it reads the cache. -/
theorem dispatch_focus_fresh_stale :
    ∃ choices, ∃ state : WorldSync Unit, Run Steps (start {}) choices state ∧
      ¬ state.DispatchFresh := by
  -- An event of the old focus is read between the two looks of the dispatch.
  let choices : List (SyncChoice Unit) := List.replicate 3 (.follow true) ++
    pollOf "Old" "First" 1 1 ++
    refreshing (List.replicate 4 (.world .loop) ++ pollOf "New" "Second" 2 2) ++
    [.follow true, .follow true, .proceed true, .proceed true, .proceed true]
  obtain ⟨state, seen, run⟩ := Run.of_foldlM WorldSync.step (start {} : WorldSync Unit) choices
    (fun state => (state.dispatch, state.history.drop 24))
    (.resolved 24 (some ⟨1, "Old", "First", 1, none⟩) (some ⟨2, "New", "Second", 2, none⟩),
      [some ⟨2, "New", "Second", 2, none⟩]) (by decide +kernel)
  simp only [Prod.mk.injEq] at seen
  refine ⟨choices, state, run, fun fresh => ?_⟩
  have read := (fresh 24 _ _ seen.1).1
  rw [since, seen.2] at read
  revert read
  decide

/-- Whether a step is careful. -/
private def isCareful (state : WorldSync Unit) : SyncChoice Unit → Bool
  | .proceed _ =>
    match state.dispatch with
    | .applying asOf focus =>
      (state.follow.backlog state.world.hub).all (fun other => decide (other ∈ state.since asOf)) &&
        (match state.rebind with
          | some (.rebinding other) => decide (other ∈ state.since asOf)
          | _ => true) &&
        decide (state.focusCtx = focus → state.rendered = focus)
    | _ => true
  | _ => true

/-- Careful steps as a function. -/
private def carefulSyncStep (state : WorldSync Unit) (choice : SyncChoice Unit) :
    Option (WorldSync Unit) :=
  if isCareful state choice then state.step choice else none

/-- Such steps are careful. -/
private theorem carefulSyncStep_careful {state next : WorldSync Unit} {choice : SyncChoice Unit}
    (stepped : carefulSyncStep state choice = some next) : CarefulSteps state choice next := by
  -- The check asks for no unread event and no pending rebind.
  unfold carefulSyncStep at stepped
  split at stepped
  · rename_i checked
    refine ⟨stepped, ?_⟩
    cases choice with
    | proceed bound =>
      intro asOf focus stage
      simp only [isCareful, stage, Bool.and_eq_true, List.all_eq_true, decide_eq_true_eq] at checked
      obtain ⟨⟨unread, rebinding⟩, bound⟩ := checked
      refine ⟨⟨unread, fun other pending => ?_⟩, bound⟩
      simpa [pending] using rebinding
    | _ => trivial
  · cases stepped

/-- A dispatch that resolves against the focus it refreshed. -/
theorem dispatch_focus_fresh_once :
    ∃ choices, ∃ state : WorldSync Unit, Run CarefulSteps (start {}) choices state ∧
      state.dispatch = .resolved 14 (some ⟨2, "New", "Second", 2, none⟩)
        (some ⟨2, "New", "Second", 2, none⟩) ∧ state.DispatchFresh := by
  let choices : List (SyncChoice Unit) := List.replicate 3 (.follow true) ++
    refreshing (pollOf "New" "Second" 2 2) ++ List.replicate 3 (.proceed true)
  obtain ⟨state, seen, run⟩ := Run.of_foldlM carefulSyncStep (start {} : WorldSync Unit) choices
    (fun state => state.dispatch) (.resolved 14 (some ⟨2, "New", "Second", 2, none⟩)
      (some ⟨2, "New", "Second", 2, none⟩)) (by decide +kernel)
  have careful := run.mono carefulSyncStep_careful
  exact ⟨choices, state, careful, seen, dispatch_focus_fresh {} careful⟩

end WorldSync

end Hotki

import Hotki.Server.IdleShutdown

/-! When the idle timer runs, and which clients an idle shutdown leaves behind. -/

namespace Hotki

open Base

/-- What the loop holds of the clients' absence after a wake. -/
def WakeEvent.flag (absent : Bool) : WakeEvent → Bool
  | .shutdown => absent
  | .clientConnected => false
  | .clientDisconnected => true

/-- Whether the client of a connection was put into the registry. -/
def ConnectStage.isPlaced : ConnectStage → Bool
  | .registered | .initializing | .connected => true
  | .arriving | .locking _ | .refused => false

namespace EventLoop

variable {loop : EventLoop}

/-- The shared timer state says whether the loop has a deadline. -/
def Timed (loop : EventLoop) : Prop := loop.idleState.armed = loop.idleDeadline.isSome

/-- Checking the timer leaves what the loop holds of the clients. -/
@[simp]
theorem checkIdle_clientDisconnected : loop.checkIdle.clientDisconnected = loop.clientDisconnected := by
  unfold checkIdle
  split
  · split <;> rfl
  · rfl

/-- The check arms the timer exactly while the clients count as gone. -/
theorem checkIdle_armed (timed : loop.Timed) :
    loop.checkIdle.Timed ∧ loop.checkIdle.idleState.armed = loop.clientDisconnected := by
  -- The timer runs, is started, or is stopped, as the clients demand.
  unfold checkIdle Timed at *
  split
  · rename_i absent
    split
    · exact ⟨rfl, absent.symm⟩
    · rename_i deadline running
      rw [running] at timed
      exact ⟨by rw [running, timed], by rw [timed, absent]; rfl⟩
  · rename_i present
    split
    · exact ⟨rfl, (Bool.not_eq_true _ ▸ present).symm⟩
    · rename_i stopped
      rw [timed]
      simp only [Bool.not_eq_true] at present stopped
      exact ⟨by rw [stopped]; rfl, by rw [stopped, present]⟩

/-- A handled wake sets what the loop holds of the clients. -/
theorem handle_wake (wake : WakeEvent) :
    (loop.handle (.user wake)).clientDisconnected = wake.flag loop.clientDisconnected := by
  cases wake with
  | shutdown | clientDisconnected => rfl
  | clientConnected =>
    simp only [handle, WakeEvent.flag]
    split
    · rfl
    · rename_i present
      simp only [Bool.not_eq_true] at present
      exact present

/-- Handling an event keeps the shared timer state in step with the deadline. -/
theorem handle_timed (timed : loop.Timed) (event : LoopEvent) : (loop.handle event).Timed := by
  unfold handle
  split
  · split
    · rfl
    · exact timed
  · exact timed
  · exact timed
  · exact timed

end EventLoop

namespace Server

variable {server next : Server}

/-- What the loop will hold of the clients' absence once it has handled every posted wake. -/
def outlook (server : Server) : Bool :=
  server.wakes.foldl WakeEvent.flag server.eventLoop.clientDisconnected

/-- A connection whose wake was posted has its client in the registry. -/
def Lingers (server : Server) : Prop :=
  ∃ client ∈ server.clients, server.connections[client.sender]? = some .connected

/-- What holds of the server until shutdown is requested. -/
structure Sound (server : Server) : Prop where
  /-- The clients are those of connections past their registration. -/
  placed : ∀ client ∈ server.clients, ∃ stage, server.connections[client.sender]? = some stage ∧
    stage.isPlaced = true
  /-- The loop is not going to hold the clients gone while a connected one is registered. -/
  absent : server.outlook = true → ¬ server.Lingers
  /-- The loop is going to hold the clients gone once the last of them is. -/
  present : server.outlook = false → .connected ∈ server.connections → server.clients ≠ []
  /-- The loop holds the clients gone only after there was one. -/
  known : server.outlook = true → ∃ stage ∈ server.connections, stage.isPlaced = true
  timed : server.eventLoop.Timed

/--
What the two guarantees ask of a step: an iteration that finds the deadline elapsed has no connected
wake waiting that would cancel the timer, and a connection posts its wake while some client is
registered.
-/
structure Heeded (server : Server) (label : ServerChoice × Option ShutdownReason) : Prop where
  canceled : ∀ elapsed wake, label.1 = .iteration elapsed wake →
    (server.eventLoop.advance elapsed).isDue = true → server.outlook = true
  alive : ∀ index, label.1 = .connection index →
    server.connections[index]? = some .initializing ∨
      server.connections[index]? = some .registered ∧ server.engine = .ready →
    server.clients ≠ []

/-- The transition relation of the server, with heeded steps. -/
def HeededSteps (server : Server) (label : ServerChoice × Option ShutdownReason) (next : Server) :
    Prop :=
  server.Steps label next ∧ (server.requested = false → server.Heeded label)

/-- A posted wake is the last that the loop is going to handle. -/
@[simp]
theorem outlook_postUserEvent (wake : WakeEvent) :
    (server.postUserEvent wake).outlook = wake.flag server.outlook := by
  simp [outlook, postUserEvent]

/-- A new connection is not yet anyone's client. -/
theorem Sound.connect (sound : server.Sound) :
    Sound { server with connections := server.connections ++ [.arriving] } where
  -- The new connection has the next position, and no client was placed there.
  placed client member := by
    obtain ⟨stage, found, placed⟩ := sound.placed client member
    obtain ⟨inside, _⟩ := List.getElem?_eq_some_iff.mp found
    exact ⟨stage, by rwa [List.getElem?_append_left inside], placed⟩
  absent gone := by
    rintro ⟨client, member, linked⟩
    obtain ⟨stage, found, _⟩ := sound.placed client member
    obtain ⟨inside, _⟩ := List.getElem?_eq_some_iff.mp found
    rw [List.getElem?_append_left inside] at linked
    exact sound.absent gone ⟨client, member, linked⟩
  present here linked := by
    apply sound.present here
    simpa using linked
  known gone := by
    obtain ⟨stage, member, placed⟩ := sound.known gone
    exact ⟨stage, List.mem_append_left _ member, placed⟩
  timed := sound.timed

/-- Moving a connection on changes no guarantee, if it is not about to count as connected. -/
theorem Sound.setConnection (sound : server.Sound) {index : Nat} {old changed : ConnectStage}
    (found : server.connections[index]? = some old)
    (keeps : old.isPlaced = true → changed.isPlaced = true)
    (posted : changed = .connected → server.outlook = false ∧ server.clients ≠ []) :
    Sound (server.setConnection index changed) := by
  -- A client is placed at the connection that moves, or at another one.
  obtain ⟨inside, _⟩ := List.getElem?_eq_some_iff.mp found
  have moved : (server.connections.set index changed)[index]? = some changed :=
    List.getElem?_set_self inside
  have others : ∀ other ≠ index,
      (server.connections.set index changed)[other]? = server.connections[other]? :=
    fun other apart => List.getElem?_set_ne (Ne.symm apart)
  refine ⟨fun client member => ?_, fun gone => ?_, fun here linked => ?_, fun gone => ?_, sound.timed⟩
  · obtain ⟨stage, read, placed⟩ := sound.placed client member
    show ∃ stage, (server.connections.set index changed)[client.sender]? = some stage ∧ _
    by_cases same : client.sender = index
    · rw [same, found] at read
      cases read
      exact ⟨changed, by rw [same, moved], keeps placed⟩
    · exact ⟨stage, by rw [others _ same, read], placed⟩
  · rintro ⟨client, member, linked⟩
    change (server.connections.set index changed)[client.sender]? = some .connected at linked
    by_cases same : client.sender = index
    · rw [same, moved] at linked
      have calm := posted (Option.some.inj linked)
      have now : server.outlook = true := gone
      rw [calm.1] at now
      cases now
    · rw [others _ same] at linked
      exact sound.absent gone ⟨client, member, linked⟩
  · rcases List.mem_or_eq_of_mem_set linked with old | same
    · exact sound.present here old
    · exact (posted same.symm).2
  · obtain ⟨stage, member, placed⟩ := sound.known gone
    obtain ⟨other, read⟩ := List.getElem?_of_mem member
    by_cases same : other = index
    · rw [same, found] at read
      cases read
      exact ⟨changed, List.mem_of_getElem? moved, keeps placed⟩
    · exact ⟨stage, List.mem_of_getElem? ((others _ same).trans read), placed⟩

/-- A connected wake is posted while some client is registered. -/
theorem Sound.postConnected (sound : server.Sound) (some_ : server.clients ≠ []) :
    Sound (server.postUserEvent .clientConnected) := by
  have here : (server.postUserEvent .clientConnected).outlook = false := by simp [WakeEvent.flag]
  refine ⟨sound.placed, fun gone => ?_, fun _ _ => some_, fun gone => ?_, sound.timed⟩
  · rw [here] at gone
    cases gone
  · rw [here] at gone
    cases gone

/-- A registered client is not yet connected. -/
theorem Sound.register (sound : server.Sound) {index : Nat} (id : Nat)
    (found : server.connections[index]? = some .registered) :
    Sound { server with clients := server.clients ++ [⟨id, index⟩] } where
  -- The client joins the registry behind those that were there.
  placed client member := by
    rcases List.mem_append.mp member with old | new
    · exact sound.placed client old
    · rw [List.mem_singleton.mp new]
      exact ⟨_, found, rfl⟩
  absent gone := by
    rintro ⟨client, member, linked⟩
    rcases List.mem_append.mp member with old | new
    · exact sound.absent gone ⟨client, old, linked⟩
    · rw [List.mem_singleton.mp new] at linked
      change server.connections[index]? = some .connected at linked
      rw [found] at linked
      cases linked
  present _ _ := by simp
  known := sound.known
  timed := sound.timed

/-- A connection keeps the guarantees, if it posts its wake while some client is registered. -/
theorem Sound.connected (sound : server.Sound) {index : Nat}
    (alive : server.connections[index]? = some .initializing ∨
      server.connections[index]? = some .registered ∧ server.engine = .ready → server.clients ≠ [])
    (taken : server.connected index = some next) : next.Sound := by
  -- One case for each stage of a connection, which posts its wakes on the way.
  obtain ⟨stage, found, taken⟩ := Option.bind_eq_some_iff.mp taken
  cases stage with
  | arriving =>
    simp only at taken
    split at taken <;> cases taken
    · exact sound.setConnection found (by simp [ConnectStage.isPlaced]) (by simp)
    · have numbered : Sound { server with nextId := (server.nextId + 1) % UInt32.size } :=
        ⟨sound.placed, sound.absent, sound.present, sound.known, sound.timed⟩
      exact numbered.setConnection found (by simp [ConnectStage.isPlaced]) (by simp)
  | locking id =>
    cases taken
    have moved : Sound (server.setConnection index .registered) :=
      sound.setConnection found (fun _ => rfl) (by simp)
    obtain ⟨inside, _⟩ := List.getElem?_eq_some_iff.mp found
    exact moved.register id (List.getElem?_set_self inside)
  | registered =>
    simp only at taken
    split at taken
    · cases taken
      have begun : Sound { server with engine := .initializing } :=
        ⟨sound.placed, sound.absent, sound.present, sound.known, sound.timed⟩
      exact begun.setConnection found (fun _ => rfl) (by simp)
    · cases taken
    · rename_i ready
      cases taken
      have some_ := alive (.inr ⟨found, ready⟩)
      exact (sound.postConnected some_).setConnection found (fun _ => rfl)
        fun _ => ⟨by simp [WakeEvent.flag], some_⟩
  | initializing =>
    cases taken
    have some_ := alive (.inl found)
    have begun : Sound { server with engine := .ready } :=
      ⟨sound.placed, sound.absent, sound.present, sound.known, sound.timed⟩
    exact (begun.postConnected some_).setConnection found (fun _ => rfl)
      fun _ => ⟨by simp [WakeEvent.flag], some_⟩
  | connected | refused => cases taken

/-- A removal reports that it emptied the registry exactly when it did. -/
theorem remove_emptied (clients : List TrackedClient) (id : Nat) :
    (remove clients id).2 = true ↔ clients ≠ [] ∧ (remove clients id).1 = [] := by
  simp only [remove, Bool.and_eq_true, Bool.not_eq_true', List.isEmpty_eq_false_iff,
    decide_eq_true_eq, List.isEmpty_iff]
  constructor
  · rintro ⟨⟨some_, _⟩, none_⟩
    exact ⟨some_, none_⟩
  · rintro ⟨some_, none_⟩
    refine ⟨⟨some_, ?_⟩, none_⟩
    rw [none_]
    exact List.length_pos_iff.mpr some_

/-- Dropping a client keeps the guarantees, its removal being reported if it was the last. -/
theorem Sound.dropClient (sound : server.Sound) (id : Nat) : (server.dropClient id).Sound := by
  -- Either others remain, or the registry is empty and the wake says so.
  have fewer : ∀ client ∈ (remove server.clients id).1, client ∈ server.clients :=
    fun client member => (List.mem_filter.mp member).1
  simp only [Server.dropClient]
  split
  · rename_i emptied
    obtain ⟨some_, none_⟩ := (remove_emptied server.clients id).mp emptied
    refine ⟨fun client member => sound.placed client (fewer client member), fun _ => ?_,
      fun here => ?_, fun _ => ?_, sound.timed⟩
    · rintro ⟨client, member, _⟩
      change client ∈ (remove server.clients id).1 at member
      rw [none_] at member
      cases member
    · simp [WakeEvent.flag] at here
    · -- The client that is dropped was put into the registry by its connection.
      obtain ⟨client, member⟩ := List.exists_mem_of_ne_nil _ some_
      obtain ⟨stage, found, placed⟩ := sound.placed client member
      exact ⟨stage, List.mem_of_getElem? found, placed⟩
  · rename_i others
    refine ⟨fun client member => sound.placed client (fewer client member), fun gone => ?_,
      fun here linked none_ => ?_, sound.known, sound.timed⟩
    · rintro ⟨client, member, linked⟩
      exact sound.absent gone ⟨client, fewer client member, linked⟩
    · exact others ((remove_emptied server.clients id).mpr ⟨sound.present here linked, none_⟩)

/-- An iteration that requests no shutdown keeps the guarantees. -/
theorem Sound.handle (sound : server.Sound) (elapsed : Nat) {event : LoopEvent}
    {left : List WakeEvent} (handled : server.outlook = left.foldl WakeEvent.flag
      ((server.eventLoop.advance elapsed).checkIdle.handle event).clientDisconnected) :
    Sound { server with
      wakes := left, eventLoop := (server.eventLoop.advance elapsed).checkIdle.handle event } where
  -- The iteration looks at the timer first, and then at its event.
  placed := sound.placed
  absent gone := sound.absent (handled.trans gone)
  present here := sound.present (handled.trans here)
  known gone := sound.known (handled.trans gone)
  timed := by
    have timed : (server.eventLoop.advance elapsed).Timed := sound.timed
    exact EventLoop.handle_timed (EventLoop.checkIdle_armed timed).1 event

/-- Before any shutdown an iteration finds the deadline elapsed, or handles its event. -/
theorem iterate_cases {elapsed : Nat} {event : LoopEvent} {left : List WakeEvent}
    {reason : Option ShutdownReason} (live : server.requested = false)
    (taken : server.iterate elapsed event left = some (next, reason)) :
    ((server.eventLoop.advance elapsed).isDue = true ∧ reason = some .idleExpired ∧
        next.requested = true ∧ next.clients = server.clients ∧
        next.eventLoop.idleState = server.eventLoop.idleState) ∨
      reason = none ∧ next = { server with
        wakes := left, eventLoop := (server.eventLoop.advance elapsed).checkIdle.handle event } := by
  -- A request comes first, then an elapsed deadline, and only then the event.
  simp only [iterate] at taken
  split at taken
  · cases taken
  · split at taken
    · rename_i requested
      rw [live] at requested
      cases requested
    · split at taken
      · rename_i due
        cases taken
        exact .inl ⟨due, rfl, rfl, rfl, rfl⟩
      · cases taken
        exact .inr ⟨rfl, rfl⟩

/-- A heeded step keeps the guarantees, until shutdown is requested. -/
theorem Sound.step (sound : server.Sound) {label : ServerChoice × Option ShutdownReason}
    (heeded : server.Heeded label) (live : server.requested = false)
    (taken : server.Steps label next) (open_ : next.requested = false) : next.Sound := by
  obtain ⟨choice, reason⟩ := label
  -- An iteration that does not end the loop has heeded its event.
  have ends : ∀ {elapsed : Nat} {event : LoopEvent} {left : List WakeEvent},
      server.outlook = left.foldl WakeEvent.flag
        ((server.eventLoop.advance elapsed).checkIdle.handle event).clientDisconnected →
      server.iterate elapsed event left = some (next, reason) → next.Sound := by
    intro elapsed event left handled iterated
    rcases iterate_cases live iterated with ⟨_, _, ended, _⟩ | ⟨_, rfl⟩
    · rw [ended] at open_
      cases open_
    · exact sound.handle elapsed handled
  cases choice with
  | connect =>
    cases taken
    exact sound.connect
  | connection index =>
    obtain ⟨after, moved, same⟩ := Option.map_eq_some_iff.mp taken
    cases same
    exact sound.connected (heeded.alive index rfl) moved
  -- A broadcast only looks at the clients.
  | broadcast =>
    obtain ⟨after, moved, same⟩ := Option.map_eq_some_iff.mp taken
    cases same
    unfold broadcastEvent at moved
    split at moved
    · split at moved <;> cases moved
      · exact sound
      · exact ⟨sound.placed, sound.absent, sound.present, sound.known, sound.timed⟩
    · cases moved
  | sent broadcast position failed =>
    obtain ⟨after, moved, same⟩ := Option.map_eq_some_iff.mp taken
    cases same
    obtain ⟨pending, _, moved⟩ := Option.bind_eq_some_iff.mp moved
    obtain ⟨id, _, rfl⟩ := Option.map_eq_some_iff.mp moved
    -- A send that fails drops its client.
    have settled : Sound { server with
        broadcasts := server.broadcasts.set broadcast (pending.eraseIdx position) } :=
      ⟨sound.placed, sound.absent, sound.present, sound.known, sound.timed⟩
    cases failed with
    | false => exact settled
    | true => exact settled.dropClient id
  | iteration elapsed wake =>
    cases wake with
    | false =>
      apply ends _ taken
      simp [outlook, EventLoop.handle, EventLoop.advance]
    | true =>
      simp only [Steps, Server.step] at taken
      cases waiting : server.wakes with
      | nil => simp [waiting] at taken
      | cons wake left =>
        rw [waiting] at taken
        apply ends _ taken
        -- Handling the oldest wake now leaves what all of them will have made of the flag.
        rw [outlook, waiting, List.foldl_cons, EventLoop.handle_wake]
        simp [EventLoop.advance]
  | requestShutdown other =>
    simp only [Steps, Server.step] at taken
    split at taken <;> cases taken
    cases open_
  | stopPipeline =>
    simp [Steps, Server.step, live] at taken
  | destroyLoop =>
    cases taken
    cases open_

/-- No step takes a shutdown request back. -/
theorem step_requested {label : ServerChoice × Option ShutdownReason}
    (taken : server.Steps label next) (asked : server.requested = true) : next.requested = true := by
  -- Every choice either leaves the request or makes one.
  obtain ⟨choice, reason⟩ := label
  have iterated : ∀ {elapsed : Nat} {event : LoopEvent} {left : List WakeEvent},
      server.iterate elapsed event left = some (next, reason) → next.requested = true := by
    intro elapsed event left iterated
    simp only [iterate] at iterated
    split at iterated
    · cases iterated
    · cases iterated
      exact asked
  cases choice with
  | connect =>
    cases taken
    exact asked
  | connection index =>
    obtain ⟨after, moved, same⟩ := Option.map_eq_some_iff.mp taken
    cases same
    obtain ⟨stage, _, moved⟩ := Option.bind_eq_some_iff.mp moved
    cases stage with
    | arriving =>
      simp only at moved
      split at moved <;> cases moved <;> exact asked
    | locking | initializing =>
      cases moved
      exact asked
    | registered =>
      simp only at moved
      split at moved <;> cases moved <;> exact asked
    | connected | refused => cases moved
  | broadcast =>
    obtain ⟨after, moved, same⟩ := Option.map_eq_some_iff.mp taken
    cases same
    unfold broadcastEvent at moved
    split at moved
    · cases moved
      exact asked
    · cases moved
  | sent broadcast position failed =>
    obtain ⟨after, moved, same⟩ := Option.map_eq_some_iff.mp taken
    cases same
    obtain ⟨pending, _, moved⟩ := Option.bind_eq_some_iff.mp moved
    obtain ⟨id, _, rfl⟩ := Option.map_eq_some_iff.mp moved
    split
    · simp only [dropClient]
      split <;> exact asked
    · exact asked
  | iteration elapsed wake =>
    cases wake with
    | false => exact iterated taken
    | true =>
      simp only [Steps, step] at taken
      split at taken
      · cases taken
      · exact iterated taken
  | requestShutdown other =>
    simp only [Steps, step] at taken
    split at taken <;> cases taken
    rfl
  | stopPipeline =>
    simp only [Steps, step, if_pos asked] at taken
    cases taken
    exact asked
  | destroyLoop =>
    cases taken
    rfl

/-- After an iteration without a wake the timer is armed exactly while the clients count as gone. -/
theorem iterate_armed {elapsed : Nat} {reason : Option ShutdownReason}
    (timed : server.eventLoop.Timed) (live : server.requested = false)
    (taken : server.iterate elapsed .other server.wakes = some (next, reason)) :
    next.eventLoop.idleState.armed = server.eventLoop.clientDisconnected ∧
      next.clients = server.clients := by
  rcases iterate_cases live taken with ⟨due, _, _, clients, timer⟩ | ⟨_, rfl⟩
  · -- An elapsed deadline is one that was armed.
    simp only [EventLoop.isDue, EventLoop.advance, Bool.and_eq_true] at due
    obtain ⟨gone, late⟩ := due
    refine ⟨?_, clients⟩
    rw [timer, timed, gone]
    exact Option.isSome_of_any late
  · have advanced : (server.eventLoop.advance elapsed).Timed := timed
    exact ⟨(EventLoop.checkIdle_armed advanced).2, rfl⟩

/-- Shutdown for idleness is requested only by an iteration that finds the deadline elapsed. -/
theorem idleExpired_cases {choice : ServerChoice}
    (taken : server.Steps (choice, some .idleExpired) next) :
    server.requested = false ∧ ∃ elapsed wake, choice = .iteration elapsed wake ∧
      (server.eventLoop.advance elapsed).isDue = true := by
  -- The reason is that of the deadline, so an iteration has given it.
  have due : ∀ {elapsed : Nat} {event : LoopEvent} {left : List WakeEvent},
      server.iterate elapsed event left = some (next, some .idleExpired) →
      server.requested = false ∧ (server.eventLoop.advance elapsed).isDue = true := by
    intro elapsed event left iterated
    cases asked : server.requested with
    | true =>
      simp only [iterate, asked, if_true] at iterated
      split at iterated <;> cases iterated
    | false =>
      rcases iterate_cases asked iterated with ⟨due, _⟩ | ⟨none_, _⟩
      · exact ⟨rfl, due⟩
      · cases none_
  cases choice with
  | connect => cases taken
  | connection index | broadcast | sent =>
    obtain ⟨_, _, same⟩ := Option.map_eq_some_iff.mp taken
    cases same
  | iteration elapsed wake =>
    cases wake with
    | false => exact ⟨(due taken).1, elapsed, false, rfl, (due taken).2⟩
    | true =>
      simp only [Steps, step] at taken
      split at taken
      · cases taken
      · exact ⟨(due taken).1, elapsed, true, rfl, (due taken).2⟩
  | requestShutdown reason =>
    simp only [Steps, step] at taken
    split at taken
    · cases taken
    · rename_i other
      cases taken
      exact absurd rfl other
  | stopPipeline =>
    simp only [Steps, step] at taken
    split at taken <;> cases taken
  | destroyLoop => cases taken

/-- The server as it starts, with some idle timeout. -/
def start (idleTimeoutSecs : Nat) : Server := { eventLoop := { idleTimeoutSecs } }

/-- A server that starts keeps the guarantees. -/
theorem Sound.start (idleTimeoutSecs : Nat) : (start idleTimeoutSecs).Sound where
  placed _ member := by cases member
  absent gone := by cases gone
  present _ linked := by cases linked
  known gone := by cases gone
  timed := rfl

/--
In every run whose steps are heeded, shutdown for idleness is requested only when no connected
client is registered; and once the loop has handled every posted wake, no registration being under
way, the iteration that follows arms the timer exactly if some client connected and none is left.
-/
theorem idle_shutdown_safe {idleTimeoutSecs : Nat}
    {labels : List (ServerChoice × Option ShutdownReason)}
    {label : ServerChoice × Option ShutdownReason}
    (run : Run HeededSteps (start idleTimeoutSecs) labels server)
    (taken : server.HeededSteps label next) :
    (label.2 = some .idleExpired → ¬ server.Lingers) ∧
      ∀ elapsed, label.1 = .iteration elapsed false → server.requested = false →
        server.wakes = [] →
        (∀ stage ∈ server.connections, stage = .connected ∨ stage = .refused) →
        (next.eventLoop.idleState.armed = true ↔
          .connected ∈ server.connections ∧ next.clients = []) := by
  have kept : server.requested = false → server.Sound := by
    refine run.invariant (fun server => server.requested = false → server.Sound) ?_
      fun _ => .start idleTimeoutSecs
    intro state label after step sound open_
    -- A request is never withdrawn, so there was none before.
    have live : state.requested = false := by
      cases asked : state.requested with
      | false => rfl
      | true =>
        rw [step_requested step.1 asked] at open_
        cases open_
    exact (sound live).step (step.2 live) live step.1 open_
  refine ⟨fun expired => ?_, fun elapsed same live handled settled => ?_⟩
  -- With care the deadline is due only when no arrival waits to be handled.
  · obtain ⟨choice, reason⟩ := label
    cases expired
    obtain ⟨live, elapsed, wake, rfl, due⟩ := idleExpired_cases taken.1
    exact (kept live).absent ((taken.2 live).canceled elapsed wake rfl due)
  · obtain ⟨choice, reason⟩ := label
    cases same
    have sound := kept live
    obtain ⟨armed, clients⟩ := iterate_armed sound.timed live taken.1
    have outlook : server.outlook = server.eventLoop.clientDisconnected := by
      rw [Server.outlook, handled]
      rfl
    rw [armed, clients, ← outlook]
    constructor
    · intro gone
      obtain ⟨stage, member, placed⟩ := sound.known gone
      have linked : .connected ∈ server.connections := by
        rcases settled stage member with rfl | rfl
        · exact member
        · cases placed
      refine ⟨linked, List.eq_nil_iff_forall_not_mem.mpr fun client held => ?_⟩
      -- A client that is left is a connected one, since no registration is under way.
      obtain ⟨stage, found, placed⟩ := sound.placed client held
      rcases settled stage (List.mem_of_getElem? found) with rfl | rfl
      · exact sound.absent gone ⟨client, held, found⟩
      · cases placed
    · rintro ⟨linked, none_⟩
      cases gone : server.outlook with
      | true => rfl
      | false => exact absurd none_ (sound.present gone linked)

/-- Whether a connection is about to post its wake. -/
private def posts (server : Server) : ServerChoice → Bool
  | .connection index =>
    server.connections[index]? == some .initializing ||
      server.connections[index]? == some .registered && server.engine == .ready
  | _ => false

/-- Whether an iteration finds the deadline elapsed. -/
private def expires (server : Server) : ServerChoice → Bool
  | .iteration elapsed _ => (server.eventLoop.advance elapsed).isDue
  | _ => false

/-- A step that is heeded. -/
private def heedful (server : Server) (choice : ServerChoice) :
    Option (Server × Option ShutdownReason) :=
  if (server.expires choice = true → server.outlook = true) ∧
      (server.posts choice = true → server.clients ≠ []) then server.step choice
  else none

/-- Such a step is a heeded one. -/
private theorem heedful_heeded {label : ServerChoice × Option ShutdownReason}
    (taken : heedful server label.1 = some (next, label.2)) : server.HeededSteps label next := by
  -- The check is made on the state before the step, as heeding is.
  unfold heedful at taken
  split at taken
  · rename_i heeded
    refine ⟨taken, fun _ => ⟨fun elapsed wake same due => heeded.1 ?_,
      fun index same ready => heeded.2 ?_⟩⟩
    · rw [same]
      exact due
    · rw [same]
      rcases ready with ready | ⟨ready, engine⟩
      · simp [posts, ready]
      · simp [posts, ready, engine]
  · cases taken

/-- The steps of a connection that finds the engine empty or ready. -/
private def connects (index : Nat) : List ServerChoice :=
  [.connect, .connection index, .connection index, .connection index]

/-- The first client connects, its send fails, and the loop handles both wakes. -/
private def departure : List ServerChoice :=
  connects 0 ++ [.connection 0, .iteration 0 true, .broadcast, .sent 0 0 true, .iteration 0 true,
    .iteration 0 false]

/-- Whether the loop has handled every wake before any shutdown. -/
private def caughtUp (server : Server) : Bool := !server.requested && server.wakes.isEmpty

/-- The same with one client that connected and is gone when the deadline has elapsed. -/
theorem idle_shutdown_safe_departed :
    ∃ server next : Server, server.Steps (.iteration 5000000000 false, some .idleExpired) next ∧
      ¬ server.Lingers ∧ (next.eventLoop.idleState.armed = true ↔
        .connected ∈ server.connections ∧ next.clients = []) := by
  -- The one client has left, and its departure was handled before the deadline.
  obtain ⟨server, _, seen, run, _⟩ := Run.of_evaluate heedful (start 5) departure
    (fun result => (caughtUp result.1, result.1.connections,
      (evaluate heedful result.1 [.iteration 5000000000 false]).map fun last => last.2))
    (true, [.connected], some [some .idleExpired]) (by decide +kernel)
  simp only [Prod.mk.injEq, caughtUp, Bool.and_eq_true, Bool.not_eq_true', List.isEmpty_iff] at seen
  obtain ⟨⟨live, handled⟩, settled, evaluated⟩ := seen
  obtain ⟨next, reasons, shown, later, _⟩ := Run.of_evaluate heedful server
    [.iteration 5000000000 false] (fun last => last.2) [some .idleExpired] evaluated
  cases shown
  cases later with
  | cons taken rest =>
    cases rest
    have heeded : server.HeededSteps (.iteration 5000000000 false, some .idleExpired) next :=
      heedful_heeded taken
    have safe := idle_shutdown_safe (run.mono heedful_heeded) heeded
    refine ⟨server, next, heeded.1, safe.1 rfl, ?_⟩
    apply safe.2 5000000000 rfl live handled
    intro stage member
    rw [settled] at member
    exact .inl (List.mem_singleton.mp member)

/-- After the departure, another client connects when the deadline has all but elapsed. -/
private def arrival : List ServerChoice := departure ++ connects 1

/-- Two clients register while the engine is initialized, and die before the second wake. -/
private def forgotten : List ServerChoice :=
  connects 0 ++ [.connect, .connection 1, .connection 1, .connection 0, .broadcast, .sent 0 0 true,
    .sent 0 0 true, .connection 1, .iteration 0 true, .iteration 0 true, .iteration 0 true]

/--
An elapsed deadline ends the server although a connected wake waits, and a wake posted for a client
that is already gone stops the timer for good.

The second needs the initialisation of the engine to suspend, since the second client waits for it
when the broadcast removes both.
-/
theorem idle_shutdown_safe_overlooked :
    (∃ labels, ∃ server next : Server, Run Steps (start 5) labels server ∧
      server.Steps (.iteration 5000000000 true, some .idleExpired) next ∧ server.Lingers) ∧
    ∃ labels, ∃ server next : Server, Run Steps (start 5) labels server ∧
      server.Steps (.iteration 0 false, none) next ∧ server.requested = false ∧
      server.wakes = [] ∧ (∀ stage ∈ server.connections, stage = .connected) ∧
      (∀ pending ∈ server.broadcasts, pending = []) ∧
      next.eventLoop.idleState.armed = false ∧ .connected ∈ server.connections ∧
      next.clients = [] := by
  -- Two runs: a wake that is overlooked, and a broadcast that removes two clients.
  constructor
  · obtain ⟨server, _, seen, run, _⟩ := Run.of_evaluate Server.step (start 5) arrival
      (fun result => (result.1.clients, result.1.connections,
        (result.1.step (.iteration 5000000000 true)).map fun last => last.2))
      ([⟨1, 1⟩], [.connected, .connected], some (some .idleExpired)) (by decide +kernel)
    simp only [Prod.mk.injEq] at seen
    obtain ⟨clients, linked, expired⟩ := seen
    obtain ⟨⟨next, reason⟩, taken, same⟩ := Option.map_eq_some_iff.mp expired
    cases same
    refine ⟨_, server, next, run, taken, ⟨1, 1⟩, ?_, ?_⟩
    · rw [clients]
      exact List.mem_singleton.mpr rfl
    · rw [linked]
      rfl
  · obtain ⟨server, _, seen, run, _⟩ := Run.of_evaluate Server.step (start 5) forgotten
      (fun result => (caughtUp result.1, result.1.connections, result.1.broadcasts,
        (result.1.step (.iteration 0 false)).map fun last =>
          last.2.isNone && !last.1.eventLoop.idleState.armed && last.1.clients.isEmpty))
      (true, [.connected, .connected], [[]], some true) (by decide +kernel)
    simp only [Prod.mk.injEq, caughtUp, Bool.and_eq_true, Bool.not_eq_true', List.isEmpty_iff]
      at seen
    obtain ⟨⟨live, handled⟩, linked, sent, iterated⟩ := seen
    obtain ⟨⟨next, reason⟩, taken, same⟩ := Option.map_eq_some_iff.mp iterated
    simp only [Bool.and_eq_true, Option.isNone_iff_eq_none, Bool.not_eq_true', List.isEmpty_iff]
      at same
    obtain ⟨⟨rfl, stopped⟩, none_⟩ := same
    refine ⟨_, server, next, run, taken, live, handled, ?_, ?_, stopped, ?_, none_⟩
    · rw [linked]
      simp
    · rw [sent]
      simp
    · rw [linked]
      simp

end Server

end Hotki

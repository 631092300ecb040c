import Hotki.App.DriverRun
import Hotki.Base.Run

/-! Queued controls reach the first connection that opens, and a shutdown is the end. -/

namespace Hotki

open Base

namespace App

variable {Input : Type*}

namespace ConnectionDriver

variable {driver next : ConnectionDriver Input}

/-- A driver that did not touch its queue, and does not shut down unless it did before. -/
structure Calm (driver next : ConnectionDriver Input) : Prop where
  pending : next.pendingControls = driver.pendingControls
  open_ : driver.health.isShuttingDown = false → next.health.isShuttingDown = false

/-- Doing nothing is calm. -/
theorem Calm.refl (driver : ConnectionDriver Input) : driver.Calm driver := ⟨rfl, fun same => same⟩

/-- Two calm changes are one. -/
theorem Calm.trans {middle : ConnectionDriver Input} (first : driver.Calm middle)
    (second : middle.Calm next) : driver.Calm next :=
  ⟨second.pending.trans first.pending, fun calm => second.open_ (first.open_ calm)⟩

/-- Checking permissions moves the driver on only if they are missing. -/
theorem eventTapPermissionsMissing_calm (driver : ConnectionDriver Input)
    (observed : PermissionsStatus) (blocked : DriverStage) :
    driver.Calm (driver.eventTapPermissionsMissing observed blocked).1 ∧
      (driver.eventTapPermissionsMissing observed blocked).1.stage =
        if (driver.eventTapPermissionsMissing observed blocked).2 then blocked
        else driver.stage := by
  -- The cases are whether permissions suffice and whether what is known of them changes.
  unfold eventTapPermissionsMissing
  dsimp only
  by_cases granted : driver.requiredPermissionsGranted (driver.permissionOverride.getD observed)
  · split
    · rename_i changed
      have same : (({ driver with
          health := { driver.health with
            permissions := driver.permissionOverride.getD observed } } :
          ConnectionDriver Input).publishHealth).requiredPermissionsGranted
            (driver.permissionOverride.getD observed) = true := granted
      rw [if_pos same]
      exact ⟨⟨rfl, fun calm => calm⟩, rfl⟩
    · exact ⟨.refl driver, rfl⟩
  · split
    · have same : ¬ (({ driver with
          health := { driver.health with
            permissions := driver.permissionOverride.getD observed } } :
          ConnectionDriver Input).publishHealth).requiredPermissionsGranted
            (driver.permissionOverride.getD observed) = true := granted
      rw [if_neg same]
      exact ⟨⟨rfl, fun _ => rfl⟩, rfl⟩
    · exact ⟨⟨rfl, fun _ => rfl⟩, rfl⟩

/-- Going on leaves the stage. -/
theorem after_continue (stage : DriverStage) : stage.after .continue_ = stage := by
  cases stage <;> rfl

/-- A permission observation touches no queue, and moves the driver on by an outcome that does not
stop it. -/
theorem permissionsChanged_calm (driver : ConnectionDriver Input)
    (observation : PermissionObservation) : driver.Calm (driver.permissionsChanged observation).1 ∧
      ∃ outcome, outcome ≠ .stop ∧
        (driver.permissionsChanged observation).1.stage = driver.stage.after outcome := by
  have pauses : ∀ missing : Bool,
      (if missing then ControlOutcome.pauseConnect else .continue_) ≠ .stop := by
    intro missing
    split <;> simp
  unfold permissionsChanged
  dsimp only
  split
  · -- Missing permissions block the driver, unless a rejected config stays in view.
    constructor
    · constructor
      · split <;> rfl
      · intro calm
        split
        · exact calm
        · rfl
    · split
      · exact ⟨_, pauses _, rfl⟩
      · exact ⟨_, pauses _, rfl⟩
  · split
    -- With permissions there is nothing to block; only a driver that was blocked connects again.
    · exact ⟨⟨rfl, fun _ => rfl⟩, .continue_, by simp, (after_continue _).symm⟩
    · split
      · exact ⟨⟨rfl, fun _ => rfl⟩, .retryConnect, by simp, rfl⟩
      · exact ⟨⟨rfl, fun calm => calm⟩, .continue_, by simp, (after_continue _).symm⟩

/-- So does every local control. -/
theorem handleLocalControl_calm (driver : ConnectionDriver Input) (control : LocalControl) :
    driver.Calm (driver.handleLocalControl control).1 ∧ ∃ outcome, outcome ≠ .stop ∧
      (driver.handleLocalControl control).1.stage = driver.stage.after outcome := by
  cases control with
  | openPermissionsHelp | notice =>
    exact ⟨.refl driver, .continue_, by simp, (after_continue _).symm⟩
  | permissionsChanged observation => exact driver.permissionsChanged_calm observation

/-- A server control touches no queue, and leaves the driver where it is or reloading. -/
theorem handleServerControl_calm (driver : ConnectionDriver Input) (server : OwnedServer)
    (draining : Bool) (observed : PermissionsStatus) (control : ServerControl) :
    driver.Calm (driver.handleServerControl server draining observed control) ∧
      ((driver.handleServerControl server draining observed control).stage = driver.stage ∨
        (driver.handleServerControl server draining observed control).stage =
          .reloading server draining) := by
  -- An injected key changes nothing, and a reload either stops at permissions or is awaited.
  cases control with
  | injectKey ident reportErrors => exact ⟨.refl driver, .inl rfl⟩
  | reload =>
    obtain ⟨calm, stage⟩ := driver.eventTapPermissionsMissing_calm observed driver.stage
    rw [ite_self] at stage
    unfold handleServerControl
    dsimp only
    split
    · exact ⟨calm, .inl stage⟩
    · exact ⟨⟨calm.pending, fun _ => rfl⟩, .inr rfl⟩

/-- Whatever became of the connection, an activation can fail. -/
theorem answerActivation_error (driver : ConnectionDriver Input) (server : OwnedServer)
    (stage : OwnedServer → DriverStage) (error : String) :
    driver.answerActivation server stage (.error error) =
      some (driver.activateConfig server stage (.error error)) := by
  unfold answerActivation
  rw [if_neg (by simp [Except.isOk, Except.toBool])]

/-- What a step of the driver does to its stage, its queue and its end. -/
inductive Moves (driver next : ConnectionDriver Input) : DriverInput Input → Prop where
  | begin (observed : PermissionsStatus)
    (before : driver.stage = .starting ∨ driver.stage = .retrying)
    (after : next.stage = .connecting ∨ next.stage = .waiting) (calm : driver.Calm next) :
    Moves driver next (.begin observed)
  | connected (observed : PermissionsStatus) (opened : Except String Unit)
    (before : driver.stage = .connecting)
    (after : next.stage = .waiting ∨ next.stage = .activating {}) (calm : driver.Calm next) :
    Moves driver next (.connected observed opened)
  | connectFailed (error : String) (before : driver.stage = .connecting)
    (after : next.stage = .waiting) (calm : driver.Calm next) :
    Moves driver next (.connectFailed error)
  | connectCanceled (before : driver.stage = .connecting) (after : next.stage = .waiting)
    (calm : driver.Calm next) : Moves driver next .connectCanceled
  | dropped (stages : driver.stage.lose = some next.stage) (calm : driver.Calm next) :
    Moves driver next .dropped
  | activated (result : Except String Unit) {server later : OwnedServer}
    (before : driver.stage = .activating server ∨ driver.stage = .reloading server true)
    (after : next.stage = .draining later) (calm : driver.Calm next) :
    Moves driver next (.activated result)
  | reloaded (result : Except String Unit) {server later : OwnedServer}
    (before : driver.stage = .reloading server false) (after : next.stage = .driving later)
    (calm : driver.Calm next) : Moves driver next (.activated result)
  | drainedAll (observed : PermissionsStatus) {server : OwnedServer}
    (before : driver.stage = .draining server) (empty : driver.pendingControls = [])
    (after : next.stage = .driving server) (calm : driver.Calm next) :
    Moves driver next (.drain observed)
  | drains (observed : PermissionsStatus) {server : OwnedServer} {control : ServerControl}
    (before : driver.stage = .draining server)
    (after : next.stage = .draining server ∨ next.stage = .reloading server true)
    (queue : driver.pendingControls = control :: next.pendingControls)
    (open_ : driver.health.isShuttingDown = false → next.health.isShuttingDown = false) :
    Moves driver next (.drain observed)
  | queues {msg : ControlMsg} (observed : PermissionsStatus) {control : ServerControl}
    (routes : ControlRoute.fromMsg msg = .toServer control)
    (stages : driver.stage = .connecting ∧ next.stage = .connecting ∨
      driver.stage = .waiting ∧ next.stage = .retrying)
    (queue : next.pendingControls = driver.pendingControls ++ [control])
    (open_ : next.health.isShuttingDown = false) : Moves driver next (.control msg observed)
  | handles {msg : ControlMsg} (observed : PermissionsStatus) {control : ServerControl}
    {server : OwnedServer} (routes : ControlRoute.fromMsg msg = .toServer control)
    (before : driver.stage = .driving server)
    (after : next.stage = .driving server ∨ next.stage = .reloading server false)
    (calm : driver.Calm next) : Moves driver next (.control msg observed)
  | locally {msg : ControlMsg} (observed : PermissionsStatus) {control : LocalControl}
    (routes : ControlRoute.fromMsg msg = .toLocal control)
    (stages : driver.stage = .connecting ∧ (next.stage = .connecting ∨ next.stage = .waiting) ∨
      driver.stage = .waiting ∧ (next.stage = .waiting ∨ next.stage = .retrying) ∨
      ∃ server, driver.stage = .driving server ∧ next.stage = .driving server)
    (calm : driver.Calm next) : Moves driver next (.control msg observed)
  | shutsDown {msg : ControlMsg} (observed : PermissionsStatus)
    (routes : ControlRoute.fromMsg msg = .shutdown)
    (stages : (driver.stage = .connecting ∨ driver.stage = .waiting) ∧ next.stage = .stopped ∨
      ∃ server, driver.stage = .driving server ∧ next.stage = .closing server)
    (queue : next.pendingControls = driver.pendingControls)
    (ended : next.health.isShuttingDown = true) : Moves driver next (.control msg observed)
  | heartbeat (input : Input) {server : OwnedServer} (before : driver.stage = .driving server)
    (after : next.stage = .driving server) (calm : driver.Calm next) :
    Moves driver next (.heartbeat input)
  | lost (opening : Option String) {server : OwnedServer} (before : driver.stage = .driving server)
    (after : next.stage = .retrying) (calm : driver.Calm next) : Moves driver next (.lost opening)
  | acknowledged {server : OwnedServer} (before : driver.stage = .closing server)
    (after : next.stage = .stopped) (queue : next.pendingControls = driver.pendingControls)
    (same : next.health = driver.health) : Moves driver next .shutdownAcknowledged
  | controlsClosed (before : driver.stage = .waiting) (after : next.stage = .stopped)
    (calm : driver.Calm next) : Moves driver next .controlsClosed

/-- A control moves the driver on by its route. -/
theorem routeControlMsg_moves (msg : ControlMsg) (observed : PermissionsStatus)
    (free : driver.stage = .connecting ∨ driver.stage = .waiting) :
    Moves driver (driver.routeControlMsg msg) (.control msg observed) := by
  -- The message is for the driver, for a server that is not there yet, or for both to end.
  cases routes : ControlRoute.fromMsg msg with
  | toLocal control =>
    obtain ⟨calm, outcome, going, stage⟩ := driver.handleLocalControl_calm control
    have same : driver.routeControlMsg msg = (driver.handleLocalControl control).1 := by
      unfold routeControlMsg
      rw [routes]
    -- An attempt in flight goes on, and a pause ends only for a control that asks for it.
    rw [same]
    refine .locally observed routes ?_ calm
    rw [stage]
    rcases free with attempt | waits
    · left
      rw [attempt]
      refine ⟨rfl, ?_⟩
      cases outcome with
      | stop => exact absurd rfl going
      | pauseConnect => exact .inr rfl
      | continue_ | retryConnect => exact .inl rfl
    · right
      left
      rw [waits]
      refine ⟨rfl, ?_⟩
      cases outcome with
      | stop => exact absurd rfl going
      | retryConnect => exact .inr rfl
      | continue_ | pauseConnect => exact .inl rfl
  | toServer control =>
    have same : driver.routeControlMsg msg =
        ({ driver with
          pendingControls := driver.pendingControls ++ [control]
          health := driver.health.queueReconnect driver.configPath
          stage := driver.stage.after .retryConnect } : ConnectionDriver Input).publishHealth := by
      unfold routeControlMsg
      rw [routes]
    rw [same]
    refine .queues observed routes ?_ rfl rfl
    show driver.stage = .connecting ∧ driver.stage.after .retryConnect = .connecting ∨
      driver.stage = .waiting ∧ driver.stage.after .retryConnect = .retrying
    rcases free with attempt | waits
    · rw [attempt]
      exact .inl ⟨rfl, rfl⟩
    · rw [waits]
      exact .inr ⟨rfl, rfl⟩
  -- Without a server nobody is left to acknowledge the shutdown.
  | shutdown =>
    have same : driver.routeControlMsg msg = driver.beginShutdown := by
      unfold routeControlMsg
      rw [routes]
    rw [same]
    refine .shutsDown observed routes (.inl ⟨free, ?_⟩) rfl rfl
    show driver.stage.after .stop = .stopped
    rcases free with attempt | waits
    · rw [attempt]
      rfl
    · rw [waits]
      rfl

/-- With a connection, too. -/
theorem routeConnected_moves {server : OwnedServer} (msg : ControlMsg)
    (observed : PermissionsStatus) (owned : driver.stage = .driving server) :
    Moves driver (driver.routeConnected server msg observed) (.control msg observed) := by
  -- The same three routes, with a server to hand the control to.
  cases routes : ControlRoute.fromMsg msg with
  | toLocal control =>
    obtain ⟨calm, outcome, going, stage⟩ := driver.handleLocalControl_calm control
    have same : driver.routeConnected server msg observed =
        (driver.handleLocalControl control).1 := by
      unfold routeConnected
      rw [routes]
    rw [same]
    refine .locally observed routes (.inr (.inr ⟨server, owned, ?_⟩)) calm
    rw [stage, owned]
    cases outcome with
    | stop => exact absurd rfl going
    | continue_ | retryConnect | pauseConnect => rfl
  | toServer control =>
    obtain ⟨calm, stage⟩ := driver.handleServerControl_calm server false observed control
    have same : driver.routeConnected server msg observed =
        driver.handleServerControl server false observed control := by
      unfold routeConnected
      rw [routes]
    rw [same]
    rw [owned] at stage
    exact .handles observed routes owned stage calm
  -- The server is asked to shut down first, and its acknowledgement is awaited.
  | shutdown =>
    have same : driver.routeConnected server msg observed = driver.beginShutdown := by
      unfold routeConnected
      rw [routes]
    rw [same]
    refine .shutsDown observed routes (.inr ⟨server, owned, ?_⟩) rfl rfl
    show driver.stage.after .stop = .closing server
    rw [owned]
    rfl

/-- Every step of the driver is one of these moves. -/
theorem step_moves [DecidableEq Input] {input : DriverInput Input}
    (taken : driver.step input = some next) : Moves driver next input := by
  -- One kind of move for each input, whatever the branches in it.
  cases input with
  | begin observed =>
    obtain ⟨ready, same⟩ := Option.ite_none_right_eq_some.mp taken
    cases same
    obtain ⟨calm, stage⟩ := driver.eventTapPermissionsMissing_calm observed .waiting
    unfold connect
    dsimp only
    split
    · rename_i missing
      rw [if_pos missing] at stage
      exact .begin observed ready (.inr stage) calm
    · refine .begin observed ready (.inl rfl) ⟨calm.pending, fun _ => ?_⟩
      show RuntimeHealth.isShuttingDown (RuntimeHealth.startConnecting _ _) = false
      unfold RuntimeHealth.startConnecting
      split <;> rfl
  | connected observed opened =>
    obtain ⟨attempt, same⟩ := Option.ite_none_right_eq_some.mp taken
    cases same
    obtain ⟨calm, stage⟩ :=
      (driver.enter (.activating {})).eventTapPermissionsMissing_calm observed .waiting
    unfold takeClient
    dsimp only
    split
    · rename_i missing
      rw [if_pos missing] at stage
      exact .connected observed opened attempt (.inl stage) ⟨calm.pending, calm.open_⟩
    · rename_i granted
      rw [if_neg granted] at stage
      cases opened with
      | ok => exact .connected observed _ attempt (.inr stage) ⟨calm.pending, calm.open_⟩
      | error error =>
        exact .connected observed _ attempt (.inl rfl) ⟨calm.pending, fun _ => rfl⟩
  | connectFailed error =>
    obtain ⟨attempt, same⟩ := Option.ite_none_right_eq_some.mp taken
    cases same
    exact .connectFailed error attempt rfl ⟨rfl, fun _ => rfl⟩
  | connectCanceled =>
    obtain ⟨attempt, same⟩ := Option.ite_none_right_eq_some.mp taken
    cases same
    exact .connectCanceled attempt rfl ⟨rfl, fun _ => rfl⟩
  | dropped =>
    obtain ⟨stage, lost, same⟩ := Option.map_eq_some_iff.mp taken
    cases same
    exact .dropped lost ⟨rfl, fun calm => calm⟩
  -- Every awaited activation publishes its outcome and goes on to the stage that awaited it.
  | activated result =>
    have activates : ∀ {server : OwnedServer} {stage : OwnedServer → DriverStage},
        driver.answerActivation server stage result = some next →
        (∃ later, next.stage = stage later) ∧ driver.Calm next := by
      intro server stage answered
      obtain ⟨_, same⟩ := Option.ite_none_left_eq_some.mp answered
      cases same
      cases result with
      | ok => exact ⟨⟨_, rfl⟩, rfl, fun _ => rfl⟩
      | error error => exact ⟨⟨_, rfl⟩, rfl, fun _ => rfl⟩
    simp only [step] at taken
    split at taken
    · rename_i server owned
      obtain ⟨⟨later, after⟩, calm⟩ := activates taken
      exact .activated result (.inl owned) after calm
    · rename_i server owned
      obtain ⟨⟨later, after⟩, calm⟩ := activates taken
      exact .activated result (.inr owned) after calm
    · rename_i server owned
      obtain ⟨⟨later, after⟩, calm⟩ := activates taken
      exact .reloaded result owned after calm
    · cases taken
  -- Draining ends with the last queued control.
  | drain observed =>
    simp only [step] at taken
    split at taken
    · rename_i server owned empty
      cases taken
      exact .drainedAll observed owned empty rfl ⟨rfl, fun calm => calm⟩
    · rename_i server control rest owned queue
      cases taken
      obtain ⟨calm, stage⟩ := ({ driver with pendingControls := rest } :
        ConnectionDriver Input).handleServerControl_calm server true observed control
      have left : driver.pendingControls = control :: (({ driver with pendingControls := rest } :
          ConnectionDriver Input).handleServerControl server true observed
            control).pendingControls := by
        rw [queue, calm.pending]
      refine .drains observed owned ?_ left calm.open_
      rw [← owned]
      exact stage
    · cases taken
  | control msg observed =>
    simp only [step] at taken
    split at taken
    · rename_i attempt
      cases taken
      exact routeControlMsg_moves msg observed (.inl attempt)
    · rename_i waits
      cases taken
      exact routeControlMsg_moves msg observed (.inr waits)
    · rename_i server owned
      cases taken
      exact routeConnected_moves msg observed owned
    · cases taken
  | heartbeat input =>
    simp only [step] at taken
    split at taken
    · rename_i server owned
      cases taken
      unfold handleInputHealth
      split
      · exact .heartbeat input owned owned ⟨rfl, fun calm => calm⟩
      · exact .heartbeat input owned owned (.refl driver)
    · cases taken
  -- The connection may have ended, or a new one could not be opened.
  | lost opening =>
    simp only [step] at taken
    split at taken
    · rename_i server owned
      cases taken
      exact .lost none owned rfl ⟨rfl, fun _ => rfl⟩
    · rename_i server error owned
      cases taken
      exact .lost (some error) owned rfl ⟨rfl, fun _ => rfl⟩
    · cases taken
  | shutdownAcknowledged =>
    simp only [step] at taken
    split at taken
    · rename_i server closes
      cases taken
      exact .acknowledged closes rfl rfl rfl
    · cases taken
  | controlsClosed =>
    obtain ⟨waits, same⟩ := Option.ite_none_right_eq_some.mp taken
    cases same
    exact .controlsClosed waits rfl ⟨rfl, fun calm => calm⟩

end ConnectionDriver

/-- The controls that were queued, in the order in which they were received. -/
def queuedOf (events : List DriverEvent) : List ServerControl :=
  events.filterMap fun event =>
    match event with
    | .queued control => some control
    | _ => none

/-- The queued controls that were handed to the server handler, in the order in which they were. -/
def drainedOf (events : List DriverEvent) : List ServerControl :=
  events.filterMap fun event =>
    match event with
    | .drained control => some control
    | _ => none

/-- The queued controls that are still to be handed over. -/
def outstanding (events : List DriverEvent) : List ServerControl :=
  (queuedOf events).drop (drainedOf events).length

/-- Whether an event concerns neither the queue nor an end. -/
def DriverEvent.isPlain : DriverEvent → Bool
  | .connecting | .handled _ => true
  | .opened | .queued _ | .drained _ | .shutdown | .closed => false

/-- Whether a driver has opened a connection and not come to drive it. -/
def DriverStage.isOpening : DriverStage → Bool
  | .activating _ | .draining _ | .reloading _ true => true
  | .starting | .retrying | .connecting | .reloading _ false | .driving _ | .waiting | .closing _
  | .stopped => false

/-- Whether a driver drives a connection, or closes one that it drove. -/
def DriverStage.drives : DriverStage → Bool
  | .driving _ | .reloading _ false | .closing _ => true
  | .starting | .retrying | .connecting | .activating _ | .draining _ | .reloading _ true
  | .waiting | .stopped => false

/-- Whether a driver has come to the end of its work. -/
def DriverStage.ends : DriverStage → Bool
  | .closing _ | .stopped => true
  | .starting | .retrying | .connecting | .activating _ | .draining _ | .reloading _ _
  | .driving _ | .waiting => false

/-- What a driver in a stage owns. -/
def DriverStage.owns : DriverStage → Owned
  | .connecting => .connectTask
  | .activating _ | .draining _ | .reloading _ _ | .driving _ | .closing _ => .client
  | .starting | .retrying | .waiting | .stopped => .nothing

/-- Losing a connection changes nothing of what a driver is at or owns. -/
theorem DriverStage.lose_kept {stage lost : DriverStage} (loses : stage.lose = some lost) :
    lost.isOpening = stage.isOpening ∧ lost.drives = stage.drives ∧ lost.owns = stage.owns ∧
      stage.ends = false := by
  -- Only the record of the connection changes, in the four stages that have one.
  cases stage with
  | activating | draining | driving =>
    obtain ⟨server, _, rfl⟩ := Option.map_eq_some_iff.mp loses
    exact ⟨rfl, rfl, rfl, rfl⟩
  | reloading _ fromQueue =>
    obtain ⟨server, _, rfl⟩ := Option.map_eq_some_iff.mp loses
    cases fromQueue <;> exact ⟨rfl, rfl, rfl, rfl⟩
  | starting | retrying | connecting | waiting | closing | stopped => cases loses

/-- Whether a step of a run is its sender's or its peer's, and not the driver's own. -/
def RunInput.isOutside : RunInput Input → Bool
  | .send _ | .drop => true
  | .receive _ | .await _ | .taskEnds | .finish => false

namespace DriverRun

variable {run next : DriverRun Input}

/-- A run of a new driver. -/
def start (configPath : String) (tap : Bool) (observed : PermissionsStatus) (input : Input) :
    DriverRun Input := { driver := .new configPath tap observed input }

/-- What holds in every run of the driver. -/
structure Kept (run : DriverRun Input) : Prop where
  /-- What was queued was handed over or still is queued. -/
  queue : queuedOf run.events = drainedOf run.events ++ run.driver.pendingControls
  /-- A driver that drives a connection has nothing queued. -/
  drained : run.driver.stage.drives = true → run.driver.pendingControls = []
  /-- After a connection opened, what was queued is handed over before anything else. -/
  opened : ∀ before after, run.events = before ++ .opened :: after →
    (∃ later, after = (outstanding before).map .drained ++ later) ∨
      (run.driver.stage.isOpening = true ∧
        after ++ run.driver.pendingControls.map .drained = (outstanding before).map .drained)
  /-- The driver owns what its stage stands for, unless an aborted task has yet to end. -/
  owned : run.owned = run.driver.stage.owns ∨ (run.owned = .canceledTask ∧
    (run.driver.stage = .waiting ∨ run.driver.stage = .stopped))
  /-- A run that has returned owns nothing. -/
  returned : run.returned = true → run.driver.stage = .stopped ∧ run.owned = .nothing
  /-- A driver that does not shut down has received no shutdown. -/
  open_ : run.driver.health.isShuttingDown = false → .shutdown ∉ run.events ∧ .closed ∉ run.events
  /-- A driver that shuts down does nothing any more but close the UI in the end. -/
  ended : run.driver.health.isShuttingDown = true →
    run.driver.stage.ends = true ∧ ∃ before,
      run.events = before ++ .shutdown :: (if run.returned then [.closed] else []) ∧
        .shutdown ∉ before ∧ .closed ∉ before

/-- A list that is extended by others still splits at an element where it did. -/
theorem split_of_not_mem {events added before after : List DriverEvent} {event : DriverEvent}
    (same : events ++ added = before ++ event :: after) (absent : event ∉ added) :
    ∃ rest, events = before ++ event :: rest ∧ after = rest ++ added := by
  -- An event that was not added lies in what was there before.
  rcases List.append_eq_append_iff.mp same with ⟨rest, _, here⟩ | ⟨rest, split, here⟩
  · rw [here] at absent
    exact absurd (List.mem_append_right _ (List.mem_cons_self ..)) absent
  · cases rest with
    | nil =>
      rw [List.nil_append] at here
      rw [← here] at absent
      exact absurd (List.mem_cons_self ..) absent
    | cons first rest =>
      cases here
      exact ⟨rest, split, rfl⟩

/-- What is queued and drained is counted along the events. -/
theorem queuedOf_append (first second : List DriverEvent) :
    queuedOf (first ++ second) = queuedOf first ++ queuedOf second :=
  List.filterMap_append

/-- So is what is drained. -/
theorem drainedOf_append (first second : List DriverEvent) :
    drainedOf (first ++ second) = drainedOf first ++ drainedOf second :=
  List.filterMap_append

/-- What is outstanding is what the driver has queued. -/
theorem Kept.outstanding (kept : run.Kept) :
    outstanding run.events = run.driver.pendingControls := by
  unfold App.outstanding
  rw [kept.queue, List.drop_left]

/-- After a driver came to drive its connection, more events change nothing about the opening. -/
theorem Kept.opened_of_closed (kept : run.Kept) (closed : run.driver.stage.isOpening = false)
    {added : List DriverEvent} (absent : .opened ∉ added) (before after : List DriverEvent)
    (same : run.events ++ added = before ++ .opened :: after) :
    ∃ later, after = (App.outstanding before).map .drained ++ later := by
  -- Where the driver no longer opens, what it drained before is all there is to drain.
  obtain ⟨rest, split, rfl⟩ := split_of_not_mem same absent
  rcases kept.opened before rest split with ⟨later, drained⟩ | ⟨opening, _⟩
  · exact ⟨later ++ added, by rw [drained, List.append_assoc]⟩
  · rw [closed] at opening
    cases opening

/-- A driver at work does not shut down. -/
theorem Kept.alive (kept : run.Kept) (works : run.driver.stage.ends = false) :
    run.driver.health.isShuttingDown = false := by
  cases ended : run.driver.health.isShuttingDown with
  | false => rfl
  | true =>
    rw [(kept.ended ended).1] at works
    cases works

/-- A driver that goes on keeps what holds of its run. -/
theorem Kept.goes (kept : run.Kept) {driver : ConnectionDriver Input} {owned : Owned}
    {added : List DriverEvent} {rxCtrl : List ControlMsg} (working : run.returned = false)
    (alive : run.driver.health.isShuttingDown = false)
    (calm : driver.health.isShuttingDown = false)
    (quiet : .shutdown ∉ added ∧ .closed ∉ added)
    (queue : queuedOf run.events ++ queuedOf added =
      drainedOf run.events ++ drainedOf added ++ driver.pendingControls)
    (drained : driver.stage.drives = true → driver.pendingControls = [])
    (opened : ∀ before after, run.events ++ added = before ++ .opened :: after →
      (∃ later, after = (App.outstanding before).map .drained ++ later) ∨
        (driver.stage.isOpening = true ∧
          after ++ driver.pendingControls.map .drained = (App.outstanding before).map .drained))
    (owns : owned = driver.stage.owns ∨ (owned = .canceledTask ∧
      (driver.stage = .waiting ∨ driver.stage = .stopped))) :
    Kept { run with driver, rxCtrl, owned, events := run.events ++ added } where
  -- Nothing that ends the run is among the new events, so the clauses about the end stay void.
  queue := by rw [queuedOf_append, drainedOf_append, queue]
  drained := drained
  opened := opened
  owned := owns
  returned := by
    intro returned
    rw [working] at returned
    cases returned
  open_ := by
    intro _
    obtain ⟨noShutdown, noClosed⟩ := kept.open_ alive
    simp [noShutdown, noClosed, quiet]
  ended := by
    intro ended
    rw [calm] at ended
    cases ended

/-- A new run keeps it. -/
theorem Kept.start (configPath : String) (tap : Bool) (observed : PermissionsStatus)
    (input : Input) : (start configPath tap observed input).Kept where
  queue := rfl
  drained _ := rfl
  opened before after same := by simp [DriverRun.start] at same
  owned := .inl rfl
  returned returned := by cases returned
  open_ _ := ⟨List.not_mem_nil, List.not_mem_nil⟩
  ended ended := by cases ended

/-- Plain events are no others. -/
theorem plain_not_mem {added : List DriverEvent} (plain : ∀ event ∈ added, event.isPlain = true)
    {event : DriverEvent} (special : event.isPlain = false) : event ∉ added := by
  intro member
  rw [plain event member] at special
  cases special

/-- Plain events queue and drain nothing. -/
theorem queuedOf_plain {added : List DriverEvent}
    (plain : ∀ event ∈ added, event.isPlain = true) :
    queuedOf added = [] ∧ drainedOf added = [] := by
  -- A plain event is neither of the two kinds that the projections keep.
  constructor
  · apply List.filterMap_eq_nil_iff.mpr
    intro event member
    have seen := plain event member
    cases event <;> first | rfl | cases seen
  · apply List.filterMap_eq_nil_iff.mpr
    intro event member
    have seen := plain event member
    cases event <;> first | rfl | cases seen

/-- A driver that does not open a connection may go on with plain events. -/
theorem Kept.simply (kept : run.Kept) {driver : ConnectionDriver Input} {owned : Owned}
    {added : List DriverEvent} {rxCtrl : List ControlMsg} (working : run.returned = false)
    (plain : ∀ event ∈ added, event.isPlain = true) (calm : run.driver.Calm driver)
    (closed : run.driver.stage.isOpening = false) (works : run.driver.stage.ends = false)
    (drives : driver.stage.drives = true → run.driver.stage.drives = true)
    (owns : owned = driver.stage.owns ∨ (owned = .canceledTask ∧
      (driver.stage = .waiting ∨ driver.stage = .stopped))) :
    Kept { run with driver, rxCtrl, owned, events := run.events ++ added } := by
  -- Nothing is queued or drained, so the queue and what was drained stand as they are.
  have alive := kept.alive works
  obtain ⟨noneQueued, noneDrained⟩ := queuedOf_plain plain
  apply kept.goes working alive (calm.open_ alive)
  case quiet => exact ⟨plain_not_mem plain rfl, plain_not_mem plain rfl⟩
  case queue => rw [noneQueued, noneDrained, calm.pending, kept.queue, List.append_nil,
      List.append_nil]
  case drained =>
    intro driving
    rw [calm.pending]
    exact kept.drained (drives driving)
  case opened =>
    intro before after same
    exact .inl (kept.opened_of_closed closed (plain_not_mem plain rfl) before after same)
  case owns => exact owns

/-- A driver that stays at what it is at changes nothing about its run. -/
theorem Kept.still (kept : run.Kept) {driver : ConnectionDriver Input} {owned : Owned}
    {rxCtrl : List ControlMsg} (working : run.returned = false) (calm : run.driver.Calm driver)
    (works : run.driver.stage.ends = false)
    (opening : run.driver.stage.isOpening = true → driver.stage.isOpening = true)
    (drives : driver.stage.drives = true → run.driver.stage.drives = true)
    (owns : owned = driver.stage.owns) :
    Kept { run with driver, rxCtrl, owned, events := run.events ++ [] } := by
  -- Without an event all clauses are about the past, and only the stage may change.
  have alive := kept.alive works
  apply kept.goes working alive (calm.open_ alive)
  case quiet => exact ⟨List.not_mem_nil, List.not_mem_nil⟩
  case queue =>
    rw [calm.pending]
    simpa [queuedOf, drainedOf] using kept.queue
  case drained =>
    rw [calm.pending]
    exact fun driving => kept.drained (drives driving)
  case opened =>
    intro earlier later same
    rw [List.append_nil] at same
    rcases kept.opened earlier later same with drained | ⟨opens, rest⟩
    · exact .inl drained
    · rw [calm.pending]
      exact .inr ⟨opening opens, rest⟩
  case owns => exact .inl owns

/-- When a connection opens, everything that is queued is outstanding. -/
theorem Kept.opens (kept : run.Kept) {driver : ConnectionDriver Input} {server : OwnedServer}
    {owned : Owned} {rxCtrl : List ControlMsg} (working : run.returned = false)
    (before : run.driver.stage = .connecting) (after : driver.stage = .activating server)
    (calm : run.driver.Calm driver) (owns : owned = .client) :
    Kept { run with driver, rxCtrl, owned, events := run.events ++ [.opened] } := by
  have alive := kept.alive (by rw [before]; rfl)
  apply kept.goes working alive (calm.open_ alive)
  case quiet => simp
  case queue =>
    rw [calm.pending]
    simpa [queuedOf, drainedOf] using kept.queue
  case drained => simp [after, DriverStage.drives]
  case opened =>
    intro earlier later same
    rcases List.eq_nil_or_concat later with rfl | ⟨rest, last, rfl⟩
    · right
      obtain ⟨rfl, _⟩ := List.append_inj' same rfl
      refine ⟨by rw [after]; rfl, ?_⟩
      rw [kept.outstanding, calm.pending]
      rfl
    · left
      -- An earlier opening is followed by what came after it.
      have inner : run.events = earlier ++ .opened :: rest := by
        have split : run.events ++ [.opened] = (earlier ++ .opened :: rest) ++ [last] := by
          rw [same]
          simp
        exact (List.append_inj' split rfl).1
      rcases kept.opened earlier rest inner with ⟨more, drained⟩ | ⟨opening, _⟩
      · refine ⟨more ++ [last], ?_⟩
        rw [drained]
        simp
      · rw [before] at opening
        cases opening
  case owns =>
    left
    rw [owns, after]
    rfl

/-- Once the queue is empty, the opening is complete. -/
theorem Kept.drainsLast (kept : run.Kept) {driver : ConnectionDriver Input} {server : OwnedServer}
    {owned : Owned} {rxCtrl : List ControlMsg} (working : run.returned = false)
    (before : run.driver.stage = .draining server) (empty : run.driver.pendingControls = [])
    (after : driver.stage = .driving server) (calm : run.driver.Calm driver)
    (owns : owned = .client) :
    Kept { run with driver, rxCtrl, owned, events := run.events ++ [] } := by
  -- Draining ends with an empty queue, so all that was outstanding has been handed over.
  have alive := kept.alive (by rw [before]; rfl)
  apply kept.goes working alive (calm.open_ alive)
  case quiet => exact ⟨List.not_mem_nil, List.not_mem_nil⟩
  case queue =>
    rw [calm.pending]
    simpa [queuedOf, drainedOf] using kept.queue
  case drained =>
    rw [calm.pending]
    exact fun _ => empty
  case opened =>
    intro earlier later same
    rw [List.append_nil] at same
    rcases kept.opened earlier later same with drained | ⟨_, rest⟩
    · exact .inl drained
    · -- Nothing is left to be handed over.
      rw [empty, List.map_nil, List.append_nil] at rest
      exact .inl ⟨[], by rw [rest, List.append_nil]⟩
  case owns =>
    left
    rw [owns, after]
    rfl

/-- A queued control that is handed over is the first one outstanding. -/
theorem Kept.drains (kept : run.Kept) {driver : ConnectionDriver Input} {server : OwnedServer}
    {control : ServerControl} {owned : Owned} {rxCtrl : List ControlMsg}
    (working : run.returned = false) (before : run.driver.stage = .draining server)
    (after : driver.stage = .draining server ∨ driver.stage = .reloading server true)
    (queue : run.driver.pendingControls = control :: driver.pendingControls)
    (open_ : run.driver.health.isShuttingDown = false → driver.health.isShuttingDown = false)
    (owns : owned = .client) :
    Kept { run with driver, rxCtrl, owned, events := run.events ++ [.drained control] } := by
  -- The control that is drained is the first of those still outstanding.
  have alive := kept.alive (by rw [before]; rfl)
  apply kept.goes working alive (open_ alive)
  case quiet => simp
  case queue =>
    rw [kept.queue, queue]
    simp [queuedOf, drainedOf]
  case drained => rcases after with here | here <;> simp [here, DriverStage.drives]
  case opened =>
    intro earlier later same
    obtain ⟨rest, split, rfl⟩ := split_of_not_mem same (by simp)
    rcases kept.opened earlier rest split with ⟨more, drained⟩ | ⟨_, remaining⟩
    · left
      exact ⟨more ++ [.drained control], by rw [drained, List.append_assoc]⟩
    · right
      rw [queue] at remaining
      have opens : driver.stage.isOpening = true := by
        rcases after with here | here
        · rw [here]
          rfl
        · rw [here]
          rfl
      refine ⟨opens, ?_⟩
      rw [← remaining]
      simp
  case owns =>
    left
    rw [owns]
    rcases after with here | here <;> rw [here] <;> rfl

/-- A control that is queued without a connection is outstanding from then on. -/
theorem Kept.queues (kept : run.Kept) {driver : ConnectionDriver Input} {control : ServerControl}
    {owned : Owned} {rxCtrl : List ControlMsg} (working : run.returned = false)
    (stages : run.driver.stage = .connecting ∧ driver.stage = .connecting ∨
      run.driver.stage = .waiting ∧ driver.stage = .retrying)
    (queue : driver.pendingControls = run.driver.pendingControls ++ [control])
    (open_ : driver.health.isShuttingDown = false) (owns : owned = driver.stage.owns) :
    Kept { run with driver, rxCtrl, owned, events := run.events ++ [.queued control] } := by
  -- A control joins the end of the queue while nothing is being drained.
  have closed : run.driver.stage.isOpening = false := by
    rcases stages with ⟨here, _⟩ | ⟨here, _⟩ <;> rw [here] <;> rfl
  have alive : run.driver.health.isShuttingDown = false := by
    apply kept.alive
    rcases stages with ⟨here, _⟩ | ⟨here, _⟩ <;> rw [here] <;> rfl
  apply kept.goes working alive open_
  case quiet => simp
  case queue =>
    rw [queue, kept.queue]
    simp [queuedOf, drainedOf]
  case drained => rcases stages with ⟨_, here⟩ | ⟨_, here⟩ <;> simp [here, DriverStage.drives]
  case opened =>
    intro earlier later same
    exact .inl (kept.opened_of_closed closed (by simp) earlier later same)
  case owns => exact .inl owns

/-- A shutdown is received by a driver that goes on to its end. -/
theorem Kept.shutsDown (kept : run.Kept) {driver : ConnectionDriver Input} {owned : Owned}
    {rxCtrl : List ControlMsg} (working : run.returned = false)
    (stages : (run.driver.stage = .connecting ∨ run.driver.stage = .waiting) ∧
        driver.stage = .stopped ∨
      ∃ server, run.driver.stage = .driving server ∧ driver.stage = .closing server)
    (queue : driver.pendingControls = run.driver.pendingControls)
    (ended : driver.health.isShuttingDown = true)
    (owns : owned = driver.stage.owns ∨ (owned = .canceledTask ∧
      (driver.stage = .waiting ∨ driver.stage = .stopped))) :
    Kept { run with driver, rxCtrl, owned, events := run.events ++ [.shutdown] } := by
  -- From here on the events are those before the shutdown, the shutdown, and at most its answer.
  have closed : run.driver.stage.isOpening = false := by
    rcases stages with ⟨here | here, _⟩ | ⟨_, here, _⟩ <;> rw [here] <;> rfl
  have alive := kept.alive (by
    rcases stages with ⟨here | here, _⟩ | ⟨_, here, _⟩ <;> rw [here] <;> rfl)
  constructor
  case queue =>
    rw [queuedOf_append, drainedOf_append]
    show _ = _ ++ driver.pendingControls
    rw [queue]
    simpa [queuedOf, drainedOf] using kept.queue
  case drained =>
    show driver.stage.drives = true → driver.pendingControls = []
    rw [queue]
    rcases stages with ⟨_, here⟩ | ⟨_, there, here⟩
    · simp [here, DriverStage.drives]
    · intro _
      exact kept.drained (by rw [there]; rfl)
  case opened =>
    intro earlier later same
    exact .inl (kept.opened_of_closed closed (by simp) earlier later same)
  case owned => exact owns
  case returned =>
    intro returned
    rw [working] at returned
    cases returned
  case open_ =>
    intro calm
    rw [ended] at calm
    cases calm
  case ended =>
    intro _
    constructor
    · rcases stages with ⟨_, here⟩ | ⟨_, _, here⟩ <;> simp [here, DriverStage.ends]
    · exact ⟨run.events, by rw [if_neg (by simp [working])], kept.open_ alive⟩

/-- The acknowledgement of a shutdown is the last thing a driver waits for. -/
theorem Kept.acknowledged (kept : run.Kept) {driver : ConnectionDriver Input} {server : OwnedServer}
    {owned : Owned} {rxCtrl : List ControlMsg} (working : run.returned = false)
    (before : run.driver.stage = .closing server) (after : driver.stage = .stopped)
    (queue : driver.pendingControls = run.driver.pendingControls)
    (same : driver.health = run.driver.health) (owns : owned = .nothing) :
    Kept { run with driver, rxCtrl, owned, events := run.events } := by
  -- Only the stage changes, from one that drives nothing to another.
  constructor
  case queue =>
    show _ = _ ++ driver.pendingControls
    rw [queue]
    exact kept.queue
  case drained => simp [after, DriverStage.drives]
  case opened =>
    intro earlier later split
    have absent : DriverEvent.opened ∉ ([] : List DriverEvent) := List.not_mem_nil
    exact .inl (kept.opened_of_closed (by rw [before]; rfl) absent earlier later
      (by rw [List.append_nil]; exact split))
  case owned => exact .inl (by rw [after]; exact owns)
  case returned =>
    intro returned
    rw [working] at returned
    cases returned
  case open_ =>
    intro calm
    rw [same] at calm
    exact kept.open_ calm
  case ended =>
    intro ended
    rw [same] at ended
    exact ⟨by rw [after]; rfl, (kept.ended ended).2⟩

/-- A step of the driver keeps what holds of its run. -/
theorem Kept.moved (kept : run.Kept) (idle : run.isBusy = false) {input : DriverInput Input}
    {driver : ConnectionDriver Input} (moves : run.driver.Moves driver input)
    (rxCtrl : List ControlMsg) : Kept { run.moved input driver with rxCtrl } := by
  obtain ⟨working, free⟩ := Bool.or_eq_false_iff.mp idle
  have owns : run.owned = run.driver.stage.owns := by
    rcases kept.owned with owns | ⟨canceled, _⟩
    · exact owns
    · rw [canceled] at free
      cases free
  show Kept { run with
    driver, rxCtrl, owned := ownedAfter run.owned run.driver driver input
    events := run.events ++ eventsOf run.driver driver input }
  cases moves with
  | begin observed before after calm =>
    -- The attempt starts, or missing permissions hold it back.
    apply kept.simply working _ calm
    case closed | works => rcases before with here | here <;> rw [here] <;> rfl
    case drives => rcases after with here | here <;> simp [here, DriverStage.drives]
    case owns =>
      left
      have nothing : run.owned = .nothing := by
        rw [owns]
        rcases before with here | here <;> rw [here] <;> rfl
      rcases after with here | here <;> simp [ownedAfter, here, DriverStage.owns, nothing]
    · rcases after with here | here <;> simp [eventsOf, here, DriverEvent.isPlain]
  | connected observed opened before after calm =>
    rcases after with after | after
    · -- The new connection is given up at once.
      apply kept.simply working _ calm
      case closed | works => rw [before]; rfl
      case drives => simp [after, DriverStage.drives]
      case owns => simp [ownedAfter, after, DriverStage.owns]
      · simp [eventsOf, after]
    · have told : eventsOf run.driver driver (.connected observed opened) = [.opened] := by
        simp [eventsOf, after]
      rw [told]
      exact kept.opens working before after calm (by simp [ownedAfter, after])
  -- The attempt is over, and its task with it.
  | connectFailed error before after calm =>
    apply kept.simply working _ calm
    case closed | works => rw [before]; rfl
    case drives => simp [after, DriverStage.drives]
    case owns => exact .inl (by rw [after]; rfl)
    · exact fun _ member => absurd member List.not_mem_nil
  | connectCanceled before after calm =>
    apply kept.simply working _ calm
    case closed | works => rw [before]; rfl
    case drives => simp [after, DriverStage.drives]
    case owns => exact .inl (by rw [after]; rfl)
    · exact fun _ member => absurd member List.not_mem_nil
  | dropped stages calm =>
    -- The loss of its connection is nothing the driver does.
    obtain ⟨opening, drives, same, works⟩ := DriverStage.lose_kept stages
    exact kept.still working calm works (fun opens => opening.trans opens)
      (fun driving => drives.symm.trans driving) (owns.trans same.symm)
  | activated result before after calm =>
    refine kept.still working calm ?_ (fun _ => by rw [after]; rfl)
      (fun driving => by rw [after] at driving; cases driving) ?_
    · rcases before with here | here <;> rw [here] <;> rfl
    · show run.owned = _
      rw [owns, after]
      rcases before with here | here <;> rw [here] <;> rfl
  -- A reload in the select loop leaves its server owned.
  | reloaded result before after calm =>
    apply kept.simply working _ calm
    case closed | works => rw [before]; rfl
    case drives => rw [before]; exact fun _ => rfl
    case owns =>
      left
      show run.owned = _
      rw [owns, before, after]
      rfl
    · exact fun _ member => absurd member List.not_mem_nil
  -- The select loop is entered with nothing left on the queue.
  | drainedAll observed before empty after calm =>
    have told : eventsOf run.driver driver (.drain observed) = [] := by simp [eventsOf, empty]
    rw [told]
    exact kept.drainsLast working before empty after calm (by
      show run.owned = _
      rw [owns, before]
      rfl)
  | @drains observed server control before after queue open_ =>
    have told : eventsOf run.driver driver (.drain observed) = [.drained control] := by
      simp [eventsOf, queue]
    rw [told]
    exact kept.drains working before after queue open_ (by
      show run.owned = _
      rw [owns, before]
      rfl)
  -- The message joins the queue, wherever the attempt stands.
  | @queues msg observed control routes stages queue open_ =>
    have told : eventsOf run.driver driver (.control msg observed) = [.queued control] := by
      rcases stages with ⟨here, _⟩ | ⟨here, _⟩ <;> simp [eventsOf, routes, here]
    rw [told]
    refine kept.queues working stages queue open_ ?_
    rcases stages with ⟨here, there⟩ | ⟨here, there⟩
    · simp [ownedAfter, here, there, owns]
    · simp [ownedAfter, here, there, owns, DriverStage.owns]
  -- In the select loop the message is handled at once.
  | @handles msg observed control server routes before after calm =>
    have told : eventsOf run.driver driver (.control msg observed) = [.handled control] := by
      simp [eventsOf, routes, before]
    rw [told]
    apply kept.simply working _ calm
    case closed | works => rw [before]; rfl
    case drives => rw [before]; exact fun _ => rfl
    case owns =>
      left
      rcases after with here | here <;> simp [ownedAfter, before, here, owns, DriverStage.owns]
    · simp [DriverEvent.isPlain]
  | @locally msg observed control routes stages calm =>
    -- A local control may pause an attempt or end a wait, and leaves a connection alone.
    have told : eventsOf run.driver driver (.control msg observed) = [] := by
      simp [eventsOf, routes]
    rw [told]
    apply kept.simply working _ calm
    case closed | works =>
      rcases stages with ⟨here, _⟩ | ⟨here, _⟩ | ⟨_, here, _⟩ <;> rw [here] <;> rfl
    case drives =>
      rcases stages with ⟨_, here | here⟩ | ⟨_, here | here⟩ | ⟨_, there, here⟩
      · simp [here, DriverStage.drives]
      · simp [here, DriverStage.drives]
      · simp [here, DriverStage.drives]
      · simp [here, DriverStage.drives]
      · simp [there, DriverStage.drives]
    case owns =>
      rcases stages with ⟨there, here | here⟩ | ⟨there, here | here⟩ | ⟨_, there, here⟩
      · simp [ownedAfter, here, there, owns]
      · -- A pause aborts the attempt, whose task has yet to end.
        simp [ownedAfter, here, there]
      · simp [ownedAfter, here, there, owns]
      · simp [ownedAfter, here, there, owns, DriverStage.owns]
      · simp [ownedAfter, here, there, owns]
    · exact fun _ member => absurd member List.not_mem_nil
  | @shutsDown msg observed routes stages queue ended =>
    have told : eventsOf run.driver driver (.control msg observed) = [.shutdown] := by
      simp [eventsOf, routes]
    rw [told]
    refine kept.shutsDown working stages queue ended ?_
    rcases stages with ⟨there | there, here⟩ | ⟨_, there, here⟩
    · -- The attempt is aborted first.
      simp [ownedAfter, here, there]
    · simp [ownedAfter, here, there, owns, DriverStage.owns]
    · simp [ownedAfter, here, there, owns, DriverStage.owns]
  | heartbeat input before after calm =>
    apply kept.simply working _ calm
    case closed | works => rw [before]; rfl
    case drives => rw [before]; exact fun _ => rfl
    case owns =>
      left
      show run.owned = _
      rw [owns, before, after]
    · exact fun _ member => absurd member List.not_mem_nil
  | lost opening before after calm =>
    apply kept.simply working _ calm
    case closed | works => rw [before]; rfl
    case drives => simp [after, DriverStage.drives]
    case owns => exact .inl (by rw [after]; rfl)
    · exact fun _ member => absurd member List.not_mem_nil
  | acknowledged before after queue same =>
    rw [eventsOf, List.append_nil]
    exact kept.acknowledged working before after queue same rfl
  | controlsClosed before after calm =>
    apply kept.simply working _ calm
    case closed | works => rw [before]; rfl
    case drives => simp [after, DriverStage.drives]
    case owns =>
      left
      show run.owned = _
      rw [owns, before, after]
      rfl
    · exact fun _ member => absurd member List.not_mem_nil

/-- A driver that has stopped, with no task left to end, owns nothing. -/
theorem Kept.free (kept : run.Kept) (idle : run.isBusy = false)
    (stopped : run.driver.stage = .stopped) : run.owned = .nothing := by
  rcases kept.owned with owns | ⟨canceled, _⟩
  · rw [owns, stopped]
    rfl
  · rw [isBusy, canceled] at idle
    simp at idle

/-- The end of a run keeps what holds of it. -/
theorem Kept.finished (kept : run.Kept) (idle : run.isBusy = false)
    (stopped : run.driver.stage = .stopped) : run.finished.Kept := by
  -- The run tells the UI that it closes, once, and only after a shutdown.
  obtain ⟨working, _⟩ := Bool.or_eq_false_iff.mp idle
  have free := kept.free idle stopped
  have told : ∀ event ∈ (if run.driver.health.isShuttingDown then [DriverEvent.closed] else []),
      event = .closed := by
    intro event member
    split at member
    · exact List.mem_singleton.mp member
    · cases member
  have none :
      queuedOf (if run.driver.health.isShuttingDown then [DriverEvent.closed] else []) = [] ∧
      drainedOf (if run.driver.health.isShuttingDown then [DriverEvent.closed] else []) = [] := by
    split <;> exact ⟨rfl, rfl⟩
  constructor
  case queue =>
    show queuedOf (_ ++ _) = drainedOf (_ ++ _) ++ run.driver.pendingControls
    rw [queuedOf_append, drainedOf_append, none.1, none.2, List.append_nil, List.append_nil]
    exact kept.queue
  case drained => exact kept.drained
  case opened =>
    intro before after same
    refine .inl (kept.opened_of_closed (by rw [stopped]; rfl) ?_ before after same)
    intro member
    cases told _ member
  case owned => exact kept.owned
  case returned => exact fun _ => ⟨stopped, free⟩
  case open_ =>
    intro calm
    have calm : run.driver.health.isShuttingDown = false := calm
    show DriverEvent.shutdown ∉ run.events ++ _ ∧ DriverEvent.closed ∉ run.events ++ _
    rw [if_neg (by rw [calm]; exact Bool.false_ne_true), List.append_nil]
    exact kept.open_ calm
  case ended =>
    intro ended
    have ended : run.driver.health.isShuttingDown = true := ended
    obtain ⟨ends, before, same, absent⟩ := kept.ended ended
    refine ⟨ends, before, ?_, absent⟩
    show run.events ++ _ = before ++ .shutdown :: (if true = true then _ else _)
    rw [same, if_pos ended, if_pos rfl, if_neg (by simp [working])]
    simp

/-- Every step of a run is a move of its driver, the end of an aborted task, the end of the run, or
a control that is sent to it. -/
theorem step_cases [DecidableEq Input] {input : RunInput Input} (taken : Steps run input next) :
    (input.isOutside = true ∧ ∃ rxCtrl, next = { run with rxCtrl }) ∨
    (run.isBusy = false ∧ ∃ given driver rxCtrl, (given = .dropped → input.isOutside = true) ∧
      run.driver.Moves driver given ∧ next = { run.moved given driver with rxCtrl }) ∨
    (input.isOutside = false ∧ run.owned = .canceledTask ∧ next = { run with owned := .nothing }) ∨
    (input.isOutside = false ∧ run.isBusy = false ∧ run.driver.stage = .stopped ∧
      next = run.finished) := by
  -- What is not a move of the driver is a message, the end of the aborted task, or the return.
  have general : ∀ {given : DriverInput Input} {outside : Bool}, run.isBusy = false →
      (given = .dropped → outside = true) →
      (run.driver.step given).map (run.moved given) = some next → ∃ given driver rxCtrl,
        (given = .dropped → outside = true) ∧ run.driver.Moves driver given ∧
          next = { run.moved given driver with rxCtrl } := by
    intro given outside idle dropped taken
    obtain ⟨driver, moved, same⟩ := Option.map_eq_some_iff.mp taken
    exact ⟨given, driver, run.rxCtrl, dropped, ConnectionDriver.step_moves moved, same.symm⟩
  cases input with
  | send msg =>
    cases taken
    exact .inl ⟨rfl, _, rfl⟩
  | drop =>
    obtain ⟨busy, taken⟩ := Option.ite_none_left_eq_some.mp taken
    have idle : run.isBusy = false := Bool.not_eq_true _ ▸ busy
    exact .inr (.inl ⟨idle, general idle (fun _ => rfl) taken⟩)
  | receive observed =>
    simp only [Steps, DriverRun.step] at taken
    split at taken
    · split at taken
      · cases taken
      · rename_i idle
        obtain ⟨driver, moved, same⟩ := Option.bind_eq_some_iff.mp taken
        cases same
        exact .inr (.inl ⟨Bool.not_eq_true _ ▸ idle, _, driver, _, (fun same => by cases same),
          ConnectionDriver.step_moves moved, rfl⟩)
    · cases taken
  -- The environment may hand the driver anything but controls and a silent loss.
  | await input =>
    cases input with
    | control | dropped => cases taken
    | controlsClosed =>
      obtain ⟨quiet, taken⟩ := Option.ite_none_left_eq_some.mp taken
      have idle : run.isBusy = false := by
        cases busy : run.isBusy with
        | false => rfl
        | true => exact absurd (.inl busy) quiet
      exact .inr (.inl ⟨idle, general idle (fun same => by cases same) taken⟩)
    | begin | connected | connectFailed | connectCanceled | activated | drain | heartbeat | lost
    | shutdownAcknowledged =>
      obtain ⟨busy, taken⟩ := Option.ite_none_left_eq_some.mp taken
      have idle : run.isBusy = false := Bool.not_eq_true _ ▸ busy
      exact .inr (.inl ⟨idle, general idle (fun same => by cases same) taken⟩)
  | taskEnds =>
    obtain ⟨canceled, same⟩ := Option.ite_none_right_eq_some.mp taken
    cases same
    exact .inr (.inr (.inl ⟨rfl, canceled, rfl⟩))
  | finish =>
    obtain ⟨⟨idle, stopped⟩, same⟩ := Option.ite_none_right_eq_some.mp taken
    cases same
    exact .inr (.inr (.inr ⟨rfl, by simpa using idle, stopped, rfl⟩))

/-- Every step keeps what holds of a run. -/
theorem Kept.step [DecidableEq Input] (kept : run.Kept) {input : RunInput Input}
    (taken : Steps run input next) : next.Kept := by
  -- A message changes no event, and the driver's moves keep what was shown for each of them.
  rcases step_cases taken with ⟨_, rxCtrl, rfl⟩ | ⟨idle, given, driver, rxCtrl, _, moves, rfl⟩ |
    ⟨_, canceled, rfl⟩ | ⟨_, idle, stopped, rfl⟩
  · exact ⟨kept.queue, kept.drained, kept.opened, kept.owned, kept.returned, kept.open_,
      kept.ended⟩
  · exact kept.moved idle moves rxCtrl
  · -- A task that was aborted leaves the driver with what its stage stands for.
    refine ⟨kept.queue, kept.drained, kept.opened, .inl ?_, ?_, kept.open_, kept.ended⟩
    · show Owned.nothing = run.driver.stage.owns
      rcases kept.owned with owns | ⟨_, waits | stopped⟩
      · rw [canceled] at owns
        cases standing : run.driver.stage <;> rw [standing] at owns <;> cases owns
      · rw [waits]
        rfl
      · rw [stopped]
        rfl
    · intro returned
      rw [(kept.returned returned).2] at canceled
      cases canceled
  · exact kept.finished idle stopped

/-- What was queued when a connection opened is handed over right after that, before anything else,
or the driver is still at it. -/
def DrainsFirst (run : DriverRun Input) : Prop :=
  ∀ before after, run.events = before ++ .opened :: after →
    (App.outstanding before).map .drained <+: after ∨
      (run.driver.stage.isOpening = true ∧
        after ++ run.driver.pendingControls.map .drained = (App.outstanding before).map .drained)

/-- After a shutdown nothing happens but that the UI is closed once, when the run returns. -/
def ClosesOnce (run : DriverRun Input) : Prop :=
  ∀ before after, run.events = before ++ .shutdown :: after →
    .closed ∉ before ∧ after = if run.returned then [.closed] else []

/-- Whether a run has queued controls to hand over, or a shutdown to complete. -/
def isDue (run : DriverRun Input) : Bool :=
  run.driver.stage.isOpening || (run.driver.health.isShuttingDown && !run.returned)

/-- How many steps a run takes at most until that is done. -/
def stepsDue (run : DriverRun Input) : Nat :=
  if run.returned then 0
  else
    match run.driver.stage with
    | .activating _ | .reloading _ true => 2 * run.driver.pendingControls.length + 2
    | .draining _ => 2 * run.driver.pendingControls.length + 1
    | .closing _ => 2
    | .stopped => if run.owned = .canceledTask then 2 else 1
    | .starting | .retrying | .connecting | .reloading _ false | .driving _ | .waiting => 0

/-- A run that has something due is not busy with anything else but the end of a task. -/
theorem Kept.due (kept : run.Kept) (due : run.isDue = true) : run.returned = false := by
  cases returned : run.returned with
  | false => rfl
  | true =>
    rw [isDue, (kept.returned returned).1, returned] at due
    simp [DriverStage.isOpening] at due

/-- Every step of a run that has something due brings it nearer to its end. -/
theorem Kept.nearer [DecidableEq Input] (kept : run.Kept) (due : run.isDue = true)
    {input : RunInput Input} (own : input.isOutside = false) (taken : Steps run input next) :
    next.stepsDue < run.stepsDue := by
  have working := kept.due due
  have stage : run.driver.stage.isOpening = true ∨ run.driver.stage.ends = true := by
    rcases (Bool.or_eq_true _ _).mp due with opening | ending
    · exact .inl opening
    · exact .inr (kept.ended (Bool.and_eq_true_iff.mp ending).1).1
  -- In no other stage is there anything due.
  have elsewhere : ∀ {other : DriverStage}, other.isOpening = false → other.ends = false →
      run.driver.stage ≠ other := by
    intro other closed works same
    rw [same, closed, works] at stage
    simp at stage
  rcases step_cases taken with ⟨sent, _⟩ | ⟨idle, given, driver, rxCtrl, dropped, moves, rfl⟩ |
    ⟨_, canceled, rfl⟩ | ⟨_, idle, stopped, rfl⟩
  · rw [own] at sent
    cases sent
  · show stepsDue { run with
      driver, rxCtrl, owned := ownedAfter run.owned run.driver driver given
      events := run.events ++ eventsOf run.driver driver given } < _
    cases moves with
    | begin observed before =>
      rcases before with here | here
      · exact absurd here (elsewhere rfl rfl)
      · exact absurd here (elsewhere rfl rfl)
    | connected _ _ before => exact absurd before (elsewhere rfl rfl)
    | connectFailed _ before => exact absurd before (elsewhere rfl rfl)
    | connectCanceled before => exact absurd before (elsewhere rfl rfl)
    | dropped =>
      rw [dropped rfl] at own
      cases own
    | activated result before after calm =>
      simp only [stepsDue, working, after, calm.pending, Bool.false_eq_true, if_false]
      rcases before with here | here <;> rw [here] <;> simp
    | reloaded _ before => exact absurd before (elsewhere rfl rfl)
    | drainedAll observed before empty after =>
      simp [stepsDue, working, before, after]
    | drains observed before after queue =>
      simp only [stepsDue, working, before, queue, Bool.false_eq_true, if_false, List.length_cons]
      rcases after with here | here
      · simp only [here]
        omega
      · simp only [here]
        omega
    | queues _ _ stages =>
      rcases stages with ⟨here, _⟩ | ⟨here, _⟩
      · exact absurd here (elsewhere rfl rfl)
      · exact absurd here (elsewhere rfl rfl)
    | handles _ _ before => exact absurd before (elsewhere rfl rfl)
    | locally _ _ stages =>
      rcases stages with ⟨here, _⟩ | ⟨here, _⟩ | ⟨_, here, _⟩
      · exact absurd here (elsewhere rfl rfl)
      · exact absurd here (elsewhere rfl rfl)
      · exact absurd here (elsewhere rfl rfl)
    | shutsDown _ _ stages =>
      rcases stages with ⟨here | here, _⟩ | ⟨_, here, _⟩
      · exact absurd here (elsewhere rfl rfl)
      · exact absurd here (elsewhere rfl rfl)
      · exact absurd here (elsewhere rfl rfl)
    | heartbeat _ before => exact absurd before (elsewhere rfl rfl)
    | lost _ before => exact absurd before (elsewhere rfl rfl)
    | acknowledged before after => simp [stepsDue, working, before, after, ownedAfter]
    | controlsClosed before => exact absurd before (elsewhere rfl rfl)
  · have stopped : run.driver.stage = .stopped := by
      rcases kept.owned with owns | ⟨_, waits | stopped⟩
      · rw [canceled] at owns
        cases standing : run.driver.stage <;> rw [standing] at owns <;> cases owns
      · exact absurd waits (elsewhere rfl rfl)
      · exact stopped
    simp [stepsDue, working, stopped, canceled]
  · have free := kept.free idle stopped
    simp [stepsDue, DriverRun.finished, working, stopped, free]

/-- A run that has something due can take a step. -/
theorem Kept.enabled [DecidableEq Input] (kept : run.Kept) (due : run.isDue = true) :
    ∃ input next, input.isOutside = false ∧ Steps run input next := by
  -- Every stage in which something is due offers the driver a step of its own.
  have working := kept.due due
  have idle : run.owned ≠ .canceledTask → run.isBusy = false := by
    intro free
    rw [isBusy, working, Bool.false_or]
    exact beq_eq_false_iff_ne.mpr free
  have awaits : ∀ (input : DriverInput Input) {driver : ConnectionDriver Input},
      run.owned ≠ .canceledTask → run.driver.step input = some driver →
      run.step (.await input) = (if run.isBusy then none else
        (run.driver.step input).map (run.moved input)) →
      ∃ input next, RunInput.isOutside input = false ∧ Steps run input next := by
    intro input driver free moves same
    refine ⟨.await input, run.moved input driver, rfl, ?_⟩
    rw [Steps, same, idle free, moves]
    rfl
  have free_of : ∀ {stage : DriverStage}, run.driver.stage = stage → stage ≠ .waiting →
      stage ≠ .stopped → run.owned ≠ .canceledTask := by
    intro stage here waits stopped canceled
    rcases kept.owned with owns | ⟨_, there | there⟩
    · rw [canceled] at owns
      cases standing : run.driver.stage <;> rw [standing] at owns <;> cases owns
    · exact waits (here.symm.trans there)
    · exact stopped (here.symm.trans there)
  have stage : run.driver.stage.isOpening = true ∨ run.driver.stage.ends = true := by
    rcases (Bool.or_eq_true _ _).mp due with opening | ending
    · exact .inl opening
    · exact .inr (kept.ended (Bool.and_eq_true_iff.mp ending).1).1
  cases standing : run.driver.stage with
  | activating server =>
    have moves : run.driver.step (.activated (.error "")) =
        some (run.driver.activateConfig server .draining (.error "")) := by
      simp only [ConnectionDriver.step, standing, ConnectionDriver.answerActivation_error]
    exact awaits (.activated (.error "")) (free_of standing (by simp) (by simp)) moves rfl
  -- A reload while driving is not due, so only the one while draining is.
  | reloading server draining =>
    cases draining with
    | true =>
      have moves : run.driver.step (.activated (.error "")) =
          some (run.driver.activateConfig server .draining (.error "")) := by
        simp only [ConnectionDriver.step, standing, ConnectionDriver.answerActivation_error]
      exact awaits (.activated (.error "")) (free_of standing (by simp) (by simp)) moves rfl
    | false =>
      rw [standing] at stage
      simp [DriverStage.isOpening, DriverStage.ends] at stage
  | draining server =>
    have moves : ∃ driver, run.driver.step (.drain {}) = some driver := by
      cases queue : run.driver.pendingControls with
      | nil => simp [ConnectionDriver.step, standing, queue]
      | cons control rest => simp [ConnectionDriver.step, standing, queue]
    obtain ⟨driver, moves⟩ := moves
    exact awaits (.drain {}) (free_of standing (by simp) (by simp)) moves rfl
  | closing server =>
    have moves : run.driver.step .shutdownAcknowledged = some (run.driver.enter .stopped) := by
      simp only [ConnectionDriver.step, standing]
    exact awaits .shutdownAcknowledged (free_of standing (by simp) (by simp)) moves rfl
  -- An aborted task is waited for before the run returns.
  | stopped =>
    by_cases canceled : run.owned = .canceledTask
    · exact ⟨.taskEnds, _, rfl, if_pos canceled⟩
    · refine ⟨.finish, run.finished, rfl, if_pos ⟨?_, standing⟩⟩
      rw [idle canceled]
      rfl
  | starting | retrying | connecting | driving | waiting =>
    rw [standing] at stage
    simp [DriverStage.isOpening, DriverStage.ends] at stage

/-- A shutdown is received once, and closes the UI once. -/
theorem Kept.closesOnce (kept : run.Kept) : run.ClosesOnce := by
  -- The shutdown that is recorded is the one the closing event answers, and nothing follows it.
  intro before after same
  have ended : run.driver.health.isShuttingDown = true := by
    cases calm : run.driver.health.isShuttingDown with
    | true => rfl
    | false =>
      have received : DriverEvent.shutdown ∈ run.events := by
        rw [same]
        simp
      exact absurd received (kept.open_ calm).1
  obtain ⟨_, earlier, split, noShutdown, noClosed⟩ := kept.ended ended
  have last : DriverEvent.shutdown ∉ (if run.returned then [DriverEvent.closed] else []) := by
    split <;> simp
  rw [split] at same
  rcases List.append_eq_append_iff.mp same with ⟨rest, here, there⟩ | ⟨rest, here, there⟩
  · cases rest with
    | nil =>
      cases there
      rw [List.append_nil] at here
      rw [here]
      exact ⟨noClosed, rfl⟩
    | cons first rest =>
      rw [List.cons_append] at there
      obtain ⟨_, tail⟩ := List.cons.inj there
      rw [tail] at last
      simp at last
  · cases rest with
    | nil =>
      cases there
      rw [List.append_nil] at here
      rw [← here]
      exact ⟨noClosed, rfl⟩
    | cons first rest =>
      cases there
      rw [here] at noShutdown
      simp at noShutdown

/-- The UI is closed by a driver that owns nothing any more. -/
theorem Kept.closes [DecidableEq Input] (kept : run.Kept) {input : RunInput Input}
    (taken : Steps run input next) (before : .closed ∉ run.events) (after : .closed ∈ next.events) :
    run.owned = .nothing := by
  -- Only the return of the run closes the UI, and by then nothing is owned.
  rcases step_cases taken with ⟨_, rxCtrl, rfl⟩ | ⟨_, given, driver, rxCtrl, _, _, rfl⟩ |
    ⟨_, _, rfl⟩ | ⟨_, idle, stopped, _⟩
  · exact absurd after before
  · -- No move of the driver closes the UI.
    exfalso
    have told : DriverEvent.closed ∈ eventsOf run.driver driver given :=
      (List.mem_append.mp after).resolve_left before
    cases given with
    | begin | connected | drain =>
      simp only [eventsOf] at told
      split at told <;> simp at told
    | control msg observed =>
      simp only [eventsOf] at told
      split at told <;> simp at told
    | connectFailed | connectCanceled | dropped | activated | heartbeat | lost
    | shutdownAcknowledged | controlsClosed => cases told
  · exact absurd after before
  · exact kept.free idle stopped

/--
Queued controls and the shutdown in every run of the driver.

What was queued was handed to the server handler once and in order, or still is queued; once a
connection opens it is handed over before anything else happens. After a shutdown no attempt starts,
and the UI is closed once, when the run returns and owns no task and no connection any more. What is
due is done after finitely many steps of the driver, of which there is always one to take.
-/
theorem controls_kept [DecidableEq Input] {configPath : String} {tap : Bool}
    {observed : PermissionsStatus} {input : Input} {inputs : List (RunInput Input)}
    {final : DriverRun Input}
    (run : Run Steps (start configPath tap observed input) inputs final) :
    queuedOf final.events = drainedOf final.events ++ final.driver.pendingControls ∧
      final.DrainsFirst ∧ final.ClosesOnce ∧
      (∀ input next, Steps final input next → .closed ∉ final.events → .closed ∈ next.events →
        final.owned = .nothing) ∧
      (final.isDue = true → (∃ input next, RunInput.isOutside input = false ∧
        Steps final input next) ∧ ∀ input next, RunInput.isOutside input = false →
          Steps final input next → next.stepsDue < final.stepsDue) := by
  have kept : final.Kept := run.invariant Kept (fun taken kept => kept.step taken)
    (.start configPath tap observed input)
  refine ⟨kept.queue, ?_, ?_, ?_, fun due => ⟨kept.enabled due, fun input next own taken =>
    kept.nearer due own taken⟩⟩
  · intro before after same
    rcases kept.opened before after same with ⟨later, drained⟩ | opening
    · exact .inl ⟨later, drained.symm⟩
    · exact .inr opening
  · exact kept.closesOnce
  · exact fun _ _ taken open_ closed => kept.closes taken open_ closed

/-- What is seen of a run: its events, what it owns, and whether it has returned. -/
private def record (run : DriverRun Unit) : List DriverEvent × Owned × Bool :=
  (run.events, run.owned, run.returned)

/-- Two controls are queued while connecting and while waiting, and another one is received on the
connection that opens in the third attempt; then the driver is told to shut down. -/
private def attempts : List (RunInput Unit) :=
  [.send .reload, .await (.begin {}), .receive {}, .await (.connectFailed "refused"),
    .send (.injectKey "a" true), .receive {}, .await (.begin {}), .await .connectCanceled,
    .send (.injectKey "b" false), .send .reload, .receive {}, .await (.begin {}),
    .await (.connected {} (.ok ())), .await (.activated (.ok ())), .await (.drain {}),
    .await (.activated (.ok ())), .await (.drain {}), .await (.drain {}), .await (.drain {}),
    .receive {}, .await (.activated (.error "rejected")), .send .shutdown, .receive {},
    .await .shutdownAcknowledged, .finish]

/-- The events of these attempts. -/
private def attemptEvents : List DriverEvent :=
  [.connecting, .queued .reload, .queued (.injectKey "a" true), .connecting,
    .queued (.injectKey "b" false), .connecting, .opened, .drained .reload,
    .drained (.injectKey "a" true), .drained (.injectKey "b" false), .handled .reload, .shutdown,
    .closed]

/-- The conclusion at a driver that connects in its third attempt and is told to shut down. -/
theorem controls_kept_once : ∃ final : DriverRun Unit,
    record final = (attemptEvents, .nothing, true) ∧
      queuedOf final.events = drainedOf final.events ++ final.driver.pendingControls ∧
      final.DrainsFirst ∧ final.ClosesOnce := by
  obtain ⟨final, seen, run⟩ := Run.of_foldlM step (start "config.luau" false {} ()) attempts record
    (attemptEvents, .nothing, true) (by decide +kernel)
  obtain ⟨queue, first, once, _⟩ := controls_kept run
  exact ⟨final, seen, queue, first, once⟩

end DriverRun

end App

end Hotki

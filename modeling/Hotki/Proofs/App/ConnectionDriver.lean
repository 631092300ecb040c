import Hotki.App.ConnectionDriver

/-! The published runtime health tells what the connection driver owns. -/

namespace Hotki

open Base

namespace App

variable {Input : Type*}

namespace DriverStage

/-- The server behind the connection that the driver works with. -/
def peer : DriverStage → Option OwnedServer
  | .activating server | .draining server | .reloading server _ | .driving server => some server
  | .starting | .retrying | .connecting | .waiting | .closing _ | .stopped => none

/-- Whether that connection was lost. -/
def isLost (stage : DriverStage) : Bool := stage.peer.any OwnedServer.lost

/-- The server behind the live connection that the driver owns; a lost or a closing one is no longer
live. -/
def server (stage : DriverStage) : Option OwnedServer :=
  stage.peer.filter fun server => !server.lost

/-- Whether a connect attempt is in flight, the first one from the driver's start. -/
def isConnecting : DriverStage → Bool
  | .starting | .connecting => true
  | _ => false

end DriverStage

/-- A snapshot is true to the stage to which its transition leads. -/
structure Truthful (health : RuntimeHealth Input) (stage : DriverStage) : Prop where
  /-- An active config is the one that the owned live server accepted last. -/
  active : ∀ config, health.activeConfig = some config →
    ∃ server, stage.server = some server ∧ server.activated = some config
  /-- A running config is moreover one after which none was rejected. -/
  running : ∀ config, health.state = .running config →
    ∃ server, stage.server = some server ∧ server.activated = some config ∧
      server.rejected = false
  connected : health.connection = .connected ↔ stage.server.isSome = true
  connecting : health.connection = .connecting ↔ stage.isConnecting = true

/-- The states of a live connection: what its server accepted and rejected is in view. -/
inductive Live (configPath : String) (server : OwnedServer) : RuntimeState → Prop where
  | running (accepted : server.activated = some configPath) (last : server.rejected = false) :
    Live configPath server (.running configPath)
  | rejected (candidate message : String) (last : server.rejected = true) :
    Live configPath server (.configRejected server.activated candidate message)
  | blocked (kept : server.rejected = false → server.activated = some configPath) :
    Live configPath server (.permissionBlocked server.activated true)

/-- The states in which the driver may stand at a stage. -/
inductive Fits (configPath : String) : RuntimeState → DriverStage → Prop where
  | starting (candidate : String) : Fits configPath (.initialConnection candidate) .starting
  | lost (message : Option String) : Fits configPath (.disconnected message) .retrying
  | queued (candidate : String) : Fits configPath (.queuedReconnect candidate) .retrying
  | initial (candidate : String) : Fits configPath (.initialConnection candidate) .connecting
  | again (candidate : String) : Fits configPath (.reconnecting candidate) .connecting
  | initialActivating (candidate : String) (lost : Bool) :
    Fits configPath (.initialConnection candidate) (.activating { lost })
  | activatingAgain (candidate : String) (lost : Bool) :
    Fits configPath (.reconnecting candidate) (.activating { lost })
  | draining {server : OwnedServer} {state : RuntimeState} (live : Live configPath server state) :
    Fits configPath state (.draining server)
  | driving {server : OwnedServer} {state : RuntimeState} (live : Live configPath server state) :
    Fits configPath state (.driving server)
  | reloading (server : OwnedServer) (draining : Bool) (candidate : String)
    (kept : server.rejected = false → server.activated = some configPath) :
    Fits configPath (.liveConfigReload server.activated candidate) (.reloading server draining)
  | offline (message : Option String) : Fits configPath (.disconnected message) .waiting
  | barred : Fits configPath (.permissionBlocked none false) .waiting
  | closing (server : OwnedServer) : Fits configPath (.shuttingDown true) (.closing server)
  | stopped (liveRuntime : Bool) : Fits configPath (.shuttingDown liveRuntime) .stopped
  | idle (message : Option String) : Fits configPath (.disconnected message) .stopped
  | idleBarred : Fits configPath (.permissionBlocked none false) .stopped

/-- Whether a stage is one that no snapshot leads to. -/
def DriverStage.isActivating : DriverStage → Bool
  | .activating _ => true
  | _ => false

/-- A connection that was not lost is the live one. -/
theorem DriverStage.server_of_peer {stage : DriverStage} {server : OwnedServer}
    (owned : stage.peer = some server) (held : stage.isLost = false) :
    stage.server = some server := by
  rw [isLost, owned, Option.any_some] at held
  rw [DriverStage.server, owned, Option.filter_some, held]
  rfl

/-- A snapshot whose state fits its stage is truthful unless the connection was lost. -/
theorem Fits.truthful {configPath : String} {health : RuntimeHealth Input} {stage : DriverStage}
    (fits : Fits configPath health.state stage) (shown : stage.isActivating = false)
    (held : stage.isLost = false) : Truthful health stage := by
  -- The cases are the pairs of a state and a stage that fit.
  obtain ⟨state, permissions, input⟩ := health
  change Fits configPath state stage at fits
  -- With a server owned, what is shown of its configuration is the server's own record.
  have live : ∀ {server : OwnedServer} {state : RuntimeState}, Live configPath server state →
      stage.server = some server → stage.isConnecting = false →
      Truthful (⟨state, permissions, input⟩ : RuntimeHealth Input) stage := by
    intro server state live owned calm
    cases live with
    | running accepted last =>
      refine ⟨fun config same => ?_, fun config same => ?_, ?_, ?_⟩
      · cases same
        exact ⟨server, owned, accepted⟩
      · cases same
        exact ⟨server, owned, accepted, last⟩
      · simp [RuntimeHealth.connection, owned]
      · simp [RuntimeHealth.connection, calm]
    | rejected candidate message last =>
      refine ⟨fun config same => ⟨server, owned, same⟩, fun config same => ?_, ?_, ?_⟩
      · cases same
      · simp [RuntimeHealth.connection, owned]
      · simp [RuntimeHealth.connection, calm]
    | blocked kept =>
      refine ⟨fun config same => ⟨server, owned, same⟩, fun config same => ?_, ?_, ?_⟩
      · cases same
      · simp [RuntimeHealth.connection, owned]
      · simp [RuntimeHealth.connection, calm]
  cases fits with
  | initialActivating | activatingAgain => cases shown
  | draining shows => exact live shows (DriverStage.server_of_peer rfl held) rfl
  | driving shows => exact live shows (DriverStage.server_of_peer rfl held) rfl
  | reloading server draining candidate kept =>
    have owned := DriverStage.server_of_peer rfl held
    refine ⟨fun config same => ⟨server, owned, same⟩, fun config same => ?_, ?_, ?_⟩
    · cases same
    · simp [RuntimeHealth.connection, owned]
    · simp [RuntimeHealth.connection, DriverStage.isConnecting]
  -- Without a server neither a running nor a ready configuration is shown.
  | starting | lost | queued | initial | again | offline | barred | closing | idle | idleBarred =>
    refine ⟨fun config same => ?_, fun config same => ?_, ?_, ?_⟩
    · cases same
    · cases same
    · simp [RuntimeHealth.connection, DriverStage.server, DriverStage.peer]
    · simp [RuntimeHealth.connection, DriverStage.isConnecting]
  | stopped liveRuntime =>
    refine ⟨fun config same => ?_, fun config same => ?_, ?_, ?_⟩
    · cases same
    · cases same
    · cases liveRuntime <;>
        simp [RuntimeHealth.connection, DriverStage.server, DriverStage.peer]
    · cases liveRuntime <;> simp [RuntimeHealth.connection, DriverStage.isConnecting]

/-- Whether a stage ends the driver's work. -/
def DriverStage.isEnding : DriverStage → Bool
  | .closing _ | .stopped => true
  | _ => false

section Stages

variable {configPath : String} {health : RuntimeHealth Input} {stage : DriverStage}
  {server : OwnedServer}

/-- The lifecycle shuts down only at the end. -/
theorem Fits.open (fits : Fits configPath health.state stage) (working : stage.isEnding = false) :
    health.isShuttingDown = false := by
  obtain ⟨state, permissions, input⟩ := health
  change Fits configPath state stage at fits
  cases fits with
  | draining held | driving held => cases held <;> rfl
  | closing | stopped => cases working
  | starting | lost | queued | initial | again | initialActivating | activatingAgain | reloading
  | offline | barred | idle | idleBarred => rfl

/-- Without a connection no config is active, and missing permissions bar the driver. -/
theorem Fits.blocked (fits : Fits configPath health.state stage) (free : stage.peer = none)
    (working : stage.isEnding = false) :
    Fits configPath health.blockOnPermissions.state .waiting := by
  obtain ⟨state, permissions, input⟩ := health
  change Fits configPath state stage at fits
  cases fits with
  | starting | lost | queued | initial | again | offline | barred => exact .barred
  | initialActivating | activatingAgain | draining | driving | reloading => cases free
  | closing | stopped | idle | idleBarred => cases working

/-- A connect begins as the first one or as another one. -/
theorem Fits.startConnecting (fits : Fits configPath health.state stage)
    (ready : stage = .starting ∨ stage = .retrying) (candidate : String) :
    Fits configPath (health.startConnecting candidate).state .connecting := by
  obtain ⟨state, permissions, input⟩ := health
  change Fits configPath state stage at fits
  rcases ready with rfl | rfl
  · cases fits with
    | starting => exact .initial candidate
  · cases fits with
    | lost | queued => exact .again candidate

/-- An attempt that succeeds goes on to activate the config. -/
theorem Fits.activating (fits : Fits configPath health.state .connecting) :
    Fits configPath health.state (.activating {}) := by
  obtain ⟨state, permissions, input⟩ := health
  change Fits configPath state .connecting at fits
  cases fits with
  | initial candidate => exact .initialActivating candidate false
  | again candidate => exact .activatingAgain candidate false

/-- A connection that was just taken over may be given up for missing permissions. -/
theorem Fits.barred_of_activating (fits : Fits configPath health.state (.activating {})) :
    Fits configPath health.blockOnPermissions.state .waiting := by
  obtain ⟨state, permissions, input⟩ := health
  change Fits configPath state (.activating {}) at fits
  cases fits with
  | initialActivating | activatingAgain => exact .barred

/-- What a live state shows does not depend on whether its connection is still there. -/
theorem Live.lose {state : RuntimeState} (live : Live configPath server state) :
    Live configPath { server with lost := true } state := by
  cases live with
  | running accepted last => exact .running accepted last
  | rejected candidate message last =>
    exact @Live.rejected configPath { server with lost := true } candidate message last
  | blocked kept => exact @Live.blocked configPath { server with lost := true } kept

/-- The loss of a connection, of which the driver knows nothing, leaves the state as it fits. -/
theorem Fits.lose {state : RuntimeState} {lost : DriverStage} (fits : Fits configPath state stage)
    (loses : stage.lose = some lost) : Fits configPath state lost := by
  -- Only an owned connection can be lost, and the state of the driver stays what it was.
  have dropped : ∀ {server other : OwnedServer}, server.drop = some other →
      other = { server with lost := true } := by
    intro server other drops
    exact (Option.some.inj (Option.ite_none_left_eq_some.mp drops).2).symm
  cases fits with
  | initialActivating candidate =>
    obtain ⟨other, drops, rfl⟩ := Option.map_eq_some_iff.mp loses
    rw [dropped drops]
    exact .initialActivating candidate true
  | activatingAgain candidate =>
    obtain ⟨other, drops, rfl⟩ := Option.map_eq_some_iff.mp loses
    rw [dropped drops]
    exact .activatingAgain candidate true
  | draining live =>
    obtain ⟨other, drops, rfl⟩ := Option.map_eq_some_iff.mp loses
    rw [dropped drops]
    exact .draining live.lose
  | driving live =>
    obtain ⟨other, drops, rfl⟩ := Option.map_eq_some_iff.mp loses
    rw [dropped drops]
    exact .driving live.lose
  | reloading server fromQueue candidate kept =>
    obtain ⟨other, drops, rfl⟩ := Option.map_eq_some_iff.mp loses
    rw [dropped drops]
    exact .reloading { server with lost := true } fromQueue candidate kept
  | starting | lost | queued | initial | again | offline | barred | closing | stopped | idle
  | idleBarred => cases loses

/-- A live state shows what its server accepted last. -/
theorem Live.shows (live : Live configPath server health.state) :
    health.activeConfig = server.activated ∧ health.serverConnected = true ∧
      (server.rejected = false → server.activated = some configPath) := by
  -- A server that rejected a config keeps the one it accepted before.
  obtain ⟨state, permissions, input⟩ := health
  change Live configPath server state at live
  cases live with
  | running accepted last => exact ⟨accepted.symm, rfl, fun _ => accepted⟩
  | rejected candidate message last =>
    refine ⟨rfl, rfl, fun clean => ?_⟩
    rw [last] at clean
    cases clean
  | blocked kept => exact ⟨rfl, rfl, kept⟩

/-- Missing permissions block a live runtime. -/
theorem Live.block (live : Live configPath server health.state) :
    Live configPath server health.blockOnPermissions.state := by
  obtain ⟨active, connected, kept⟩ := live.shows
  show Live configPath server (.permissionBlocked health.activeConfig health.serverConnected)
  rw [active, connected]
  exact .blocked kept

/-- A live runtime begins to reload. -/
theorem Live.reload (live : Live configPath server health.state) (candidate : String)
    (draining : Bool) :
    Fits configPath (health.startConfigReload candidate).state (.reloading server draining) := by
  obtain ⟨active, _, kept⟩ := live.shows
  show Fits configPath (.liveConfigReload health.activeConfig candidate) _
  rw [active]
  exact .reloading server draining candidate kept

/-- An activation ends in a live state, whatever its outcome. -/
theorem Fits.activated (fits : Fits configPath health.state stage)
    (owned : stage = .activating server ∨ ∃ draining, stage = .reloading server draining)
    (held : server.lost = false) :
    Live configPath { server with activated := some configPath, rejected := false }
        (health.runConfig configPath).state ∧
      ∀ message, Live configPath { server with rejected := server.rejected || !server.lost }
        (health.rejectConfig configPath message).state := by
  -- The answer replaces what was being activated, or leaves what was active.
  refine ⟨@Live.running configPath { server with activated := some configPath, rejected := false }
    rfl rfl, fun message => ?_⟩
  have shows : health.activeConfig = server.activated := by
    obtain ⟨state, permissions, input⟩ := health
    change Fits configPath state stage at fits
    rcases owned with rfl | ⟨draining, rfl⟩
    · cases fits with
      | initialActivating | activatingAgain => rfl
    · cases fits with
      | reloading => rfl
  show Live configPath _ (.configRejected health.activeConfig configPath message)
  rw [shows]
  exact @Live.rejected configPath { server with rejected := server.rejected || !server.lost }
    configPath message (by rw [held]; simp)

/-- A connection that is drained or driven is live. -/
theorem Fits.live {state : RuntimeState} (fits : Fits configPath state stage)
    (owned : stage = .draining server ∨ stage = .driving server) : Live configPath server state := by
  rcases owned with rfl | rfl
  · cases fits with
    | draining live => exact live
  · cases fits with
    | driving live => exact live

/-- A driver that waits or closes may stop as it is. -/
theorem Fits.stop {state : RuntimeState} (fits : Fits configPath state stage)
    (ends : stage = .waiting ∨ stage = .closing server) : Fits configPath state .stopped := by
  rcases ends with rfl | rfl
  · cases fits with
    | offline message => exact .idle message
    | barred => exact .idleBarred
  · cases fits with
    | closing => exact .stopped true

end Stages

namespace ConnectionDriver

variable {driver next changed : ConnectionDriver Input}

/-- What holds of a driver in every run whose steps are tended. -/
structure Kept (driver : ConnectionDriver Input) : Prop where
  fits : Fits driver.configPath driver.health.state driver.stage
  truthful : ∀ entry ∈ driver.published, Truthful entry.1 entry.2
  ordered : driver.published.Pairwise fun earlier later =>
    earlier.1.isShuttingDown = true → later.1.isShuttingDown = true
  last : ∀ entry ∈ driver.published, entry.1.isShuttingDown = true →
    driver.health.isShuttingDown = true

/-- A driver that works may move on without a snapshot. -/
theorem Kept.move (kept : driver.Kept) (working : driver.stage.isEnding = false)
    (same : changed.published = driver.published)
    (fits : Fits changed.configPath changed.health.state changed.stage) : changed.Kept := by
  -- Nothing is published, so only the fit of the last snapshot has to be shown.
  have open_ := kept.fits.open working
  refine ⟨fits, ?_, ?_, ?_⟩
  · rw [same]
    exact kept.truthful
  · rw [same]
    exact kept.ordered
  · intro entry member ended
    rw [same] at member
    rw [kept.last entry member ended] at open_
    cases open_

/-- A driver that works may publish a snapshot that fits its stage, with no lost connection. -/
theorem Kept.publish (kept : driver.Kept) (working : driver.stage.isEnding = false)
    (same : changed.published = driver.published)
    (fits : Fits changed.configPath changed.health.state changed.stage)
    (shown : changed.stage.isActivating = false) (held : changed.stage.isLost = false) :
    changed.publishHealth.Kept := by
  have open_ := kept.fits.open working
  -- Nothing was published of a shutdown so far, since the driver still works.
  have quiet : ∀ entry ∈ changed.published, entry.1.isShuttingDown ≠ true := by
    intro entry member ended
    rw [same] at member
    rw [kept.last entry member ended] at open_
    cases open_
  refine ⟨fits, ?_, ?_, ?_⟩
  · intro entry member
    rcases List.mem_append.mp member with old | new
    · rw [same] at old
      exact kept.truthful entry old
    · rw [List.mem_singleton.mp new]
      exact fits.truthful shown held
  · apply List.pairwise_append.mpr
    refine ⟨by rw [same]; exact kept.ordered, List.pairwise_singleton _ _, ?_⟩
    intro earlier member _ _ ended
    exact absurd ended (quiet earlier member)
  · intro entry member ended
    rcases List.mem_append.mp member with old | new
    · exact absurd ended (quiet entry old)
    · rw [List.mem_singleton.mp new] at ended
      exact ended

/-- A permission check keeps the driver's state, unless permissions are missing. -/
theorem Kept.checked (kept : driver.Kept) (working : driver.stage.isEnding = false)
    (shown : driver.stage.isActivating = false) (held : driver.stage.isLost = false)
    {blocked : DriverStage}
    (bars : Fits driver.configPath driver.health.blockOnPermissions.state blocked)
    (blockedShown : blocked.isActivating = false) (blockedHeld : blocked.isLost = false)
    (observed : PermissionsStatus) :
    (driver.eventTapPermissionsMissing observed blocked).1.Kept ∧
      ((driver.eventTapPermissionsMissing observed blocked).2 = false →
        let checked := (driver.eventTapPermissionsMissing observed blocked).1
        checked.configPath = driver.configPath ∧ checked.health.state = driver.health.state ∧
          checked.stage = driver.stage) := by
  -- Without a change of permissions nothing is published, and the driver may still be blocked.
  unfold eventTapPermissionsMissing
  generalize driver.permissionOverride.getD observed = perms
  by_cases same : driver.health.permissions = perms
  · simp only [same, ne_eq, not_true_eq_false, if_false]
    split
    · exact ⟨kept, fun _ => ⟨rfl, rfl, rfl⟩⟩
    · exact ⟨kept.publish working rfl bars blockedShown blockedHeld, by simp⟩
  · simp only [same, ne_eq, not_false_eq_true, if_true]
    have noted : { driver with
        health := { driver.health with permissions := perms } }.publishHealth.Kept :=
      kept.publish working rfl kept.fits shown held
    split
    · exact ⟨noted, fun _ => ⟨rfl, rfl, rfl⟩⟩
    · exact ⟨noted.publish working rfl bars blockedShown blockedHeld, by simp⟩

/-- A connect begins, or finds permissions missing. -/
theorem Kept.connect (kept : driver.Kept)
    (ready : driver.stage = .starting ∨ driver.stage = .retrying) (observed : PermissionsStatus) :
    (driver.connect observed).Kept := by
  -- The stage before an attempt owns no server, so the attempt may begin with any permissions.
  have stands : driver.stage.isEnding = false ∧ driver.stage.isActivating = false ∧
      driver.stage.peer = none ∧ driver.stage.isLost = false := by
    rcases ready with ready | ready <;> rw [ready] <;> exact ⟨rfl, rfl, rfl, rfl⟩
  obtain ⟨working, shown, free, held⟩ := stands
  obtain ⟨checked, calm⟩ :=
    kept.checked working shown held (kept.fits.blocked free working) rfl rfl observed
  unfold ConnectionDriver.connect
  simp only
  split
  · exact checked
  · rename_i granted
    obtain ⟨path, state, stage⟩ := calm (by simpa using granted)
    have ready' := ready
    rw [← stage] at ready' working
    exact checked.publish working rfl (checked.fits.startConnecting ready' _) rfl rfl

/-- A connect attempt that ends without a connection leaves the driver offline. -/
theorem Kept.markDisconnected (kept : driver.Kept) (working : driver.stage.isEnding = false)
    {stage : DriverStage} (goes : stage = .waiting ∨ stage = .retrying) (message : String) :
    ((driver.enter stage).markDisconnected message).Kept := by
  rcases goes with rfl | rfl
  · exact kept.publish working rfl (.offline _) rfl rfl
  · exact kept.publish working rfl (.lost _) rfl rfl

/-- A new connection is taken over, unless permissions went missing or it does not open; with the
permissions that were published nothing is published in between. -/
theorem Kept.takeClient (kept : driver.Kept) (attempt : driver.stage = .connecting)
    {observed : PermissionsStatus}
    (unchanged : driver.permissionOverride.getD observed = driver.health.permissions)
    (opened : Except String Unit) : (driver.takeClient observed opened).Kept := by
  -- The connection is owned before the check, so a block is published over a live one.
  have working : driver.stage.isEnding = false := by rw [attempt]; rfl
  have fits := kept.fits
  rw [attempt] at fits
  have taken : (driver.enter (.activating {})).Kept := kept.move working rfl fits.activating
  have same : ¬ (driver.enter (.activating {})).health.permissions ≠
      (driver.enter (.activating {})).permissionOverride.getD observed :=
    not_not.mpr unchanged.symm
  unfold ConnectionDriver.takeClient eventTapPermissionsMissing
  simp only [if_neg same]
  split
  · simp only [Bool.false_eq_true, if_false]
    cases opened with
    | ok => exact taken
    | error error => exact taken.markDisconnected rfl (.inl rfl) _
  · -- The client is dropped again, and nothing is left of the attempt.
    exact taken.publish rfl rfl fits.activating.barred_of_activating rfl rfl

/-- The answer to an activation is published in the stage that follows it. -/
theorem Kept.activateConfig (kept : driver.Kept) {server : OwnedServer}
    (owned : driver.stage = .activating server ∨ ∃ draining, driver.stage = .reloading server draining)
    (held : server.lost = false) {follow : OwnedServer → DriverStage}
    (follows : follow = .draining ∨ follow = .driving) (result : Except String Unit) :
    (driver.activateConfig server follow result).Kept := by
  -- Success makes the config active, and a failure keeps what is.
  have working : driver.stage.isEnding = false := by
    rcases owned with owned | ⟨draining, owned⟩ <;> rw [owned] <;> rfl
  obtain ⟨accepted, rejected⟩ := kept.fits.activated owned held
  cases result with
  | ok =>
    rcases follows with rfl | rfl
    · exact kept.publish working rfl (.draining accepted) rfl held
    · exact kept.publish working rfl (.driving accepted) rfl held
  | error error =>
    rcases follows with rfl | rfl
    · exact kept.publish working rfl (.draining (rejected error)) rfl held
    · exact kept.publish working rfl (.driving (rejected error)) rfl held

/-- A control of a live server keeps the driver true to it. -/
theorem Kept.handleServerControl (kept : driver.Kept) {server : OwnedServer}
    (live : Live driver.configPath server driver.health.state)
    (owned : driver.stage = .draining server ∨ driver.stage = .driving server)
    (held : server.lost = false) (draining : Bool) (observed : PermissionsStatus)
    (control : ServerControl) :
    (driver.handleServerControl server draining observed control).Kept := by
  -- A reload is awaited with the config it activates, and an injected key changes nothing.
  have stands : driver.stage.isEnding = false ∧ driver.stage.isActivating = false ∧
      driver.stage.isLost = false := by
    rcases owned with owned | owned <;> rw [owned] <;> exact ⟨rfl, rfl, held⟩
  obtain ⟨working, shown, connected⟩ := stands
  cases control with
  | injectKey => exact kept
  | reload =>
    have bars : Fits driver.configPath driver.health.blockOnPermissions.state driver.stage := by
      rcases owned with owned | owned <;> rw [owned]
      · exact .draining live.block
      · exact .driving live.block
    obtain ⟨checked, calm⟩ :=
      kept.checked working shown connected bars shown connected observed
    unfold ConnectionDriver.handleServerControl
    simp only
    split
    · exact checked
    · rename_i granted
      obtain ⟨path, state, stage⟩ := calm (by simpa using granted)
      rw [← stage] at working
      rw [← path, ← state] at live
      exact checked.publish working rfl (live.reload _ draining) rfl held

/-- A permission observation of a live driver publishes a live state. -/
theorem Kept.permissionsChanged_live (kept : driver.Kept) {server : OwnedServer}
    (owned : driver.stage = .driving server) (held : server.lost = false) {observation : PermissionObservation}
    (granted : observedPermissionsGranted observation.status = true →
      driver.health.phase = .waitingPermissions → server.rejected = false) :
    (driver.permissionsChanged observation).1.Kept := by
  obtain ⟨configPath, tap, ⟨state, permissions, input⟩, override, pending, stage, published⟩ := driver
  change stage = .driving server at owned
  subst owned
  have fits : Fits configPath state (.driving server) := kept.fits
  cases fits with
  | driving live =>
    cases fine : observedPermissionsGranted observation.status with
    | true =>
      cases live with
      | running accepted last =>
        simp only [permissionsChanged, fine]
        exact kept.publish rfl rfl (.driving (.running accepted last)) rfl held
      | rejected candidate message last =>
        simp only [permissionsChanged, fine]
        exact kept.publish rfl rfl (.driving (.rejected candidate message last)) rfl held
      | blocked shows =>
        -- The last activation was accepted, so the server does run its config.
        have last := granted fine rfl
        simp only [permissionsChanged, fine]
        exact kept.publish rfl rfl (.driving (.running (shows last) last)) rfl held
    | false =>
      cases live with
      | running accepted last =>
        have blocked : Live configPath server (.permissionBlocked (some configPath) true) := by
          rw [← accepted]
          exact .blocked fun _ => accepted
        simp only [permissionsChanged, fine]
        cases tap <;> exact kept.publish rfl rfl (.driving blocked) rfl held
      | rejected candidate message last =>
        simp only [permissionsChanged, fine]
        cases tap <;> exact kept.publish rfl rfl (.driving (.rejected candidate message last)) rfl held
      | blocked shows =>
        simp only [permissionsChanged, fine]
        cases tap <;> exact kept.publish rfl rfl (.driving (.blocked shows)) rfl held

/-- A permission observation of a driver that waits publishes that it is offline. -/
theorem Kept.permissionsChanged_waiting (kept : driver.Kept) (waits : driver.stage = .waiting)
    (observation : PermissionObservation) : (driver.permissionsChanged observation).1.Kept := by
  -- Without a server the driver is queued to connect, or blocked.
  obtain ⟨configPath, tap, ⟨state, permissions, input⟩, override, pending, stage, published⟩ := driver
  change stage = .waiting at waits
  subst waits
  have fits : Fits configPath state .waiting := kept.fits
  cases fine : observedPermissionsGranted observation.status with
  | true =>
    cases fits with
    | offline | barred =>
      simp only [permissionsChanged, fine]
      exact kept.publish rfl rfl (.queued configPath) rfl rfl
  | false =>
    cases fits with
    | offline | barred =>
      simp only [permissionsChanged, fine]
      cases tap <;> exact kept.publish rfl rfl .barred rfl rfl

/-- A permission observation during an attempt pauses it or leaves it alone. -/
theorem Kept.permissionsChanged_connecting (kept : driver.Kept)
    (attempt : driver.stage = .connecting) {observation : PermissionObservation}
    (calm : if observedPermissionsGranted observation.status = true then
      driver.health.phase ≠ .connecting else driver.serverEventTapEnabled = true) :
    (driver.permissionsChanged observation).1.Kept := by
  -- A grant changes nothing in an attempt that is not blocked, and a loss blocks it.
  obtain ⟨configPath, tap, ⟨state, permissions, input⟩, override, pending, stage, published⟩ := driver
  change stage = .connecting at attempt
  subst attempt
  have fits : Fits configPath state .connecting := kept.fits
  cases fine : observedPermissionsGranted observation.status with
  | true =>
    rw [fine] at calm
    cases fits with
    | initial => exact absurd rfl calm
    | again candidate =>
      simp only [permissionsChanged, fine]
      exact kept.publish rfl rfl (.again candidate) rfl rfl
  | false =>
    rw [fine] at calm
    change tap = true at calm
    subst calm
    cases fits with
    | initial | again =>
      simp only [permissionsChanged, fine]
      exact kept.publish rfl rfl .barred rfl rfl

/-- Whether the driver publishes nothing on an input, unless that it lost or closes its connection. -/
def Silent (driver : ConnectionDriver Input) : DriverInput Input → Prop
  | .activated _ | .control .reload _ | .control (.permissionsChanged _) _ => False
  | .drain _ => driver.pendingControls.head? ≠ some .reload
  | .heartbeat input => driver.health.input = input
  | _ => True

/--
What the guarantees ask of a step: while an attempt is in flight no control needs the server, and a
permission observation either cancels the attempt or leaves its state alone; the permissions that a
new connection finds are those published; a grant reaches a blocked live runtime only if its last
activation was accepted; and nothing is published over a lost connection before the driver finds
that it is.
-/
structure Tended (driver : ConnectionDriver Input) (input : DriverInput Input) : Prop where
  undisturbed : driver.stage = .connecting → ∀ msg observed, input = .control msg observed →
    (∀ control, ControlRoute.fromMsg msg ≠ .toServer control) ∧
      ∀ observation, msg = .permissionsChanged observation →
        if observedPermissionsGranted observation.status = true then
          driver.health.phase ≠ .connecting else driver.serverEventTapEnabled = true
  unchanged : ∀ observed opened, input = .connected observed opened →
    driver.permissionOverride.getD observed = driver.health.permissions
  accepted : ∀ server observation observed, driver.stage = .driving server →
    input = .control (.permissionsChanged observation) observed →
    observedPermissionsGranted observation.status = true →
    driver.health.phase = .waitingPermissions → server.rejected = false
  noticed : driver.stage.isLost = true → driver.Silent input

/-- The transition relation of the driver, with tended steps. -/
def TendedSteps [DecidableEq Input] (driver : ConnectionDriver Input) (label : DriverInput Input)
    (next : ConnectionDriver Input) : Prop :=
  driver.Steps label next ∧ driver.Tended label

/-- A driver at work may begin to shut down, also over a lost connection. -/
theorem Kept.beginShutdown (kept : driver.Kept) (working : driver.stage.isEnding = false)
    (ends : Fits driver.configPath driver.health.beginShutdown.state (driver.stage.after .stop))
    (shown : (driver.stage.after .stop).isActivating = false)
    (held : (driver.stage.after .stop).isLost = false) : driver.beginShutdown.Kept :=
  kept.publish working rfl ends shown held

/-- A control keeps a driver that waits true to its state. -/
theorem Kept.routeWaiting (kept : driver.Kept) (waits : driver.stage = .waiting)
    (msg : ControlMsg) : (driver.routeControlMsg msg).Kept := by
  -- Every control but a shutdown leaves the driver without a server.
  have working : driver.stage.isEnding = false := by rw [waits]; rfl
  cases msg with
  | openPermissionsHelp | notice => exact kept
  | permissionsChanged observation => exact kept.permissionsChanged_waiting waits observation
  | reload | injectKey =>
    have retries : driver.stage.after .retryConnect = .retrying := by
      rw [waits]
      rfl
    refine kept.publish working rfl ?_ (by show DriverStage.isActivating _ = _; rw [retries]; rfl)
      (by show DriverStage.isLost _ = _; rw [retries]; rfl)
    show Fits _ _ (driver.stage.after .retryConnect)
    rw [retries]
    exact .queued _
  | shutdown =>
    apply kept.beginShutdown working <;> rw [waits]
    · exact .stopped _
    · rfl
    · rfl

/-- A tended control keeps a driver in an attempt true to its state. -/
theorem Kept.routeConnecting (kept : driver.Kept) (attempt : driver.stage = .connecting)
    {msg : ControlMsg} {observed : PermissionsStatus}
    (tended : driver.Tended (.control msg observed)) : (driver.routeControlMsg msg).Kept := by
  -- Controls that would start a second attempt are the ones that care rules out.
  have working : driver.stage.isEnding = false := by rw [attempt]; rfl
  obtain ⟨free, calm⟩ := tended.undisturbed attempt msg observed rfl
  cases msg with
  | openPermissionsHelp | notice => exact kept
  | permissionsChanged observation =>
    exact kept.permissionsChanged_connecting attempt (calm observation rfl)
  | reload | injectKey => exact absurd rfl (free _)
  | shutdown =>
    apply kept.beginShutdown working <;> rw [attempt]
    · exact .stopped _
    · rfl
    · rfl

/-- A driver that drives a connection shuts down over it, lost or not. -/
theorem Kept.shutdown_driving (kept : driver.Kept) {server : OwnedServer}
    (owned : driver.stage = .driving server) : driver.beginShutdown.Kept := by
  have live := kept.fits.live (.inr owned)
  apply kept.beginShutdown (by rw [owned]; rfl)
  · show Fits _ (.shuttingDown driver.health.serverConnected) _
    rw [owned, live.shows.2.1]
    exact .closing server
  · rw [owned]
    rfl
  · rw [owned]
    rfl

/-- A tended control keeps a driver with a connection true to its server. -/
theorem Kept.routeConnected (kept : driver.Kept) {server : OwnedServer}
    (owned : driver.stage = .driving server) {msg : ControlMsg} {observed : PermissionsStatus}
    (tended : driver.Tended (.control msg observed)) :
    (driver.routeConnected server msg observed).Kept := by
  have live := kept.fits.live (.inr owned)
  -- Over a lost connection only such controls are tended that publish nothing, or its end.
  have held : driver.Silent (.control msg observed) ∨ server.lost = false := by
    cases lost : server.lost with
    | false => exact .inr rfl
    | true => exact .inl (tended.noticed (by rw [owned]; exact lost))
  cases msg with
  | openPermissionsHelp | notice => exact kept
  | permissionsChanged observation =>
    exact kept.permissionsChanged_live owned (held.resolve_left id)
      (tended.accepted server observation observed owned rfl)
  | reload =>
    exact kept.handleServerControl live (.inr owned) (held.resolve_left id) false observed .reload
  | injectKey ident reportErrors => exact kept
  | shutdown => exact kept.shutdown_driving owned

/-- A tended step keeps the driver true to what it owns. -/
theorem Kept.step [DecidableEq Input] (kept : driver.Kept) {input : DriverInput Input}
    (tended : driver.Tended input) (taken : driver.Steps input next) : next.Kept := by
  have attempting : driver.stage = .connecting → driver.stage.isEnding = false := by
    intro attempt
    rw [attempt]
    rfl
  cases input with
  | begin observed =>
    simp only [Steps, ConnectionDriver.step] at taken
    split at taken <;> cases taken
    rename_i ready
    exact kept.connect ready observed
  | connected observed opened =>
    simp only [Steps, ConnectionDriver.step] at taken
    split at taken <;> cases taken
    rename_i attempt
    exact kept.takeClient attempt (tended.unchanged observed opened rfl) opened
  -- A failed attempt ends in a wait, announced as a disconnection.
  | connectFailed error =>
    simp only [Steps, ConnectionDriver.step] at taken
    split at taken <;> cases taken
    rename_i attempt
    exact kept.markDisconnected (attempting attempt) (.inl rfl) _
  | connectCanceled =>
    simp only [Steps, ConnectionDriver.step] at taken
    split at taken <;> cases taken
    rename_i attempt
    exact kept.markDisconnected (attempting attempt) (.inl rfl) _
  | dropped =>
    -- The driver knows nothing of it and publishes nothing.
    obtain ⟨stage, loses, same⟩ := Option.map_eq_some_iff.mp taken
    cases same
    have working : driver.stage.isEnding = false := by
      cases standing : driver.stage <;> rw [standing] at loses <;> first | rfl | cases loses
    have dropped : (driver.enter stage).Kept := kept.move working rfl (kept.fits.lose loses)
    exact dropped
  | activated result =>
    -- An answer over a lost connection is not tended.
    have held : driver.stage.isLost = false := by
      cases lost : driver.stage.isLost with
      | false => rfl
      | true => exact (tended.noticed lost).elim
    -- Whatever the answer is, the driver goes on as it says.
    have answered : ∀ {server : OwnedServer} {follow : OwnedServer → DriverStage},
        driver.answerActivation server follow result = some next →
        next = driver.activateConfig server follow result := by
      intro server follow same
      exact (Option.some.inj (Option.ite_none_left_eq_some.mp same).2).symm
    simp only [Steps, ConnectionDriver.step] at taken
    split at taken
    · rename_i server owned
      rw [answered taken]
      exact kept.activateConfig (.inl owned) (by rw [owned] at held; exact held) (.inl rfl) result
    · rename_i server owned
      rw [answered taken]
      exact kept.activateConfig (.inr ⟨_, owned⟩) (by rw [owned] at held; exact held) (.inl rfl)
        result
    · rename_i server owned
      rw [answered taken]
      exact kept.activateConfig (.inr ⟨_, owned⟩) (by rw [owned] at held; exact held) (.inr rfl)
        result
    · cases taken
  | drain observed =>
    simp only [Steps, ConnectionDriver.step] at taken
    split at taken
    · rename_i server owned _
      cases taken
      have working : driver.stage.isEnding = false := by rw [owned]; rfl
      -- The queue is empty, and what was shown stays so in the select loop.
      exact kept.move working rfl (.driving (kept.fits.live (.inl owned)))
    · rename_i server control rest owned queue
      cases taken
      have working : driver.stage.isEnding = false := by rw [owned]; rfl
      have popped : { driver with pendingControls := rest }.Kept :=
        kept.move working rfl kept.fits
      cases control with
      | injectKey => exact popped
      | reload =>
        -- A reload is tended only while the connection is there.
        have held : server.lost = false := by
          cases lost : server.lost with
          | false => rfl
          | true =>
            have silent := tended.noticed (by rw [owned]; exact lost)
            exact absurd (by rw [queue]; rfl) silent
        exact popped.handleServerControl (kept.fits.live (.inl owned)) (.inl owned) held true
          observed .reload
    · cases taken
  | control msg observed =>
    simp only [Steps, ConnectionDriver.step] at taken
    split at taken
    · rename_i attempt
      cases taken
      exact kept.routeConnecting attempt tended
    · rename_i waits
      cases taken
      exact kept.routeWaiting waits msg
    · rename_i server owned
      cases taken
      exact kept.routeConnected owned tended
    · cases taken
  | heartbeat input =>
    simp only [Steps, ConnectionDriver.step] at taken
    split at taken
    · rename_i server owned
      cases taken
      -- Only a changed input state is published.
      unfold handleInputHealth
      have stands : driver.stage.isEnding = false ∧ driver.stage.isActivating = false := by
        rw [owned]
        exact ⟨rfl, rfl⟩
      split
      · rename_i changed
        have held : driver.stage.isLost = false := by
          cases lost : driver.stage.isLost with
          | false => rfl
          | true => exact absurd (tended.noticed lost) changed
        exact kept.publish stands.1 rfl kept.fits stands.2 held
      · exact kept
    · cases taken
  | lost opening =>
    simp only [Steps, ConnectionDriver.step] at taken
    split at taken
    · rename_i server owned
      cases taken
      exact kept.markDisconnected (by rw [owned]; rfl) (.inr rfl) _
    · rename_i server error owned
      cases taken
      exact kept.markDisconnected (by rw [owned]; rfl) (.inr rfl) _
    · cases taken
  | shutdownAcknowledged =>
    simp only [Steps, ConnectionDriver.step] at taken
    split at taken
    · rename_i server closes
      cases taken
      exact ⟨kept.fits.stop (.inr closes), kept.truthful, kept.ordered, kept.last⟩
    · cases taken
  | controlsClosed =>
    simp only [Steps, ConnectionDriver.step] at taken
    split at taken <;> cases taken
    rename_i waits
    have working : driver.stage.isEnding = false := by rw [waits]; rfl
    have stopped : (driver.enter .stopped).Kept :=
      kept.move working rfl (kept.fits.stop (.inl waits : _ ∨ driver.stage = .closing {}))
    exact stopped

/-- A driver that shuts down goes on to do so. -/
theorem step_shuttingDown [DecidableEq Input] (kept : driver.Kept) {input : DriverInput Input}
    (taken : driver.Steps input next) (ended : driver.health.isShuttingDown = true) :
    next.health.isShuttingDown = true := by
  have ending : driver.stage.isEnding = true := by
    cases working : driver.stage.isEnding with
    | true => rfl
    | false =>
      rw [kept.fits.open working] at ended
      cases ended
  -- At the end of its work the driver only waits for the acknowledgement.
  cases standing : driver.stage with
  | closing server =>
    cases input with
    | shutdownAcknowledged =>
      simp only [Steps, step, standing] at taken
      cases taken
      exact ended
    | lost opening => cases opening <;> simp [Steps, step, standing] at taken
    | dropped => simp [Steps, step, standing, DriverStage.lose] at taken
    | begin | connected | connectFailed | connectCanceled | activated | drain | control | heartbeat
    | controlsClosed => simp [Steps, step, standing] at taken
  | stopped =>
    cases input with
    | lost opening => cases opening <;> simp [Steps, step, standing] at taken
    | dropped => simp [Steps, step, standing, DriverStage.lose] at taken
    | begin | connected | connectFailed | connectCanceled | activated | drain | control | heartbeat
    | controlsClosed | shutdownAcknowledged => simp [Steps, step, standing] at taken
  | starting | retrying | connecting | activating | draining | reloading | driving | waiting =>
    rw [standing] at ending
    cases ending

/-- A new driver's first snapshot is of its first attempt. -/
theorem Kept.new (configPath : String) (tap : Bool) (observed : PermissionsStatus) (input : Input) :
    (new configPath tap observed input).Kept where
  fits := .starting configPath
  truthful entry member := by
    rw [List.mem_singleton.mp member]
    exact Fits.truthful (.starting configPath : Fits configPath _ _) rfl rfl
  ordered := List.pairwise_singleton _ _
  last entry member ended := by
    rw [List.mem_singleton.mp member] at ended
    cases ended

/--
In every run of the driver whose steps are tended, every published snapshot is true to what the
driver owns, no snapshot takes a shutdown back, and once the driver shuts down it goes on to do so.
-/
theorem health_truthful [DecidableEq Input] {configPath : String} {tap : Bool}
    {observed : PermissionsStatus} {input : Input} {before after : List (DriverInput Input)}
    {middle final : ConnectionDriver Input}
    (earlier : Run TendedSteps (.new configPath tap observed input) before middle)
    (later : Run TendedSteps middle after final) :
    (∀ entry ∈ final.published, Truthful entry.1 entry.2) ∧
      (final.published.Pairwise fun earlier later =>
        earlier.1.isShuttingDown = true → later.1.isShuttingDown = true) ∧
      (middle.health.isShuttingDown = true → final.health.isShuttingDown = true) := by
  -- The run keeps every snapshot truthful, and nothing is published after the end.
  have reached : middle.Kept := earlier.invariant Kept
    (fun taken kept => kept.step taken.2 taken.1) (.new configPath tap observed input)
  have kept : final.Kept := later.invariant Kept
    (fun taken kept => kept.step taken.2 taken.1) reached
  refine ⟨kept.truthful, kept.ordered, fun ended => ?_⟩
  have together := later.invariant
    (fun driver => driver.Kept ∧ driver.health.isShuttingDown = true)
    (fun taken held => ⟨held.1.step taken.2 taken.1, step_shuttingDown held.1 taken.1 held.2⟩)
    ⟨reached, ended⟩
  exact together.2

/-- Both permissions used by hotkeys. -/
private def grants : PermissionsStatus := ⟨.granted, .granted, .denied⟩

/-- No permission. -/
private def denies : PermissionsStatus := ⟨.denied, .denied, .denied⟩

/-- A driver whose server observes the keyboard. -/
private def tapping : ConnectionDriver Unit := .new "config.luau" true grants ()

/-- Whether a step meets what the guarantees ask of it. -/
private def isCalm (driver : ConnectionDriver Unit) : DriverInput Unit → Bool
  | .connected observed _ =>
    decide (driver.permissionOverride.getD observed = driver.health.permissions)
  | .control .shutdown _ => decide (driver.stage ≠ .connecting)
  | .control _ _ =>
    match driver.stage with
    | .connecting => false
    | .driving server => !server.rejected && !server.lost
    | stage => !stage.isLost
  | .activated _ | .drain _ | .heartbeat _ => !driver.stage.isLost
  | _ => true

/-- On a lost connection a calm input other than a shutdown is no control. -/
private theorem isCalm_control {driver : ConnectionDriver Unit} {msg : ControlMsg}
    {observed : PermissionsStatus} (calm : driver.isCalm (.control msg observed) = true)
    (lost : driver.stage.isLost = true) : msg = .shutdown := by
  -- A driver over a lost connection routes a control as if the server were there.
  have answered : ∀ server : OwnedServer, driver.stage = .driving server → server.lost = true :=
    fun server owned => by
      rw [owned] at lost
      exact lost
  cases msg with
  | shutdown => rfl
  | _ =>
    simp only [isCalm] at calm
    split at calm
    · cases calm
    · rename_i server owned
      simp [answered server owned] at calm
    · simp [lost] at calm

/-- A step whose input is calm. -/
private def calmly (driver : ConnectionDriver Unit) (input : DriverInput Unit) :
    Option (ConnectionDriver Unit × Unit) :=
  if driver.isCalm input then (driver.step input).map fun next => (next, ()) else none

/-- A calm step is tended. -/
private theorem calmly_tended {driver next : ConnectionDriver Unit} {label : DriverInput Unit × Unit}
    (taken : calmly driver label.1 = some (next, label.2)) : driver.TendedSteps label.1 next := by
  unfold calmly at taken
  split at taken
  · rename_i calm
    obtain ⟨after, stepped, same⟩ := Option.map_eq_some_iff.mp taken
    cases same
    refine ⟨stepped, ?_, ?_, ?_, ?_⟩
    · intro attempt msg observed same
      rw [same] at calm
      cases msg <;> simp [isCalm, attempt] at calm
    · intro observed opened same
      rw [same] at calm
      simpa [isCalm] using calm
    · intro server observation observed owned same _ _
      rw [same] at calm
      simp only [isCalm, owned, Bool.and_eq_true, Bool.not_eq_true'] at calm
      exact calm.1
    · intro lost
      -- Over a lost connection only its end and a shutdown are calm.
      cases given : label.1 with
      | control msg observed =>
        rw [given] at calm
        cases isCalm_control calm lost
        trivial
      | activated | drain | heartbeat =>
        rw [given] at calm
        simp [isCalm, lost] at calm
      | _ => trivial
  · cases taken

/-- The driver connects, its config is accepted, permissions go and come, the connection is lost, and
the driver connects again, has its config rejected and shuts down. -/
private def session : List (DriverInput Unit) :=
  [.begin grants, .connected grants (.ok ()), .activated (.ok ()), .drain grants,
    .control (.permissionsChanged ⟨denies, false⟩) grants,
    .control (.permissionsChanged ⟨grants, false⟩) grants, .dropped, .lost none, .begin grants,
    .connected grants (.ok ()), .activated (.error "invalid"), .drain grants,
    .control .shutdown grants]

/-- The same with a session whose config was accepted, up to the end of its shutdown. -/
theorem health_truthful_session :
    ∃ final : ConnectionDriver Unit, final.stage = .stopped ∧
      (final.published.map fun entry => entry.1.connection) =
        [.connecting, .connecting, .connected, .connected, .connected, .disconnected, .connecting,
          .connected, .closing] ∧
      (∀ entry ∈ final.published, Truthful entry.1 entry.2) ∧
      (final.published.Pairwise fun earlier later =>
        earlier.1.isShuttingDown = true → later.1.isShuttingDown = true) ∧
      final.health.isShuttingDown = true := by
  -- The evaluated run is tended, and it ends with the shutdown, after which nothing is published.
  obtain ⟨middle, _, seen, earlier, _⟩ := Run.of_evaluate calmly tapping session
    (fun result => (result.1.health.isShuttingDown,
      (evaluate calmly result.1 [.shutdownAcknowledged]).map fun last =>
        (last.1.stage, last.1.published.map fun entry => entry.1.connection)))
    (true, some (.stopped,
      [.connecting, .connecting, .connected, .connected, .connected, .disconnected, .connecting,
        .connected, .closing]))
    (by decide +kernel)
  simp only [Prod.mk.injEq] at seen
  obtain ⟨ended, evaluated⟩ := seen
  obtain ⟨final, _, shown, later, _⟩ := Run.of_evaluate calmly middle [.shutdownAcknowledged]
    (fun last => (last.1.stage, last.1.published.map fun entry => entry.1.connection)) _ evaluated
  simp only [Prod.mk.injEq] at shown
  have before : Run TendedSteps tapping (List.map Prod.fst _) middle :=
    earlier.map_labels fun taken => calmly_tended taken
  have after : Run TendedSteps middle (List.map Prod.fst _) final :=
    later.map_labels fun taken => calmly_tended taken
  have truthful := health_truthful before after
  exact ⟨final, shown.1, shown.2, truthful.1, truthful.2.1, truthful.2.2 ended⟩

/-- The steps of a driver, in the form that is evaluated. -/
private def steps (driver : ConnectionDriver Unit) (input : DriverInput Unit) :
    Option (ConnectionDriver Unit × Unit) :=
  (driver.step input).map fun next => (next, ())

/-- The config is rejected, a reload finds permissions missing, and they are granted again. -/
private def resumed : List (DriverInput Unit) :=
  [.begin grants, .connected grants (.ok ()), .activated (.error "invalid"), .drain grants,
    .control .reload denies, .control (.permissionsChanged ⟨grants, false⟩) grants]

/-- The connection is lost while the activation of a reload is awaited. -/
private def severed : List (DriverInput Unit) :=
  [.begin grants, .connected grants (.ok ()), .activated (.ok ()), .drain grants,
    .control .reload grants, .dropped, .activated (.error "closed")]

/-- The run over given inputs ends with a snapshot that is evaluated. -/
private theorem run_snapshot (inputs : List (DriverInput Unit))
    (shown : ConnectionStatus × RuntimeState × DriverStage)
    (evaluated : ((evaluate steps tapping inputs).bind fun result =>
        result.1.published.getLast?.map fun entry =>
          (entry.1.connection, entry.1.state, entry.2)) = some shown) :
    ∃ labels, ∃ final : ConnectionDriver Unit, Run Steps tapping labels final ∧
      ∃ entry ∈ final.published, entry.1.connection = shown.1 ∧ entry.1.state = shown.2.1 ∧
        entry.2 = shown.2.2 := by
  -- Each evaluated step also outputs nothing, which the run forgets.
  have forget : ∀ {driver next : ConnectionDriver Unit} {label : DriverInput Unit × Unit},
      steps driver label.1 = some (next, label.2) → driver.Steps label.1 next := by
    intro driver next label taken
    obtain ⟨after, stepped, same⟩ := Option.map_eq_some_iff.mp taken
    cases same
    exact stepped
  obtain ⟨result, ran, seen⟩ := Option.bind_eq_some_iff.mp evaluated
  obtain ⟨final, _, same, run, _⟩ :=
    Run.of_evaluate steps tapping inputs (fun last => last.1) result.1 (by rw [ran]; rfl)
  obtain ⟨entry, last, shows⟩ := Option.map_eq_some_iff.mp seen
  have run : Run Steps tapping (List.map Prod.fst _) final :=
    run.map_labels fun taken => forget taken
  cases same
  cases shows
  exact ⟨_, _, run, entry, List.mem_of_getLast? last, rfl, rfl, rfl⟩

/--
A grant presents a config as running that the server rejected; a reload during an attempt presents
the driver as disconnected; a connection that is lost while a reload is answered is presented as
connected, with its config active; and an attempt that succeeded is presented as still going on.
-/
theorem health_truthful_resumed :
    (∃ labels, ∃ final : ConnectionDriver Unit,
      Run Steps (.new "config.luau" true grants ()) labels final ∧
      ∃ entry ∈ final.published, entry.1.state = .running "config.luau" ∧
        entry.2.server = some ⟨none, true, false⟩ ∧ ¬ Truthful entry.1 entry.2) ∧
    (∃ labels, ∃ final : ConnectionDriver Unit,
      Run Steps (.new "config.luau" true grants ()) labels final ∧
      ∃ entry ∈ final.published, entry.1.connection = .disconnected ∧
        entry.2 = .connecting ∧ ¬ Truthful entry.1 entry.2) ∧
    (∃ labels, ∃ final : ConnectionDriver Unit,
      Run Steps (.new "config.luau" true grants ()) labels final ∧
      ∃ entry ∈ final.published, entry.1.connection = .connected ∧
        entry.1.state = .configRejected (some "config.luau") "config.luau" "closed" ∧
        entry.2.server = none ∧ ¬ Truthful entry.1 entry.2) ∧
    ∃ labels, ∃ final : ConnectionDriver Unit,
      Run Steps (.new "config.luau" true grants ()) labels final ∧
      ∃ entry ∈ final.published, entry.1.connection = .connecting ∧
        entry.2.server = some ⟨none, false, false⟩ ∧ ¬ Truthful entry.1 entry.2 := by
  -- The cases are the kinds of state that the evaluated snapshot could be truthful about.
  refine ⟨?_, ?_, ?_, ?_⟩
  · -- The server rejected the config that the grant presents as running.
    obtain ⟨labels, final, run, entry, member, _, running, owned⟩ := run_snapshot resumed
      (.connected, .running "config.luau", .driving ⟨none, true, false⟩) (by decide +kernel)
    refine ⟨labels, final, run, entry, member, running, by rw [owned]; rfl, fun truthful => ?_⟩
    obtain ⟨server, held, accepted, _⟩ := truthful.running _ running
    rw [owned] at held
    cases held
    cases accepted
  · -- The attempt goes on, for which the connection would be connecting.
    obtain ⟨labels, final, run, entry, member, offline, _, attempt⟩ := run_snapshot
      [.begin grants, .control .reload grants]
      (.disconnected, .queuedReconnect "config.luau", .connecting) (by decide +kernel)
    refine ⟨labels, final, run, entry, member, offline, attempt, fun truthful => ?_⟩
    have connecting := truthful.connecting.mpr (by rw [attempt]; rfl)
    rw [offline] at connecting
    cases connecting
  · -- No server is left behind the config that is presented as active.
    obtain ⟨labels, final, run, entry, member, online, rejected, alone⟩ := run_snapshot severed
      (.connected, .configRejected (some "config.luau") "config.luau" "closed",
        .driving ⟨some "config.luau", false, true⟩) (by decide +kernel)
    have gone : entry.2.server = none := by
      rw [alone]
      rfl
    refine ⟨labels, final, run, entry, member, online, rejected, gone, fun truthful => ?_⟩
    have owned := truthful.connected.mp online
    rw [gone] at owned
    cases owned
  · -- The client is owned, for which no attempt would be connecting.
    obtain ⟨labels, final, run, entry, member, attempt, _, owned⟩ := run_snapshot
      [.begin grants, .connected ⟨.granted, .granted, .granted⟩ (.ok ())]
      (.connecting, .initialConnection "config.luau", .activating {}) (by decide +kernel)
    refine ⟨labels, final, run, entry, member, attempt, by rw [owned]; rfl, fun truthful => ?_⟩
    have connecting := truthful.connecting.mp attempt
    rw [owned] at connecting
    cases connecting

end ConnectionDriver

end App

end Hotki

import Hotki.World.State

/-! The polling world: its tuner, the poll loop, and the callers that wait for a fresh poll. -/

namespace Hotki

open Base

/-- The largest value of a 64-bit counter. -/
def u64Max : Nat := UInt64.size - 1

/-- Configuration for the world service. -/
structure WorldCfg where
  /-- Minimum poll interval in milliseconds. -/
  pollMsMin : Nat := 200
  /-- Maximum poll interval in milliseconds. -/
  pollMsMax : Nat := 500

/-- Simple backoff controller for polling cadence. -/
structure PollTuner where
  minMs : Nat
  maxMs : Nat
  /-- The hinted interval, zero for none. -/
  nextMs : Nat := 0
  requestedGeneration : Nat := 0
  completedGeneration : Watch Nat := ⟨0, 0⟩
  wake : Notify := {}

namespace PollTuner

/-- A tuner that keeps between two cadences. -/
def new (minMs maxMs : Nat) : PollTuner := { minMs := max minMs 50, maxMs }

/-- Takes the hinted interval, if there is one. -/
def consumeHint (tuner : PollTuner) : Option Nat × PollTuner :=
  (if tuner.nextMs = 0 then none else some tuner.nextMs, { tuner with nextMs := 0 })

/-- The next interval: the hinted one, or a gentle backoff up to the maximum. -/
def nextInterval (tuner : PollTuner) (lastMs : Nat) : Nat × PollTuner :=
  let (hinted, tuner) := tuner.consumeHint
  (hinted.getD (min (min (lastMs + 10) u64Max) tuner.maxMs), tuner)

/-- Records that a generation is complete. -/
def completeRefresh (tuner : PollTuner) (generation : Nat) : PollTuner :=
  { tuner with completedGeneration := tuner.completedGeneration.sendReplace generation }

end PollTuner

/-- Where the poll loop is, with the local variables it still uses. -/
inductive PollStage (Displays : Type) where
  /-- At the top of the loop. -/
  | reading
  /-- The requested generation was read, and the capture is about to begin. -/
  | starting (generation : Nat)
  /-- The capture is running. When it began, the code does not keep. -/
  | capturing (generation began : Nat)
  | captured (generation began : Nat) (platform : PlatformSnapshot Displays) (elapsed : Nat)
  /-- The state was updated, and these events are still to be published. -/
  | publishing (generation : Nat) (events : List WorldEvent)
  /-- The generation is complete, and the next interval is to be computed. -/
  | pacing
  /-- The wake-up is awaited from here on, but a hint would start the next poll at once. -/
  | hinting
  | sleeping
  /-- The loop was woken, and takes the hint that came with it. -/
  | woken
  /-- The world was dropped. -/
  | stopped

/-- Where a caller of a refresh is. -/
inductive RefreshStage where
  /-- Before it counted its request. -/
  | called
  /-- Its request is counted, but the loop got no hint of it. -/
  | counted (generation : Nat)
  /-- The loop got its hint, but no wake-up. -/
  | hinted (generation : Nat)
  /-- Its request is made, and it is about to watch for the generation. -/
  | requested (generation : Nat)
  /-- It is about to look at the complete generation, having seen a version of it. -/
  | checking (generation seen : Nat)
  /-- It waits for a version that it has not seen. -/
  | awaiting (generation seen : Nat)
  | returned (generation : Nat)
  /-- The world went away while it waited. -/
  | closed (generation : Nat)
  deriving DecidableEq

/-- The generation a caller requested, once its request is counted. -/
def RefreshStage.generation : RefreshStage → Option Nat
  | .called => none
  | .counted generation | .hinted generation | .requested generation => some generation
  | .checking generation _ | .awaiting generation _ => some generation
  | .returned generation | .closed generation => some generation

/-- Whether a caller is still making its request, its wake-up of the loop being yet to come. -/
def RefreshStage.isRequesting : RefreshStage → Bool
  | .called | .counted _ | .hinted _ => true
  | _ => false

/-- A caller of a refresh. -/
structure RefreshCaller where
  stage : RefreshStage
  /-- When its request was counted, which the code does not keep. -/
  askedAt : Nat := 0
  deriving DecidableEq

/-- The polling world with its loop and the callers of its refresh. -/
structure PollingWorld (Displays : Type) where
  state : WorldState Displays
  hub : Broadcast WorldEvent
  tuner : PollTuner
  stage : PollStage Displays := .reading
  intervalMs : Nat
  callers : List RefreshCaller := []
  /-- How many steps were taken, which the code does not count. -/
  now : Nat := 0
  /-- When the capture began that last updated the state, which the code does not keep. -/
  updatedFrom : Option Nat := none

/-- Who moves in the polling world, and what it finds. -/
inductive PollChoice (Displays : Type) where
  /-- The poll loop moves on by itself. -/
  | loop
  /-- The capture returns what it found, or nothing if it panicked, and how long it took. -/
  | captured (platform : Option (PlatformSnapshot Displays)) (elapsed : Nat)
  /-- The world was dropped when the loop looked for it. -/
  | dropped
  /-- The sleep of the loop is over. -/
  | timer
  /-- A refresh is called. -/
  | refresh
  /-- A caller moves on. -/
  | caller (index : Nat)
  /-- A caller finds that the world went away. -/
  | gone (index : Nat)

/-- The default capacity of the event buffer. -/
def defaultEventCapacity : Nat := 256

/-- A hub whose channel retains at least eight events, rounded up to a power of two. -/
def eventHub (capacity : Nat) : Broadcast WorldEvent := { capacity := (max capacity 8).nextPowerOfTwo }

namespace PollingWorld

variable {Displays : Type} [Inhabited Displays]

/-- The world when its loop is spawned. -/
def spawn (cfg : WorldCfg) : PollingWorld Displays where
  state := { displays := default }
  hub := eventHub defaultEventCapacity
  tuner := .new cfg.pollMsMin cfg.pollMsMax
  intervalMs := max cfg.pollMsMin 50

/-- One step of the poll loop by itself. -/
def stepLoop [BEq Displays] (world : PollingWorld Displays) : Option (PollingWorld Displays) :=
  match world.stage with
  | .reading => some { world with stage := .starting world.tuner.requestedGeneration }
  | .starting generation => some { world with stage := .capturing generation world.now }
  | .captured generation began platform elapsed =>
    let (changes, state) :=
      world.state.applyPollUpdate (worldPollUpdate platform) elapsed world.intervalMs
    some { world with
      state, stage := .publishing generation changes.events, updatedFrom := some began }
  | .publishing generation (event :: rest) =>
    some { world with hub := world.hub.send event, stage := .publishing generation rest }
  | .publishing generation [] =>
    some { world with tuner := world.tuner.completeRefresh generation, stage := .pacing }
  | .pacing =>
    let (intervalMs, tuner) := world.tuner.nextInterval world.intervalMs
    some { world with tuner, intervalMs, stage := .hinting }
  | .hinting =>
    match world.tuner.consumeHint with
    | (some hinted, tuner) => some { world with tuner, intervalMs := hinted, stage := .reading }
    | (none, tuner) => some { world with tuner, stage := .sleeping }
  | .sleeping =>
    -- The loop is woken by a permit only, which it takes.
    if world.tuner.wake.permit then
      some { world with tuner := { world.tuner with wake := ⟨false⟩ }, stage := .woken }
    else none
  | .woken =>
    let (hinted, tuner) := world.tuner.consumeHint
    some { world with tuner, intervalMs := hinted.getD world.intervalMs, stage := .reading }
  | .capturing _ _ | .stopped => none

/-- One step of a caller, with what it does to the tuner. -/
def stepCaller (tuner : PollTuner) (now : Nat) (caller : RefreshCaller) :
    Option (PollTuner × RefreshCaller) :=
  match caller.stage with
  | .called =>
    let generation := tuner.requestedGeneration + 1
    some ({ tuner with requestedGeneration := generation }, ⟨.counted generation, now⟩)
  | .counted generation =>
    some ({ tuner with nextMs := tuner.minMs }, { caller with stage := .hinted generation })
  | .hinted generation =>
    some ({ tuner with wake := tuner.wake.notifyOne }, { caller with stage := .requested generation })
  | .requested generation =>
    some (tuner,
      { caller with stage := .checking generation tuner.completedGeneration.version })
  | .checking generation _ =>
    -- Looking at the generation also marks its version as seen.
    if tuner.completedGeneration.value ≥ generation then
      some (tuner, { caller with stage := .returned generation })
    else
      some (tuner,
        { caller with stage := .awaiting generation tuner.completedGeneration.version })
  | .awaiting generation seen =>
    if tuner.completedGeneration.version ≠ seen then
      some (tuner,
        { caller with stage := .checking generation tuner.completedGeneration.version })
    else none
  | .returned _ | .closed _ => none

/-- What a choice does to the polling world, if it can be taken. -/
def move [BEq Displays] (world : PollingWorld Displays) :
    PollChoice Displays → Option (PollingWorld Displays)
  | .loop => world.stepLoop
  | .captured platform elapsed =>
    match world.stage with
    | .capturing generation began =>
      let found := platform.getD { displays := default }
      some { world with stage := .captured generation began found elapsed }
    | _ => none
  | .dropped =>
    match world.stage with
    | .captured _ _ _ _ => some { world with stage := .stopped }
    | _ => none
  | .timer =>
    match world.stage with
    | .sleeping => some { world with stage := .reading }
    | _ => none
  | .refresh => some { world with callers := world.callers ++ [⟨.called, 0⟩] }
  | .caller index => do
    let caller ← world.callers[index]?
    let (tuner, caller) ← stepCaller world.tuner world.now caller
    some { world with tuner, callers := world.callers.set index caller }
  | .gone index => do
    let caller ← world.callers[index]?
    match caller.stage, world.stage with
    | .awaiting generation _, .stopped =>
      some { world with callers := world.callers.set index { caller with stage := .closed generation } }
    | _, _ => none

/-- The transition relation of the polling world, whoever moves, on a clock that counts the
steps. -/
def Steps [BEq Displays] (world : PollingWorld Displays) (choice : PollChoice Displays)
    (next : PollingWorld Displays) : Prop :=
  (world.move choice).map (fun moved => { moved with now := world.now + 1 }) = some next

end PollingWorld

end Hotki

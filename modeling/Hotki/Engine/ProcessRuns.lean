import Hotki.Engine.Ticker

/-! The lifecycle of the repeater's processes, with every run of a process and every stop in
progress. -/

namespace Hotki

open Base

/-- How far the task of a process run has come. -/
inductive RunPhase where
  /-- Spawned, and not begun or waiting for the gate of its entry. -/
  | waiting
  /-- Its process runs, in a process group that is known to an abort. -/
  | running
  /-- Its process has exited or was killed, and its task has yet to complete. -/
  | exited
  /-- The task has returned. -/
  | returned
  deriving DecidableEq

/-- One run of an entry's process. -/
structure ProcessRun where
  entry : Nat
  phase : RunPhase := .waiting
  deriving DecidableEq

/-- Per-id state that serializes process execution and coalesces repeats. -/
structure ProcessEntry where
  id : String
  /-- Whether key release cancels the current process. -/
  cancelOnRelease : Bool
  /-- Fast flag used to skip a repeat while a run is in flight. -/
  running : Bool := false
  /-- Its token was cancelled. -/
  cancelled : Bool := false
  /-- The current owned run. -/
  task : Option Nat := none
  deriving DecidableEq

/-- Where a stop stands. -/
inductive StopPhase where
  /-- It waits for the end of ticker tasks, and has taken no entry yet. -/
  | tickers (tasks : List Nat)
  /-- It awaits a run, with the entries it stops after that. -/
  | awaiting (run : Nat) (rest : List Nat)
  | returned
  deriving DecidableEq

/-- A call that stops the repeats of one id, or those of all. -/
structure StopCall where
  scope : Option String
  /-- The entries of the gestures that it was called to stop. -/
  gesture : List Nat
  phase : StopPhase
  deriving DecidableEq

/-- Whether a call concerns an id. -/
def StopCall.covers (call : StopCall) (id : String) : Bool := call.scope.all (· = id)

/-- The entries that a call has taken and will stop. -/
def StopCall.rest (call : StopCall) : List Nat :=
  match call.phase with
  | .awaiting _ rest => rest
  | .tickers _ | .returned => []

/-- The run that a call awaits. -/
def StopCall.awaited (call : StopCall) : Option Nat :=
  match call.phase with
  | .awaiting run _ => some run
  | .tickers _ | .returned => none

/-- Whether a call waits for the end of ticker tasks. -/
def StopCall.waits (call : StopCall) : Bool :=
  match call.phase with
  | .tickers _ => true
  | .awaiting _ _ | .returned => false

/-- The repeater with every entry, every run and every stop there has been, each known by its
position. A ticker task repeats the process of the entry it captured. -/
structure ProcessRuns where
  ticker : Ticker Nat := {}
  processStates : HashMap String Nat := ∅
  entries : List ProcessEntry := []
  runs : List ProcessRun := []
  calls : List StopCall := []

/-- What can happen to the repeater and its processes. -/
inductive ProcessOp where
  | start (id : String) (repeats : Bool)
  /-- A ticker task runs its callback. -/
  | tick (task : Nat)
  | stop (id : String)
  | stopRepeats (order : IterationOrder Nat)
  | abortAll
  /-- A stop goes on after what it waited for. -/
  | resume (call : Nat) (order : IterationOrder Nat)
  /-- A ticker task whose token was cancelled returns. -/
  | tickerEnds (task : Nat)
  /-- The task of a run is polled first, and spawns its process or fails to. -/
  | begin (run : Nat) (spawns : Bool)
  /-- The process of a run exits, by itself or killed by its task. -/
  | exits (run : Nat)
  /-- The task of a run returns. -/
  | complete (run : Nat)

namespace ProcessRuns

/-- Whether an entry is the registered one of its id. -/
def isRegistered (state : ProcessRuns) (entry : Nat) : Bool :=
  state.entries[entry]?.any fun known => state.processStates.lookup known.id = some entry

/-- Whether key release cancels the process of an entry. -/
def cancelsOnRelease (state : ProcessRuns) (entry : Nat) : Bool :=
  state.entries[entry]?.any ProcessEntry.cancelOnRelease

/-- Changes one entry. -/
def updateEntry (state : ProcessRuns) (entry : Nat) (change : ProcessEntry → ProcessEntry) :
    ProcessRuns :=
  { state with entries := state.entries.modify entry change }

/-- Moves one run to a phase. -/
def setPhase (state : ProcessRuns) (run : Nat) (phase : RunPhase) : ProcessRuns :=
  { state with runs := state.runs.modify run fun known => { known with phase } }

/-- Spawns a run of an entry, which is then its current one. -/
def spawn (state : ProcessRuns) (entry : Nat) : ProcessRuns :=
  let spawned : ProcessRuns := { state with runs := state.runs ++ [⟨entry, .waiting⟩] }
  spawned.updateEntry entry fun known =>
    { known with running := true, task := some state.runs.length }

/-- Cancels entries and lets go of their runs. -/
def cancelEntries (state : ProcessRuns) (taken : List Nat) : ProcessRuns :=
  { state with entries := state.entries.mapIdx fun entry known =>
    if entry ∈ taken then { known with cancelled := true, task := none } else known }

/-- Cancels entries, lets go of their runs and kills their processes. -/
def abortEntries (state : ProcessRuns) (taken : List Nat) : ProcessRuns :=
  { state.cancelEntries taken with runs := state.runs.map fun run =>
    if run.entry ∈ taken ∧ run.phase = .running then { run with phase := .exited } else run }

/-- Starts execution for a binding id, with a repeat loop if one is asked for. -/
def start (state : ProcessRuns) (id : String) (repeats : Bool) : ProcessRuns :=
  let aborted := state.abortEntries (state.processStates.lookup id).toList
  let entry := state.entries.length
  let ticker := state.ticker.abort id
  let started : ProcessRuns := { aborted with
    ticker := if repeats then ticker.start id entry else ticker
    processStates := state.processStates.insert id entry
    entries := aborted.entries ++ [{ id, cancelOnRelease := repeats }] }
  started.spawn entry

/-- A tick of a ticker task, which is skipped while a run of its entry is in flight. -/
def tick (state : ProcessRuns) (task : Nat) : Option ProcessRuns := do
  let ticking ← state.ticker.tasks[task]?
  let known ← state.entries[ticking.callback]?
  if ticking.ended then none
  else some (if known.running then state else state.spawn ticking.callback)

/-- Stops entries one after the other, up to the first with a run to await. -/
def stopEntries (state : ProcessRuns) : List Nat → ProcessRuns × StopPhase
  | [] => (state, .returned)
  | entry :: rest =>
    let stopped := state.cancelEntries [entry]
    match state.entries[entry]?.bind ProcessEntry.task with
    | some run => (stopped, .awaiting run rest)
    | none => stopped.stopEntries rest

/-- Takes from the registered entries those that a call is for, and stops them if key release
cancels them. -/
def release (state : ProcessRuns) (scope : Option String) (order : IterationOrder Nat) :
    ProcessRuns × StopPhase :=
  match scope with
  | some id =>
    let released : ProcessRuns := { state with processStates := state.processStates.erase id }
    released.stopEntries
      ((state.processStates.lookup id).toList.filter state.cancelsOnRelease)
  | none =>
    let repeated := state.processStates.entries.filter fun pair => state.cancelsOnRelease pair.2
    let released : ProcessRuns := { state with
      processStates := repeated.foldl (fun map pair => map.erase pair.1) state.processStates }
    released.stopEntries (order.arrange (repeated.map Sigma.snd))

/-- Puts a call in another phase. -/
def setCall (state : ProcessRuns) (call : Nat) (phase : StopPhase) : ProcessRuns :=
  { state with calls := state.calls.modify call fun known => { known with phase } }

/-- Lets a call go on, if what it waits for has come. -/
def resume (state : ProcessRuns) (call : Nat) (order : IterationOrder Nat) :
    Option ProcessRuns := do
  let known ← state.calls[call]?
  match known.phase with
  | .tickers tasks =>
    -- Tickers are joined first, so no new process starts below.
    if tasks.all state.ticker.hasEnded then
      let released := state.release known.scope order
      some (released.1.setCall call released.2)
    else none
  -- The processes are stopped one after another, in the order of the table.
  | .awaiting run rest =>
    if state.runs[run]?.any (·.phase = .returned) then
      let stopped := state.stopEntries rest
      some (stopped.1.setCall call stopped.2)
    else none
  | .returned => none

/-- The repeating entries in a scope that are registered or that another call has not finished
with: what a call with that scope is to stop. -/
def gesture (state : ProcessRuns) (scope : Option String) : List Nat :=
  (List.range state.entries.length).filter fun entry =>
    state.entries[entry]?.any (fun known => known.cancelOnRelease && scope.all (· = known.id)) &&
      (state.isRegistered entry || state.calls.any fun call =>
        entry ∈ call.rest || call.awaited.any fun run => state.runs[run]?.any (·.entry = entry))

/-- Starts a call once its tickers are cancelled; without any of them to await it goes on. -/
def call (state : ProcessRuns) (scope : Option String) (ticker : Ticker Nat) (tasks : List Nat)
    (order : IterationOrder Nat) : ProcessRuns :=
  let gesture := state.gesture scope
  let waiting : ProcessRuns := { state with ticker }
  if tasks = [] then
    let released := waiting.release scope order
    { released.1 with calls := released.1.calls ++ [⟨scope, gesture, released.2⟩] }
  else { waiting with calls := waiting.calls ++ [⟨scope, gesture, .tickers tasks⟩] }

/-- Stops any software repeats of an id. -/
def stop (state : ProcessRuns) (id : String) : ProcessRuns :=
  let stopped := state.ticker.stop id
  state.call (some id) stopped.2 stopped.1.toList (.stored Nat)

/-- Stops held process repeats while preserving independent one-shot commands. -/
def stopRepeats (state : ProcessRuns) (order : IterationOrder Nat) : ProcessRuns :=
  let cleared := state.ticker.clear
  state.call none cleared.2 cleared.1 order

/-- Aborts all repeat tasks and all registered processes. -/
def abortAll (state : ProcessRuns) : ProcessRuns :=
  let drained := state.abortEntries (state.processStates.entries.map Sigma.snd)
  { drained with ticker := state.ticker.abortAll, processStates := ∅ }

/-- The end of a run's task, after which a one-shot that is still registered is not. -/
def finish (state : ProcessRuns) (run : Nat) (entry : Nat) : ProcessRuns :=
  let finished := (state.setPhase run .returned).updateEntry entry fun known =>
    { known with running := false, task := none }
  match state.entries[entry]? with
  | some known =>
    if !known.cancelOnRelease && state.isRegistered entry then
      { finished with processStates := state.processStates.erase known.id }
    else finished
  | none => finished

/-- The first poll of a run's task, once the gate of its entry is free. A process of an entry that
was cancelled before is killed at once, and a task that fails to spawn its process returns. -/
def begin (state : ProcessRuns) (run : Nat) (spawns : Bool) : Option ProcessRuns := do
  let known ← state.runs[run]?
  let entry ← state.entries[known.entry]?
  let busy := state.runs.any fun other =>
    other.entry = known.entry && (other.phase = .running || other.phase = .exited)
  if known.phase = .waiting ∧ !busy then
    some (if !spawns then state.finish run known.entry
      else state.setPhase run (if entry.cancelled then .exited else .running))
  else none

/-- The exit of a run's process. -/
def exits (state : ProcessRuns) (run : Nat) : Option ProcessRuns := do
  let known ← state.runs[run]?
  if known.phase = .running then some (state.setPhase run .exited) else none

/-- The return of a run's task once its process has exited. -/
def complete (state : ProcessRuns) (run : Nat) : Option ProcessRuns := do
  let known ← state.runs[run]?
  if known.phase = .exited then some (state.finish run known.entry) else none

/-- One step of the repeater, of a task it spawned or of a process. -/
def step (state : ProcessRuns) : ProcessOp → Option ProcessRuns
  | .start id repeats => some (state.start id repeats)
  | .tick task => state.tick task
  | .stop id => some (state.stop id)
  | .stopRepeats order => some (state.stopRepeats order)
  | .abortAll => some state.abortAll
  | .resume call order => state.resume call order
  | .tickerEnds task => do
    let ticker ← state.ticker.finish task
    some { state with ticker }
  | .begin run spawns => state.begin run spawns
  | .exits run => state.exits run
  | .complete run => state.complete run

end ProcessRuns

end Hotki

import Hotki.Engine.Ticker
import Hotki.Script.Types

/-! The process repeater: the processes that actions start, one registered run for each id. -/

namespace Hotki

open Base

/-- Direct process specification shared by shell and exec actions. -/
structure ProcessSpec where
  program : String
  args : List String
  cwd : Option String
  /-- Notification type for successful exit. -/
  okNotify : NotifyKind
  /-- Notification type for error exit. -/
  errNotify : NotifyKind
  title : String
  deriving DecidableEq

/-- What process specifications take from their surroundings. -/
structure ProcessHost where
  /-- The shell named by the environment. -/
  shell : Option String
  /-- The directory a configured one stands for, relative ones starting at the configuration. -/
  resolveExecCwd : String → String

/-- The shell-language process using the inherited shell choice. -/
def ProcessSpec.shell (host : ProcessHost) (spec : ShellSpec) : ProcessSpec :=
  ⟨host.shell.getD "/bin/zsh", ["-lc", spec.command], none, spec.okNotify, spec.errNotify,
    "Shell command"⟩

/-- The process of a direct execution. -/
def directProcessSpec (host : ProcessHost) (spec : ExecSpec) : ProcessSpec :=
  ⟨spec.program, spec.args.getD [], spec.cwd.map host.resolveExecCwd, spec.okNotify,
    spec.errNotify, "Process"⟩

/-- The process that runs a script given by its lines. -/
def appleScriptProcess (lines : List String) : ProcessSpec :=
  ⟨"/usr/bin/osascript", lines.flatMap fun line => ["-e", line], none, .ignore, .warn,
    "Shell command"⟩

/-- The script that sets the volume. -/
def setVolumeScript (level : UInt8) : List String :=
  ["set volume output volume " ++ toString (min level.toNat 100)]

/-- The script that changes the volume. -/
def changeVolumeScript (delta : Int8) : List String :=
  ["set currentVolume to output volume of (get volume settings)",
    "set volume output volume (currentVolume + " ++ toString delta.toInt ++ ")"]

/-- The script that mutes or unmutes the output. -/
def muteScript : Toggle → List String
  | .on => ["set volume output muted true"]
  | .off => ["set volume output muted false"]
  | .toggle =>
    ["set curMuted to output muted of (get volume settings)",
      "set volume output muted not curMuted"]

/-- The process an action starts, if it starts one. -/
def Action.process (host : ProcessHost) : Action → Option ProcessSpec
  | .shell spec => some (.shell host spec)
  | .exec spec => some (directProcessSpec host spec)
  | .openTarget target => some ⟨"open", ["--", target], none, .ignore, .warn, "Open"⟩
  | .setVolume level => some (appleScriptProcess (setVolumeScript level))
  | .changeVolume delta => some (appleScriptProcess (changeVolumeScript delta))
  | .mute switch => some (appleScriptProcess (muteScript switch))
  | .relay _ | .reloadConfig | .clearNotifications | .showMainWindow _ => none

/-- Per-id run state of a process with the task that runs it. -/
structure ProcessRunState where
  id : String
  process : ProcessSpec
  /-- Whether key release cancels the process. -/
  cancelOnRelease : Bool
  /-- Its token was cancelled, which kills its process group. -/
  cancelled : Bool := false
  /-- Its task has returned. -/
  finished : Bool := false

/-- The repeater: its repeat loops, every run ever started, and the registered one of each id. -/
structure Repeater where
  ticker : Ticker Nat := {}
  processStates : HashMap String Nat := ∅
  runs : List ProcessRunState := []

namespace Repeater

/-- Changes one run. -/
def update (repeater : Repeater) (run : Nat) (change : ProcessRunState → ProcessRunState) :
    Repeater :=
  { repeater with runs := repeater.runs.modify run change }

/-- Removes and aborts the registered run of an id. -/
def abortRun (repeater : Repeater) (id : String) : Repeater :=
  match repeater.processStates.lookup id with
  | some run =>
    { repeater with processStates := repeater.processStates.erase id }.update run fun state =>
      { state with cancelled := true }
  | none => repeater

/-- Starts a process for a binding id, with a repeat loop if one is asked for. -/
def start (repeater : Repeater) (id : String) (process : ProcessSpec) (repeats : Bool) :
    Repeater :=
  let repeater := { repeater with ticker := repeater.ticker.abort id }.abortRun id
  let run := repeater.runs.length
  { ticker := if repeats then repeater.ticker.start id run else repeater.ticker
    processStates := repeater.processStates.insert id run
    runs := repeater.runs ++ [{ id, process, cancelOnRelease := repeats }] }

/-- Stops any software repeats of an id, and its process if release cancels it. -/
def stop (repeater : Repeater) (id : String) : Repeater :=
  let stopped := { repeater with ticker := (repeater.ticker.stop id).2 }
  match repeater.processStates.lookup id with
  | some run =>
    { stopped with processStates := repeater.processStates.erase id }.update run fun state =>
      { state with cancelled := state.cancelled || state.cancelOnRelease }
  | none => stopped

/-- Whether a process repeat is active for an id. -/
def repeating (repeater : Repeater) (id : String) : Bool :=
  repeater.ticker.isActive id ||
    (repeater.processStates.lookup id).any fun run =>
      repeater.runs[run]?.any ProcessRunState.cancelOnRelease

/-- Stops held process repeats while preserving independent one-shot commands. -/
def stopRepeats (repeater : Repeater) : Repeater :=
  let held := repeater.processStates.entries.map Sigma.snd |>.filter fun run =>
    repeater.runs[run]?.any ProcessRunState.cancelOnRelease
  { ticker := repeater.ticker.clear.2
    processStates := repeater.processStates.entries.foldl
      (fun states entry => if entry.2 ∈ held then states.erase entry.1 else states)
      repeater.processStates
    runs := repeater.runs.mapIdx fun run state =>
      if run ∈ held then { state with cancelled := true } else state }

/-- The return of a run's task, which deregisters a one-shot run that is still registered. -/
def finish (repeater : Repeater) (run : Nat) : Option Repeater := do
  let state ← repeater.runs[run]?
  if state.finished then none
  else
    let finished := repeater.update run fun state => { state with finished := true }
    some (if !state.cancelOnRelease && repeater.processStates.lookup state.id = some run then
      { finished with processStates := repeater.processStates.erase state.id }
    else finished)

end Repeater

end Hotki

import Hotki.Base.Distinct

/-! Running applications, and the processes an application name stands for. -/

namespace Hotki

open Base

/-- Who answers to an application name. -/
inductive ApplicationResolution where
  | found (pid : Int32)
  | notRunning
  | ambiguous (count : Nat)

/-- Minimal running-application record. -/
structure RunningApplication where
  name : Option String
  pid : Int32
  terminated : Bool
  deriving DecidableEq

/-- Whether a record counts for a name: it runs, under a pid, with exactly that name. -/
def RunningApplication.answers (application : RunningApplication) (appName : String) : Bool :=
  !application.terminated && decide (0 < application.pid) && application.name == some appName

/-- What distinct processes of a name amount to. -/
def ApplicationResolution.ofPids : List Int32 → ApplicationResolution
  | [] => .notRunning
  | [pid] => .found pid
  | pids => .ambiguous pids.length

/-- Resolves an exact localized name from a running-application snapshot. -/
def resolveApplication (applications : List RunningApplication) (appName : String) :
    ApplicationResolution :=
  let answering := applications.filter fun application => application.answers appName
  .ofPids (sortedDistinct (answering.map RunningApplication.pid))

end Hotki

import Hotki.Engine.Gesture
import Hotki.World.Application

/-! The target of a relay effect, resolved among the running applications. -/

namespace Hotki

/--
What a task finds when it applies a relay effect: its target resolved among the running
applications, or whether the UI takes the notification that is sent in its place.
-/
def relayAnswer (applications : List RunningApplication) (spec : RelaySpec) (sent : Bool) :
    TaskAnswer :=
  match Chord.parse spec.chord, spec.target with
  | none, _ => if sent then .granted else .failed
  | some _, .focused => .granted
  | some _, .applicationName appName =>
    match resolveApplication applications appName with
    | .found pid => .destination (some (.process pid))
    | .notRunning | .ambiguous _ => if sent then .destination none else .failed

end Hotki

import Hotki.Base.HashMap
import Hotki.Base.Run
import Hotki.Proofs.Script.Render
import Hotki.Proofs.Script.ModuleSource
import Hotki.Proofs.Script.Callback
import Hotki.Proofs.Relay.Modifiers
import Hotki.Proofs.Protocol.Rpc
import Hotki.Proofs.Engine.Fixpoint
import Hotki.Proofs.Engine.Session
import Hotki.Proofs.Engine.Isolation
import Hotki.Proofs.Hotkey.Matching
import Hotki.Proofs.Hotkey.Tap
import Hotki.Proofs.Hotkey.MissedEvents
import Hotki.Proofs.Server.WorkerProgress
import Hotki.Proofs.Server.KeyOrder
import Hotki.Proofs.Server.IdleShutdown
import Hotki.Proofs.Server.Shutdown
import Hotki.Proofs.Server.PipelineLifecycle
import Hotki.Proofs.Server.ManagedServer
import Hotki.Proofs.App.UiWakeups
import Hotki.Proofs.App.ConnectionDriver
import Hotki.Proofs.App.DriverRun
import Hotki.Proofs.Engine.HeldKeys
import Hotki.Proofs.Engine.PressFeedback
import Hotki.Proofs.Config.Style
import Hotki.Proofs.Engine.EffectQueue
import Hotki.Proofs.Engine.OneShots
import Hotki.Proofs.Engine.QueuedProcesses
import Hotki.Proofs.Engine.ProcessOutput
import Hotki.Proofs.World.Captures
import Hotki.Proofs.World.Subscription
import Hotki.Proofs.Engine.WorldSync
import Hotki.Proofs.Engine.DisplayRefresh
import Hotki.Proofs.Server.ClientDrain
import Hotki.Proofs.Engine.SelectorHud
import Hotki.Proofs.Engine.SelectorRuns
import Hotki.Proofs.Engine.SelectorWindow
import Hotki.Proofs.Script.ActionContext
import Hotki.Proofs.Engine.RelayRepeats
import Hotki.Proofs.Engine.RelayTarget
import Hotki.Proofs.Engine.Capture
import Hotki.Proofs.Engine.Recovery
import Hotki.Proofs.Engine.QuiescentRuns
import Hotki.Proofs.Keycode.Parse
import Hotki.App.Hud
import Hotki.Proofs.App.HudPresses
import Hotki.Proofs.Script.ModeBuilder

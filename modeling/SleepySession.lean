import SleepySession.Bindings.Acknowledged
import SleepySession.Desktop.ConfirmedCommands
import SleepySession.Desktop.DedupeLog
import SleepySession.Desktop.SecretWorkers
import SleepySession.Store.Invariant
import SleepySession.Notifications.Linearizable
import SleepySession.Notifications.Publication
import SleepySession.Notifications.Signals
import SleepySession.Sessiond.HubDelivery
import SleepySession.SystemFacade.Superseded
import SleepySession.Sessiond.StartupOutcome
import SleepySession.Desktop.SuspendLifecycle
import SleepySession.Compositor.EventFraming
import SleepySession.Sessiond.SocketOwner
import SleepySession.Sessiond.MutationSafety
import SleepySession.Themes.Coherence
import SleepySession.Desktop.ShutdownOutcome
import SleepySession.Calendar.TextEscapes
import SleepySession.Calendar.TzifMeaning
import SleepySession.Calendar.LocalTimes
import SleepySession.Sessiond.NiriWorkspaces
import SleepySession.Sessiond.CommitGuards
import SleepySession.Osd.Routing
import SleepySession.Osd.Publications
import SleepySession.Overview.Confirmation
import SleepySession.Capture.ResultFiles
import SleepySession.Calendar.Expansion
import SleepySession.Calendar.TzifBounds
import SleepySession.Launcher.Program
import SleepySession.Launcher.Quoting
import SleepySession.Desktop.AckChunks
import SleepySession.Desktop.NetworkReadback
import SleepySession.Desktop.RecordingRuns
import SleepySession.Compositor.SnapshotSoundness
import SleepySession.Compositor.CommandTargets
import SleepySession.Themes.PaletteContrast
import SleepySession.Sessiond.AudioFrames
import SleepySession.Desktop.RecordingAgreement
import SleepySession.Launcher.MetricsRuns
import SleepySession.Supervisor.Agreement
import SleepySession.Store.StoreConfinement
import SleepySession.Weather.MetNoRuns
import SleepySession.Weather.NominatimRuns
import SleepySession.Calendar.SourceIsolation
import SleepySession.Sessiond.GenerationRuns
import SleepySession.Desktop.Observations
import SleepySession.Desktop.ControlRuns
import SleepySession.Desktop.SecretSocketRuns
import SleepySession.Notifications.Ledger
import SleepySession.Desktop.Polling
import SleepySession.Bindings.Compiler
import SleepySession.Desktop.TrayClicks
import SleepySession.Daily.SocketRuns

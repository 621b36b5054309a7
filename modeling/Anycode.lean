import Anycode.Data.Assoc
import Anycode.Data.Json
import Anycode.Data.Utf8
import Anycode.Data.Ascii
import Anycode.Data.Table
import Anycode.Data.Run
import Anycode.Data.Leases
import Anycode.Data.Notify
import Anycode.Data.Calls
import Anycode.Data.Requests
import Anycode.Data.Turns
import Anycode.Data.Chunks
import Anycode.Data.HeaderMap
import Anycode.Data.WebRouter
import Anycode.Data.Text
import Anycode.Data.Fields
import Anycode.Data.Words
import Anycode.Data.RwLock
import Anycode.Data.Abort
import Anycode.Data.StrSlice
import Anycode.Data.Windows
import Anycode.Data.JsonText
import Anycode.Data.JsonEscapes
import Anycode.Data.Checked
import Anycode.Data.Segmentation
import Anycode.Data.Lookahead
import Anycode.Data.Trail
import Anycode.Thinking.Body
import Anycode.Thinking.Registry
import Anycode.Thinking.Live
import Anycode.Thinking.Filter
import Anycode.Thinking.Eviction
import Anycode.Thinking.LateRegistration
import Anycode.Thinking.Session
import Anycode.Thinking.Isolation
import Anycode.Thinking.Conversations
import Anycode.Thinking.Stream
import Anycode.Thinking.Reassembly
import Anycode.Thinking.Echo
import Anycode.Thinking.Fingerprint
import Anycode.Config.Backend
import Anycode.Config.Credentials
import Anycode.Pipeline.ModelRewrite
import Anycode.Pipeline.ObservedStream
import Anycode.Pipeline.Transform
import Anycode.Pipeline.AdaptiveThinking
import Anycode.Pipeline.Stages
import Anycode.Pipeline.Downgrade
import Anycode.Backend.State
import Anycode.Backend.Closed
import Anycode.Backend.SwitchLog
import Anycode.Backend.Agents
import Anycode.Pipeline.Provenance
import Anycode.Pipeline.FastPath
import Anycode.Pipeline.Headers
import Anycode.Pipeline.ModelFrame
import Anycode.Pipeline.BetaAgreement
import Anycode.Pipeline.CredentialIsolation
import Anycode.Metrics.Redaction
import Anycode.Metrics.Preview
import Anycode.Metrics.TokenMasks
import Anycode.Metrics.KeyValues
import Anycode.Metrics.BearerTokens
import Anycode.Metrics.Hub
import Anycode.Metrics.Stream
import Anycode.Metrics.Noninterference
import Anycode.Metrics.SseRoundTrip
import Anycode.Metrics.Rotation
import Anycode.Metrics.LogConservation
import Anycode.Metrics.Snapshots
import Anycode.Pipeline.Forward
import Anycode.Pipeline.RetrySchedule
import Anycode.Pipeline.UpstreamUrl
import Anycode.Pipeline.AutoRetry
import Anycode.Pipeline.PutBack
import Anycode.Pipeline.Response
import Anycode.Pipeline.Finalization
import Anycode.Pipeline.PreviewCuts
import Anycode.Proxy.SessionToken
import Anycode.Proxy.Router
import Anycode.Pipeline.Routing
import Anycode.Pipeline.SubagentMarkers
import Anycode.Proxy.Engine
import Anycode.Proxy.Affinity
import Anycode.Proxy.Models
import Anycode.Proxy.ModelCache
import Anycode.Proxy.ModelErrors
import Anycode.Metrics.DebugLog
import Anycode.Metrics.LogWriter
import Anycode.Metrics.LogPrivacy
import Anycode.Proxy.Shutdown
import Anycode.Proxy.Connections
import Anycode.Shim.Tmux
import Anycode.Shim.Commands
import Anycode.Shim.Teammates
import Anycode.Config.Types
import Anycode.Config.Loader
import Anycode.Config.FileSteps
import Anycode.Config.Saves
import Anycode.Config.ClaudeSettings
import Anycode.Webui.Api
import Anycode.Webui.Atomicity
import Anycode.Webui.Writers
import Anycode.Webui.LostUpdates
import Anycode.Webui.RoundTrip
import Anycode.Webui.Server
import Anycode.Webui.Sessions
import Anycode.Webui.KeyPrivacy
import Anycode.Ipc.Server
import Anycode.Term.Event
import Anycode.Term.Parser
import Anycode.Term.Segmentation
import Anycode.Term.Pastes
import Anycode.Term.Feeds
import Anycode.Term.Mouse
import Anycode.Term.Csi
import Anycode.Term.Typing
import Anycode.Term.Reader
import Anycode.Args.Registry
import Anycode.Args.Classifier
import Anycode.Args.Session
import Anycode.Args.Environment
import Anycode.Args.Assembler
import Anycode.Args.Pipeline
import Anycode.Args.Selectors
import Anycode.Args.Passthrough
import Anycode.Ui.Pty
import Anycode.Ui.App
import Anycode.Ui.Conservation
import Anycode.Ui.Paste
import Anycode.Ui.Dialogs
import Anycode.Ui.Input
import Anycode.Ui.Focus
import Anycode.Ui.BackendDialog
import Anycode.Ui.Runtime
import Anycode.Ui.Liveness
import Anycode.Ui.KeyCommands
import Anycode.Ui.Bridge
import Anycode.Ui.Display
import Anycode.Ui.Restarts
import Anycode.Ui.Launch
import Anycode.Ui.RestartArgs
import Anycode.Ui.SpawnEnv
import Anycode.Ui.Selection
import Anycode.Ui.WordSelection
import Anycode.Ui.MouseGestures
import Anycode.Ui.PtySession

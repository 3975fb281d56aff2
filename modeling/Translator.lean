import Translator.Audio.Hearing
import Translator.Control.Leases
import Translator.Control.Egress
import Translator.Control.ExactPcm
import Translator.Control.ProgressOrder
import Translator.Control.DebugCapture
import Translator.Control.DebugSwitch
import Translator.Control.RoundTripHandle
import Translator.Control.Running
import Translator.Control.Settings
import Translator.Duplex.CaptureDeadline
import Translator.Duplex.CaptureRead
import Translator.Duplex.PolicyBarrier
import Translator.Duplex.Restarts
import Translator.Graph.Orphans
import Translator.Graph.Listing
import Translator.Graph.HeadphoneAec
import Translator.Graph.Settling
import Translator.Latency.Clocks
import Translator.Latency.History
import Translator.Sidecar.LocalProvider
import Translator.Sidecar.Dispatching
import Translator.Sidecar.EngineRuns
import Translator.Sidecar.ProviderLeases
import Translator.Supervisor.Rotation
import Translator.Local.AsrResidency
import Translator.Local.Entities
import Translator.Local.Times
import Translator.Realtime.Batches
import Translator.Realtime.Finals
import Translator.Realtime.Overlaps
import Translator.Realtime.Receiving
import Translator.Stream.Obligations
import Translator.Stream.Rejections
import Translator.Wire.Grammar
import Translator.Wire.Acceptance
import Translator.Routing.Attachment
import Translator.Routing.Recovery
import Translator.Routing.Privacy
import Translator.Routing.Retrying
import Translator.Manifest.Escaping
import Translator.Manifest.Fetch
import Translator.Latency.NearestRank
import Translator.Control.DebugHistory
import Translator.Control.CaptureStore
import Translator.Stream.Refusals
import Translator.Realtime.Reframing
import Translator.Audio.OriginalLoopbacks
import Translator.Local.Rendering
import Translator.Local.SourceCommit
import Translator.Sidecar.Publications
import Translator.Sidecar.Numbering
import Translator.Sidecar.Finals
import Translator.Sidecar.Telling
import Translator.Sidecar.Stories
import Translator.Sidecar.Speaking

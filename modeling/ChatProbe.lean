import ChatProbe.Main
import ChatProbe.Proofs.Chat.Completion
import ChatProbe.Proofs.Json.Bytes
import ChatProbe.Proofs.Json.RoundTrip
import ChatProbe.Proofs.Logging.Delivery
import ChatProbe.Proofs.Logging.Line
import ChatProbe.Proofs.Logging.Streams
import ChatProbe.Proofs.MockServer.Answering
import ChatProbe.Proofs.Probe.Lifecycle
import ChatProbe.Proofs.Probe.Transparency
import ChatProbe.Proofs.Settings.Cache
import ChatProbe.Proofs.Settings.Nearest
import ChatProbe.Proofs.Settings.Precedence
import ChatProbe.Proofs.Telemetry.Handles
import ChatProbe.Proofs.Value.Plain
import ChatProbe.Telemetry.Tracing
import ChatProbe.Proofs.Telemetry.HubSteps
import ChatProbe.Proofs.Telemetry.Reporting
import ChatProbe.Proofs.Telemetry.Visits
import ChatProbe.Proofs.Telemetry.Nesting
import ChatProbe.Proofs.Telemetry.HelperCalls
import ChatProbe.Proofs.Json.Members
import ChatProbe.Proofs.Settings.Merging
import ChatProbe.Proofs.Dotenv.Literal
import ChatProbe.Proofs.Settings.Placement
import ChatProbe.Proofs.Dotenv.Loadable
import ChatProbe.Proofs.Settings.Validation
import ChatProbe.Proofs.Json.Grammar
import ChatProbe.Proofs.Json.Numerals
import ChatProbe.Proofs.Json.Written
import ChatProbe.Proofs.Value.Writable
import ChatProbe.Proofs.Logging.Fields
import ChatProbe.Proofs.Logging.Refused
import ChatProbe.Proofs.MockServer.Serving
import ChatProbe.Proofs.Chat.Forms
import ChatProbe.Proofs.Settings.NormalForm
import ChatProbe.Proofs.Telemetry.Endpoints
import ChatProbe.Proofs.Telemetry.Selection
import ChatProbe.Proofs.Telemetry.Resolution
import ChatProbe.Proofs.Settings.Discovery
import ChatProbe.Proofs.Telemetry.SpanWrites
import ChatProbe.Proofs.Telemetry.Verdict
import ChatProbe.Proofs.Telemetry.LastWrites
import ChatProbe.Proofs.Telemetry.Lifetimes
import ChatProbe.Proofs.Telemetry.ServiceName

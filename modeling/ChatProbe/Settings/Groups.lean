import ChatProbe.Settings.Checked
/-!
# The groups of settings

Three groups, each with its fields, their defaults and rules: how to log
(`LoggingSettings`), what to record and where to send it (`TelemetrySettings`), and what the mock
server answers (`MockServerSettings`). `build` makes a group from arguments and the environment;
`dump` gives its fields back as values.

The rules bring a value into its normal form: level names stand in upper case, format and
exporter names in lower case, an empty endpoint is none at all.
-/

namespace ChatProbe
namespace Settings

/-- The five level names. -/
inductive LevelName where
  | debug
  | info
  | warning
  | error
  | critical
deriving DecidableEq, Repr, Inhabited

namespace LevelName

/-- All level names. -/
def all : List LevelName := [.debug, .info, .warning, .error, .critical]

/-- The normal form of a level name. -/
def text : LevelName → String
  | .debug => "DEBUG"
  | .info => "INFO"
  | .warning => "WARNING"
  | .error => "ERROR"
  | .critical => "CRITICAL"

/-- A level name in any letter case. -/
def read (v : Value) : Except Problem LevelName := do
  let s ← readText v
  match all.find? fun n => n.text == Text.upper s with
  | some n => return n
  | none => throw (.rule .levelName)

end LevelName

/-- The two forms of log lines. -/
inductive FormatName where
  | json
  | text
deriving DecidableEq, Repr, Inhabited

namespace FormatName

/-- All format names. -/
def all : List FormatName := [.json, .text]

/-- The normal form of a format name. -/
def name : FormatName → String
  | .json => "json"
  | .text => "text"

/-- A format name in any letter case. -/
def read (v : Value) : Except Problem FormatName := do
  let s ← readText v
  match all.find? fun n => n.name == Text.lower s with
  | some n => return n
  | none => throw (.rule .formatName)

end FormatName

/-- How to log. -/
structure LoggingSettings where
  level : LevelName
  format : FormatName
deriving DecidableEq, Repr, Inhabited

namespace LoggingSettings

/-- The name of the group. -/
def title : String := "LoggingSettings"

/-- The field names. -/
def names : List String := ["level", "format"]

/-- The group from arguments and the environment. -/
def build (env : Environment) (inputs : Inputs) : Checked LoggingSettings :=
  let s := Supply.of names "LOG_" env inputs
  (Checked.ok LoggingSettings.mk).ap (s.field "level" .info LevelName.read)
    |>.ap (s.field "format" .json FormatName.read)
    |>.plus (s.unknown names)

/-- The fields as values. -/
def dump (g : LoggingSettings) : Inputs :=
  [("level", .str g.level.text), ("format", .str g.format.name)]

end LoggingSettings

/-- Where a signal is sent. -/
inductive ExporterName where
  | otlp
  | console
  | nowhere
deriving DecidableEq, Repr, Inhabited

namespace ExporterName

/-- All exporter names. -/
def all : List ExporterName := [.otlp, .console, .nowhere]

/-- The normal form of an exporter name. -/
def text : ExporterName → String
  | .otlp => "otlp"
  | .console => "console"
  | .nowhere => "none"

/-- An exporter name in any letter case. -/
def read (v : Value) : Except Problem ExporterName := do
  let s ← readText v
  match all.find? fun n => n.text == Text.lower s with
  | some n => return n
  | none => throw (.rule .exporterName)

end ExporterName

/-- The three kinds of telemetry data. -/
inductive Signal where
  | traces
  | logs
  | metrics
deriving DecidableEq, Repr, Inhabited

namespace Signal

/-- The name of a signal. -/
def name : Signal → String
  | .traces => "traces"
  | .logs => "logs"
  | .metrics => "metrics"

end Signal

/-- What to record and where to send it. -/
structure TelemetrySettings where
  sdkDisabled : Bool
  serviceName : String
  endpoint : Option String
  tracesExporter : ExporterName
  logsExporter : ExporterName
  metricsExporter : ExporterName
  captureContent : Bool
deriving DecidableEq, Repr, Inhabited

namespace TelemetrySettings

/-- The name of the group. -/
def title : String := "TelemetrySettings"

/-- The field names. -/
def names : List String :=
  ["sdk_disabled", "service_name", "exporter_otlp_endpoint", "traces_exporter", "logs_exporter",
   "metrics_exporter", "instrumentation_genai_capture_message_content"]

/-- The service name of a process that does not say otherwise. -/
def defaultServiceName : String := "opentelemetry-python-openai"

/-- An endpoint: nothing, or an address with one of two schemes. -/
def readEndpoint (v : Value) : Except Problem (Option String) :=
  match v with
  | .null => .ok none
  | v => do
    let s ← readText v
    if s.isEmpty then return none
    else if s.startsWith "http://" || s.startsWith "https://" then return some s
    else throw (.rule .endpointScheme)

/-- The group from arguments and the environment. -/
def build (env : Environment) (inputs : Inputs) : Checked TelemetrySettings :=
  let s := Supply.of names "OTEL_" env inputs
  (Checked.ok TelemetrySettings.mk).ap (s.field "sdk_disabled" false readBool)
    |>.ap (s.field "service_name" defaultServiceName readText)
    |>.ap (s.field "exporter_otlp_endpoint" none readEndpoint)
    |>.ap (s.field "traces_exporter" .otlp ExporterName.read)
    |>.ap (s.field "logs_exporter" .otlp ExporterName.read)
    |>.ap (s.field "metrics_exporter" .otlp ExporterName.read)
    |>.ap (s.field "instrumentation_genai_capture_message_content" false readBool)
    |>.plus (s.unknown names)

/-- The fields as values. -/
def dump (g : TelemetrySettings) : Inputs :=
  [("sdk_disabled", .bool g.sdkDisabled), ("service_name", .str g.serviceName),
   ("exporter_otlp_endpoint", match g.endpoint with | some e => .str e | none => .null),
   ("traces_exporter", .str g.tracesExporter.text), ("logs_exporter", .str g.logsExporter.text),
   ("metrics_exporter", .str g.metricsExporter.text),
   ("instrumentation_genai_capture_message_content", .bool g.captureContent)]

/-- The exporter chosen for a signal. -/
def exporterOf (g : TelemetrySettings) : Signal → ExporterName
  | .traces => g.tracesExporter
  | .logs => g.logsExporter
  | .metrics => g.metricsExporter

/-- The address to which data named `signal` is sent: the path of the signal behind the endpoint,
whether or not that ends with slashes. -/
def signalEndpoint (g : TelemetrySettings) (signal : String) : Option String :=
  g.endpoint.bind fun e =>
    if e.isEmpty then none else some (Text.trimRight '/' e ++ "/v1/" ++ signal)

end TelemetrySettings

/-- What the mock server answers, and where it listens. -/
structure MockServerSettings where
  host : String
  port : Int
  model : String
  responseId : String
  responseCreated : Int
  responseContent : String
  promptTokens : Int
  completionTokens : Int
deriving DecidableEq, Repr, Inhabited

namespace MockServerSettings

/-- The name of the group. -/
def title : String := "MockServerSettings"

/-- The field names. -/
def names : List String :=
  ["host", "port", "model", "response_id", "response_created", "response_content",
   "prompt_tokens", "completion_tokens"]

/-- A port number. -/
def readPort (v : Value) : Except Problem Int := do
  let p ← readInt v
  if 1 ≤ p ∧ p ≤ 65535 then return p else throw (.rule .portRange)

/-- The group from arguments and the environment. -/
def build (env : Environment) (inputs : Inputs) : Checked MockServerSettings :=
  let s := Supply.of names "MOCK_OPENAI_" env inputs
  (Checked.ok MockServerSettings.mk).ap (s.field "host" "127.0.0.1" readText)
    |>.ap (s.field "port" 8080 readPort)
    |>.ap (s.field "model" "gpt-4o-mini" readText)
    |>.ap (s.field "response_id" "chatcmpl-1234" readText)
    |>.ap (s.field "response_created" 1677652281 readInt)
    |>.ap (s.field "response_content" "This is a mock response from the server." readText)
    |>.ap (s.field "prompt_tokens" 5 readInt)
    |>.ap (s.field "completion_tokens" 7 readInt)
    |>.plus (s.unknown names)

/-- The fields as values. -/
def dump (g : MockServerSettings) : Inputs :=
  [("host", .str g.host), ("port", .int g.port), ("model", .str g.model),
   ("response_id", .str g.responseId), ("response_created", .int g.responseCreated),
   ("response_content", .str g.responseContent), ("prompt_tokens", .int g.promptTokens),
   ("completion_tokens", .int g.completionTokens)]

end MockServerSettings

end Settings
end ChatProbe

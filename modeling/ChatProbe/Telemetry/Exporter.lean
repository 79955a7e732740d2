import ChatProbe.Logging.Root
import ChatProbe.Settings.Groups
/-!
# Exporters

Where the data of a signal goes: to an OTLP address, to the console, or nowhere. The settings
choose for each signal (`Exporter.ofSettings`). Where they name no endpoint, the address is the
one that the environment alone gives for the signal (`environmentEndpoint`): that of the signal's
own variable as it stands, else the common endpoint with the path of the signal behind it.
-/

namespace ChatProbe
namespace Telemetry

open Settings (Signal TelemetrySettings)

/-- A destination of telemetry data. -/
inductive Exporter where
  | otlp (endpoint : String)
  | console
deriving DecidableEq, Repr

/-- The variable that holds the common endpoint. -/
def endpointVariable : String := "OTEL_EXPORTER_OTLP_ENDPOINT"

/-- The variable that holds the endpoint of one signal. -/
def signalVariable : Signal → String
  | .traces => "OTEL_EXPORTER_OTLP_TRACES_ENDPOINT"
  | .logs => "OTEL_EXPORTER_OTLP_LOGS_ENDPOINT"
  | .metrics => "OTEL_EXPORTER_OTLP_METRICS_ENDPOINT"

/-- The endpoint where nothing names another one. -/
def defaultEndpoint : String := "http://localhost:4318/"

/-- An endpoint with the path of a signal; one slash is added unless the endpoint ends with one. -/
def withSignalPath (endpoint : String) (signal : Signal) : String :=
  (if endpoint.endsWith "/" then endpoint else endpoint ++ "/") ++ "v1/" ++ signal.name

/-- The address for a signal that the environment alone gives. -/
def environmentEndpoint (env : Environment) (signal : Signal) : String :=
  (env.get? (signalVariable signal)).getD
    (withSignalPath ((env.get? endpointVariable).getD defaultEndpoint) signal)

/-- The address for a signal: the one in the settings, else that of the environment. -/
def endpointFor (t : TelemetrySettings) (env : Environment) (signal : Signal) : String :=
  (t.signalEndpoint signal.name).getD (environmentEndpoint env signal)

namespace Exporter

/-- The destination that the settings choose for a signal. -/
def ofSettings (t : TelemetrySettings) (env : Environment) (signal : Signal) : Option Exporter :=
  match t.exporterOf signal with
  | .otlp => some (.otlp (endpointFor t env signal))
  | .console => some .console
  | .nowhere => none

/-- The address of an exporter that has one. -/
def endpoint? : Exporter → Option String
  | .otlp e => some e
  | .console => none

/-- What an exporter writes to a stream to show a text. The console exporters of all signals write
to standard error. -/
def written (e : Exporter) (text : String) : Logging.Written :=
  match e with
  | .otlp _ => []
  | .console => [(Logging.standardError, text)]

end Exporter
end Telemetry
end ChatProbe

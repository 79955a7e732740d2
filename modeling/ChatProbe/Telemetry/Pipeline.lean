import ChatProbe.Telemetry.Exporter
import ChatProbe.Telemetry.Observation
import ChatProbe.Telemetry.Resource
/-!
# Pipelines

A `Pipeline` is where one setup collects telemetry: the resource that produces the data, an
observer, and for each signal a `Sink`. Data is kept where the sink is the memory of the process;
what goes elsewhere or nowhere is not seen again.
-/

namespace ChatProbe
namespace Telemetry

open Settings (Signal TelemetrySettings)

/-- Where the data of a signal goes. -/
inductive Sink where
  | memory
  | exporter (e : Exporter)
  | nowhere
deriving DecidableEq, Repr

namespace Sink

/-- The sink of a signal: the memory where that is asked for, else what the settings choose. -/
def choose (memory : Bool) (t : TelemetrySettings) (env : Environment) (signal : Signal) : Sink :=
  if memory then .memory
  else match Exporter.ofSettings t env signal with
  | some e => .exporter e
  | none => .nowhere

/-- How many processors feed a sink. -/
def processors : Sink → Nat
  | .nowhere => 0
  | _ => 1

/-- What a sink keeps. -/
def keep {α : Type} : Sink → List α → List α
  | .memory, xs => xs
  | _, _ => []

/-- What a sink writes to streams to show texts. -/
def written : Sink → List String → Logging.Written
  | .exporter e, texts => texts.flatMap e.written
  | _, _ => []

end Sink

/-- The telemetry of one setup. -/
structure Pipeline where
  resource : TextAttributes
  observer : Observer
  spanSink : Sink
  recordSink : Sink
  metricSink : Sink
  /-- Whether the environment switches off what the settings switch on. -/
  muted : Bool
  spans : List Span
  records : List EventRecord
deriving Repr

/-- Whether the text of messages may be told. -/
def capturesContent (env : Environment) : Bool :=
  Text.lower ((env.get? "OTEL_INSTRUMENTATION_GENAI_CAPTURE_MESSAGE_CONTENT").getD "") == "true"

namespace Pipeline

/-- The pipeline of settings, before any request. -/
def ofSettings (t : TelemetrySettings) (env : Environment) (memory : Bool) :
    Except Failure Pipeline := do
  let tracer ← Tracer.ofEnvironment env
  let metricSink := Sink.choose memory t env .metrics
  return {
    resource := Telemetry.resource t env
    observer := ⟨tracer, capturesContent env, ⟨!switchedOff env, metricSink != .nowhere, []⟩⟩
    spanSink := Sink.choose memory t env .traces
    recordSink := Sink.choose memory t env .logs
    metricSink
    muted := switchedOff env
    spans := [], records := [] }

/-- What was measured, as far as it is kept. -/
def points (p : Pipeline) : List Point := p.metricSink.keep p.observer.meter.points

/-- What the pipeline writes to streams where `texts` is shown of each signal. How data reads as a
text is left open. -/
def written (p : Pipeline) (texts : Signal → List String) : Logging.Written :=
  p.spanSink.written (texts .traces) ++ p.recordSink.written (texts .logs)
    ++ p.metricSink.written (texts .metrics)

/-- The pipeline with an observation. -/
def absorb (p : Pipeline) (o : Observation) : Pipeline :=
  { p with
    observer := { p.observer with meter := o.meter }
    spans := p.spans ++ p.spanSink.keep ([o.span].filter (·.recorded))
    records := p.records ++ if p.muted then [] else p.recordSink.keep o.records }

/-- Who logs while a part of a pipeline is set up. -/
def origin (part : String) : Logging.Origin :=
  ⟨"genaiprobe.observability." ++ part, part, "configure_" ++ part⟩

/-- What is logged when the tracer is set up. -/
def tracerEntry (exporter : Settings.ExporterName) : Logging.Entry :=
  .plain 10 (origin "tracing")
    ("Tracer provider configured (exporter=" ++ exporter.text ++ ")")

/-- What is logged when the events are set up. -/
def eventsEntry (t : TelemetrySettings) : Logging.Entry :=
  .plain 10 (origin "events")
    ("Event pipeline configured (exporter=" ++ t.logsExporter.text ++ ", capture_content="
      ++ Value.boolText t.captureContent ++ ")")

/-- What is logged when the meter is set up. -/
def meterEntry (t : TelemetrySettings) : Logging.Entry :=
  .plain 10 (origin "metrics")
    ("Meter provider configured (exporter=" ++ t.metricsExporter.text ++ ")")

/-- What is logged when a pipeline is set up. -/
def setupLog (t : TelemetrySettings) : List Logging.Entry :=
  [tracerEntry t.tracesExporter, eventsEntry t, meterEntry t,
   .plain 20 ⟨"genaiprobe.observability.telemetry", "telemetry", "setup_telemetry"⟩
    ("Telemetry configured: service=" ++ t.serviceName ++ " endpoint="
      ++ t.endpoint.getD "default")]

end Pipeline
end Telemetry
end ChatProbe

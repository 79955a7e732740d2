import ChatProbe.Telemetry.Attributes
/-!
# Spans

A span is one stretch of work: its name, the span that it was opened in, attributes, events, and
how it went (`SpanStatus`). Success is final; of several failures the last counts. Nothing changes
a span that has ended or is not recorded (`Span.update`).
-/

namespace ChatProbe
namespace Telemetry

/-- How the work of a span went. -/
inductive SpanStatus where
  | unset
  | ok
  | error (description : Option Str)
deriving DecidableEq, Repr

namespace SpanStatus

/-- The status after another one is set. -/
def next : SpanStatus → SpanStatus → SpanStatus
  | .ok, _ => .ok
  | s, .unset => s
  | _, t => t

@[simp] theorem next_ok (t : SpanStatus) : next .ok t = .ok := rfl

/-- The name of a status. -/
def code : SpanStatus → String
  | .unset => "UNSET"
  | .ok => "OK"
  | .error _ => "ERROR"

/-- What is said about a failure. -/
def description? : SpanStatus → Option Str
  | .error d => d
  | _ => none

end SpanStatus

/-- Something that happened during a span. -/
structure Event where
  name : String
  attributes : List (Str × Value)
deriving Repr

/-- The attribute of an event that holds the lines of code; its text is not kept. -/
def stackKey : String := "exception.stacktrace"

/-- The event of an exception. -/
def Event.ofException (limits : Limits) (className : String) (message : Str) : Event :=
  ⟨"exception",
    -- The lines of code take part in the bound, and are left out at the end.
    (Attributes.ofList limits.eventAttributes limits.textLength
      [("exception.type", .str className), ("exception.message", .str message),
       (stackKey, .str ""), ("exception.escaped", .str "False")]).entries.filter
        fun e => e.1 != stackKey⟩

/-- The last events, as many as may be kept. -/
def lastEvents (count : Option Nat) (es : List Event) : List Event :=
  match count with
  | none => es
  | some n => es.drop (es.length - n)

/-- What role a span has in a conversation. -/
inductive SpanKind where
  | internal
  | client
deriving DecidableEq, Repr

/-- The name of a kind. -/
def SpanKind.name : SpanKind → String
  | .internal => "INTERNAL"
  | .client => "CLIENT"

/-- A stretch of work. -/
structure Span where
  name : String
  kind : SpanKind
  scope : String
  parent : Option String
  attributes : Attributes
  status : SpanStatus
  events : List Event
  /-- Whether the span is recorded at all. -/
  recorded : Bool
  ended : Bool
deriving Repr

namespace Span

/-- A span that has just been opened. -/
def start (name : String) (kind : SpanKind) (scope : String) (parent : Option String)
    (recorded : Bool) : Span :=
  ⟨name, kind, scope, parent, .empty, .unset, [], recorded, false⟩

/-- Change a span, unless it has ended or is not recorded. -/
def update (f : Span → Span) (s : Span) : Span := if s.recorded && !s.ended then f s else s

/-- Write an attribute. -/
def setAttribute (limits : Limits) (key v : Value) : Span → Span :=
  update fun s =>
    { s with attributes := s.attributes.set limits.spanAttributes limits.spanTextLength key v }

/-- Set the status. -/
def setStatus (t : SpanStatus) : Span → Span :=
  update fun s => { s with status := s.status.next t }

/-- Add an event; the oldest makes room. -/
def addEvent (limits : Limits) (e : Event) : Span → Span :=
  update fun s => { s with events := lastEvents limits.events (s.events ++ [e]) }

/-- End a span. -/
def finish : Span → Span := update fun s => { s with ended := true }

theorem update_of_ended {f : Span → Span} {s : Span} (h : s.ended = true) : s.update f = s := by
  simp [update, h]

end Span

/-- Whether the environment switches all telemetry off. -/
def switchedOff (env : Environment) : Bool :=
  Text.lower (Text.trim Text.isBlank ((env.get? "OTEL_SDK_DISABLED").getD "")) == "true"

/-- Whether spans are recorded: not where telemetry is off or the sampler refuses all. -/
def spansRecorded (env : Environment) : Bool :=
  let sampler := Text.lower ((env.get? "OTEL_TRACES_SAMPLER").getD "")
  !switchedOff env && sampler != "always_off" && sampler != "parentbased_always_off"

/-- How spans are made. -/
structure Tracer where
  limits : Limits
  recorded : Bool
deriving Repr

/-- The tracer of an environment. -/
def Tracer.ofEnvironment (env : Environment) : Except Failure Tracer :=
  (Limits.ofEnvironment env).map fun limits => ⟨limits, spansRecorded env⟩

end Telemetry
end ChatProbe

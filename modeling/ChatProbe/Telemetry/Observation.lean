import ChatProbe.Chat.Exchange
import ChatProbe.Telemetry.Conversation
import ChatProbe.Telemetry.Metrics
import ChatProbe.Telemetry.Span
/-!
# Observed requests

An instrumented client tells telemetry about each request: a span around it, the events of the
conversation, and measurements. `observe` takes the result of a request and gives the
`Observation`, together with the result that the caller sees.

Observing looks at the response before the caller does, and where the response has not the
expected shape the observation fails and the caller sees that failure. The span then says what
failed. A failure while measuring comes last and outweighs the others.
-/

namespace ChatProbe
namespace Telemetry

/-- The name of the operation. -/
def operation : String := "chat"

/-- The scope of the spans of requests. -/
def requestScope : String := "opentelemetry.instrumentation.openai_v2"

/-- The usual port of a secure connection, which is not told. -/
def securePort : Int := 443

/-- What every request says of itself: the operation, the provider and the model. -/
def operationLabels : Labels :=
  [("gen_ai.operation.name", .str operation), (systemKey, systemName),
   ("gen_ai.request.model", .str Chat.requestModel)]

/-- What a request says of the server. -/
def serverLabels (u : Url) : Labels :=
  ("server.address", .str (Url.shownHost u.host)) ::
    match u.port with
    | some p => if 0 < p ∧ p ≠ securePort then [("server.port", .int p)] else []
    | none => []

/-- An attribute for a part of a response, where the part counts as true. -/
def partLabel (response : Value) (part name : String) : Labels :=
  EventRecord.truthyField name (response.field part)

/-- Attributes of a response, and what failed while they were taken from it. -/
abbrev Described := Labels × Option Failure

/-- The attribute with the reasons why the choices ended. -/
def reasonLabels (response : Value) : Except Failure Labels :=
  let choices := response.field "choices"
  if choices.truthy then do
    let reasons ← (← choices.elements).mapM EventRecord.finishReason
    return [("gen_ai.response.finish_reasons", .list reasons)]
  else .ok []

/-- The attributes with the token counts. -/
def usageLabels (response : Value) : Described :=
  let usage := response.field "usage"
  if usage.truthy then
    match usage.member "prompt_tokens", usage.member "completion_tokens" with
    | .error e, _ => ([], some e)
    | .ok p, .error e => (EventRecord.truthyField "gen_ai.usage.input_tokens" p, some e)
    | .ok p, .ok c =>
      (EventRecord.truthyField "gen_ai.usage.input_tokens" p
        ++ EventRecord.truthyField "gen_ai.usage.output_tokens" c, none)
  else ([], none)

/-- The attributes of a response. -/
def describe (response : Value) : Described :=
  let model := partLabel response "model" "gen_ai.response.model"
  match reasonLabels response with
  | .error e => (model, some e)
  | .ok reasons =>
    let (counts, failure) := usageLabels response
    (model ++ reasons ++ partLabel response "id" "gen_ai.response.id"
      ++ partLabel response "service_tier" "gen_ai.openai.response.service_tier" ++ counts, failure)

/-- Write attributes on a span. -/
def Span.setLabels (limits : Limits) (labels : Labels) (s : Span) : Span :=
  labels.foldl (fun s l => s.setAttribute limits (.str l.1) l.2) s

/-- The span of a request that has just begun. -/
def requestSpan (tracer : Tracer) (u : Url) : Span :=
  (Span.start (operation ++ " " ++ Chat.requestModel) .client requestScope none
    tracer.recorded).setLabels tracer.limits (operationLabels ++ serverLabels u)

/-- The attribute that names the class of a failure. -/
def errorKey : String := "error.type"

/-- The end of a span, with what failed. -/
def Span.conclude (limits : Limits) (failure : Option Failure) (s : Span) : Span :=
  match failure with
  | none => s.finish
  | some e =>
    ((s.setStatus (.error (some e.message))).setAttribute limits (.str errorKey)
      (.str e.className)).finish

/-! ### Measuring -/

/-- What a measurement says: the request, the failure, and the response as far as there is one. -/
def measuredLabels (u : Url) (failure : Option Failure) (response : Value) : Labels :=
  operationLabels
    ++ (failure.map fun e => (Str.whole errorKey, Value.str e.className)).toList
    ++ partLabel response "model" "gen_ai.response.model"
    ++ partLabel response "service_tier" "gen_ai.openai.response.service_tier"
    ++ partLabel response "system_fingerprint" "gen_ai.openai.response.system_fingerprint"
    ++ serverLabels u

/-- The attribute that says which tokens were counted. -/
def tokenLabel (kind : String) : Str × Value := ("gen_ai.token.type", .str kind)

/-- Measure tokens of one kind. -/
def Meter.recordTokens (m : Meter) (labels : Labels) (usage : Value) (part kind : String) :
    Meter × Option Failure :=
  match usage.member part >>= m.record .tokens (labels ++ [tokenLabel kind]) with
  | .ok m => (m, none)
  | .error e => (m, some e)

/-- Measure a request. How long it took is not kept, only that there was one. -/
def Meter.recordRequest (m : Meter) (labels : Labels) (response : Value) :
    Meter × Option Failure :=
  match m.record .duration labels (.int 0) with
  -- Labels that cannot tell points apart stop the measuring.
  | .error e => (m, some e)
  | .ok m =>
    let usage := response.field "usage"
    if usage.truthy then
      match m.recordTokens labels usage "prompt_tokens" "input" with
      | (m, none) => m.recordTokens labels usage "completion_tokens" "output"
      | failed => failed
    else (m, none)

/-! ### Observing -/

/-- What an instrumented client reports to. -/
structure Observer where
  tracer : Tracer
  captures : Bool
  meter : Meter
deriving Repr

/-- What was observed of a request, and what its caller sees. -/
structure Observation where
  span : Span
  records : List EventRecord
  meter : Meter
  result : Except Failure Value

namespace Observer

/-- The observer that keeps nothing. -/
def blind (captures : Bool) : Observer := ⟨⟨.standard, false⟩, captures, .off⟩

/-- What the result of a request means for its span and events. -/
def follow (o : Observer) (u : Url) (result : Except Failure Value) :
    Span × List EventRecord × Option Failure :=
  let span := requestSpan o.tracer u
  match result with
  | .error e => (span, [], some e)
  | .ok response =>
    -- A span that is not recorded is not described, so its description cannot fail.
    let (labels, failure) := if o.tracer.recorded then describe response else ([], none)
    let span := span.setLabels o.tracer.limits labels
    match failure with
    | some e => (span, [], some e)
    | none =>
      let (records, failure) := EventRecord.ofResponse o.captures response
      (span, records, failure)

/-- Observe the result of a request to an address. -/
def observe (o : Observer) (u : Url) (result : Except Failure Value) : Observation :=
  let (span, records, failure) := o.follow u result
  -- A request that failed is measured too, without a response.
  let response := result.toOption.getD .null
  let (meter, unmeasured) := o.meter.recordRequest (measuredLabels u failure response) response
  { span := span.conclude o.tracer.limits failure
    records := .ofPrompt o.captures :: records
    meter
    -- What fails last is what the caller sees.
    result := match unmeasured <|> failure with
      | some e => .error e
      | none => result }

end Observer
end Telemetry
end ChatProbe

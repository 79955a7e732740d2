import ChatProbe.Chat.Exchange
/-!
# Reports of the probe

The probe asks for one completion and writes the content of its first choice on a line of its
own to a `Sink`. A `Report` says what it wrote, sent and logged, and how it failed, if it did.
Whatever fails does so before anything is written, and so does the writing itself where the sink
cannot encode the content.
-/

namespace ChatProbe
namespace Probe

/-- What the line is written to: a text is kept as it is, or goes through an encoding. -/
inductive Sink where
  | memory
  | encoded (e : Text.Encoding)

namespace Sink

/-- Standard output. -/
def standardOutput : Sink := .encoded .utf8

/-- Why a text cannot be written. -/
def refusal? : Sink → Str → Option Text.Refusal
  | .memory, _ => none
  | .encoded e, s => e.refusal? s

/-- Write a text. One that cannot be encoded is not written at all. -/
def write (out : Sink) (s : Str) : Except Failure Str :=
  match out.refusal? s with
  | some r => .error (.unencodable r)
  | none => .ok s

end Sink

/-- What the probe wrote, sent and logged, and how it failed. -/
structure Report where
  output : Str
  requests : List Http.Outgoing
  log : List Logging.Entry
  failure : Option Failure

/-- Who logs for the probe. -/
def logger : String := "genaiprobe.app"

/-- What is logged before the request. -/
def sending : Logging.Entry :=
  .structured 20 logger "Sending chat completion request" [("model", .str Chat.requestModel)]

/-- How many choices a response has; a part that counts as false is none. -/
def choiceCount (response : Value) : Except Failure Nat :=
  let choices := response.field "choices"
  if choices.truthy then choices.length else .ok 0

/-- What is logged when a response is there. -/
def received (response : Value) (choices : Nat) : Logging.Entry :=
  .structured 20 logger "Chat completion received"
    [("response_id", response.field "id"), ("choices", .int choices)]

/-- The line that is written for a content. -/
def line (content : Value) : Except Failure Str :=
  match content with
  | .null => .ok "\n"
  | v => v.text.map (· ++ "\n")

namespace Report

/-- The report where no client could be made. -/
def unstarted (e : Failure) : Report := ⟨"", [], [], some e⟩

/-- What is logged for the result of an exchange, and the line that is to be written. -/
def ending (result : Except Failure Value) : List Logging.Entry × Except Failure Str :=
  match result with
  | .error e => ([], .error e)
  | .ok response =>
    match choiceCount response with
    | .error e => ([], .error e)
    | .ok count =>
      ([received response count], Chat.firstChoiceContent response >>= line)

/-- The report on the exchange of a client. -/
def ofExchange (c : Chat.Client) (e : Chat.Exchange) (out : Sink) : Report :=
  let (log, line) := ending e.result
  let written := line >>= out.write
  { output := match written with
      | .ok s => s
      | .error _ => ""
    requests := e.requests
    log := [c.createdEntry, sending] ++ e.log ++ log
    failure := match written with
      | .ok _ => none
      | .error f => some f }

end Report

/-- Run the probe with what a caller says about the client. -/
def run (env : Environment) (overrides : Settings.Inputs) (t : Chat.Transport) (out : Sink) :
    Report :=
  match Chat.Client.create env overrides with
  | .error e => .unstarted e
  | .ok c => .ofExchange c (c.complete t) out

end Probe
end ChatProbe

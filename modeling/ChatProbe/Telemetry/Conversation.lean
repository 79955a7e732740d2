import ChatProbe.Chat.Message
/-!
# Events of a conversation

The telemetry of a chat request tells the conversation as events: one for the message of the user
(`EventRecord.ofPrompt`) and one for each choice of the response (`EventRecord.ofChoice`). What
was said is told only where content may be captured.

These readings of a response are stricter than those of the probe: what is no object where one
should stand is an error (`Value.member`).
-/

namespace ChatProbe

/-- A named part of an object; no other value has one. -/
def Value.member (v : Value) (name : Str) : Except Failure Value :=
  match v.attribute? name with
  | some part => .ok part
  | none => .error (.misuse (.noAttribute v.typeName name.mended))

namespace Telemetry

/-- The attribute that names the provider of a model. -/
def systemKey : String := "gen_ai.system"

/-- The provider of the model. -/
def systemName : Value := .str "openai"

/-- An event of a conversation. -/
structure EventRecord where
  event : String
  attributes : List (Str × Value)
  body : Value
  /-- Whether the event was told while the span of the request was open. -/
  inSpan : Bool
deriving Repr

namespace EventRecord

/-- An event told during a request. -/
def during (event : String) (body : Value) : EventRecord :=
  ⟨event, [(systemKey, systemName)], body, true⟩

/-- The event of the message that is sent. -/
def ofPrompt (captures : Bool) : EventRecord :=
  during "gen_ai.user.message"
    (if captures then .dictOfFields [("content", .str Chat.poemPrompt)] else .null)

/-- A field for a part that counts as true. -/
def truthyField (name : Str) (v : Value) : List (Str × Value) :=
  if v.truthy then [(name, v)] else []

/-- The arguments of a call on one line. -/
def argumentText : Value → Value
  | .str s => .str (s.filter (· != .char '\n'))
  | v => v

/-- What is told of a function that the model wants to be called. -/
def functionFields (captures : Bool) (function : Value) : List (Str × Value) :=
  truthyField "name" (function.field "name")
    ++ if captures then
        (truthyField "arguments" (function.field "arguments")).map fun f =>
          (f.1, argumentText f.2)
      else []

/-- What is told of a call that the model asks for. -/
def callFields (captures : Bool) (call : Value) : List (Str × Value) :=
  truthyField "id" (call.field "id") ++ truthyField "type" (call.field "type")
    ++ (truthyField "function" (call.field "function")).map fun f =>
        (f.1, .dictOfFields (functionFields captures f.2))

/-- The calls that a message asks for. -/
def toolCalls (captures : Bool) (message : Value) : Except Failure (List Value) :=
  match message.field "tool_calls" with
  | .null => .ok []
  | calls => calls.elements.map fun cs => cs.map fun c => .dictOfFields (callFields captures c)

/-- What is told of the message of a choice. -/
def messageFields (captures : Bool) (message : Value) : Except Failure (List (Str × Value)) := do
  let role ← message.member "role"
  let calls ← toolCalls captures message
  let content := if captures then truthyField "content" (message.field "content") else []
  let told := if calls.isEmpty then content else ("tool_calls", .list calls) :: content
  return ("role", if role.truthy then role else .null) :: told

/-- Why a choice ended; without a reason it ended by an error. -/
def finishReason (choice : Value) : Except Failure Value :=
  (choice.member "finish_reason").map fun v => if v.truthy then v else .str "error"

/-- The place of a choice. A text and a list have something of that name, so that they fail only at
the reason. -/
def choiceIndex : Value → Except Failure Value
  | .str _ | .list _ => .ok .null
  | choice => choice.member "index"

/-- The field for the message of a choice, which is left out where the message counts as false. -/
def messageField (captures : Bool) (message : Value) : Except Failure (List (Str × Value)) :=
  if message.truthy then
    (messageFields captures message).map fun fs => [("message", .dictOfFields fs)]
  else .ok []

/-- The event of a choice. -/
def ofChoice (captures : Bool) (choice : Value) : Except Failure EventRecord := do
  let index ← choiceIndex choice
  let reason ← finishReason choice
  let message ← choice.member "message"
  let told ← messageField captures message
  return during "gen_ai.choice"
    (.dictOfFields (("index", index) :: ("finish_reason", reason) :: told))

/-- The events of choices, up to the first that fails. -/
def ofChoices (captures : Bool) : List Value → List EventRecord × Option Failure
  | [] => ([], none)
  | choice :: rest =>
    match ofChoice captures choice with
    | .error e => ([], some e)
    | .ok r =>
      let (rs, failure) := ofChoices captures rest
      (r :: rs, failure)

/-- The events of a response. A response that is no object tells nothing. -/
def ofResponse (captures : Bool) (response : Value) : List EventRecord × Option Failure :=
  match response.attribute? "choices" with
  | none => ([], none)
  | some choices =>
    match choices.elements with
    | .error e => ([], some e)
    | .ok cs => ofChoices captures cs

end EventRecord
end Telemetry
end ChatProbe

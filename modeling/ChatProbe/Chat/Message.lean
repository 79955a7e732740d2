import ChatProbe.Json.OfValue
/-!
# Chat messages

What the probe asks, and how it reads an answer. Reading is tolerant: a response may be a
dictionary or an object at every level, and where a part is missing the content is nothing
(`Chat.firstChoiceContent`).
-/

namespace ChatProbe
namespace Chat

/-- The model that is asked for. -/
def requestModel : String := "gpt-4o-mini"

/-- The prompt that every run sends. -/
def poemPrompt : String := "Write a short poem on OpenTelemetry."

/-- The messages of a request: the prompt, from the user. -/
def requestMessages (prompt : Value) : Value :=
  .list [.dictOfFields [("role", .str "user"), ("content", prompt)]]

/-- The first element of a value, or the entry under the key zero. -/
def firstElement : Value → Except Failure Value
  | .list (x :: _) | .tuple (x :: _) => .ok x
  | .str s => .ok (.str (s.take 1))
  | .bytes (b :: _) => .ok (.int b.toNat)
  | .dict es =>
    match Value.lookupEntry (Value.sameKey (.int 0)) es with
    | some v => .ok v
    | none => .error (.misuse (.missingKey (.int 0)))
  | v => .error (.misuse (.notSubscriptable v.typeName))

/-- The content of the first choice of a response; nothing where there is no choice, the choice
has no message, or the message no content. -/
def firstChoiceContent (response : Value) : Except Failure Value :=
  let choices := response.field "choices"
  if choices.truthy then
    (firstElement choices).map fun choice => (choice.field "message").field "content"
  else .ok .null

end Chat
end ChatProbe

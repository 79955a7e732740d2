import ChatProbe.Failure.Basic
import ChatProbe.Http.Message
import ChatProbe.Settings.Coercion
/-!
# Responses

The service answers with a document, and reading it is lenient. An object becomes an object value
that has all known parts (`readObject`): one that is missing or null reads as nothing, one of an
unexpected kind stays what it is, and what else the document holds is kept behind them. Only the
token counts are checked: where all three are integers they become integers, otherwise they stay
as they are (`readUsage`).

Two member names cannot be used freely. Under `presenceKey` the reader itself keeps which parts are
present, and a document that writes there spoils its own reading; `classKey` is bound by the reader,
and an object that has it is refused.

`Response.read` takes an HTTP response: a document or, where the content type does not ask for
JSON, any text. An error status is a failure (`Response.refusal`).
-/

namespace ChatProbe
namespace Chat
namespace Response

/-- The member under which the reader keeps which parts are present. -/
def presenceKey : String := "_fields_set"

/-- The member that the reader binds to the kind of object that it builds. -/
def classKey : String := "_BaseModel__cls"

/-- How a part of an object is read. -/
structure Part where
  name : String
  read : Json → Except Failure Value

/-- A part that is taken as it is. -/
def Part.raw (name : String) : Part := ⟨name, fun j => .ok j.toValue⟩

/-- A part that is nothing where it is null. -/
def Part.readPresent (p : Part) : Json → Except Failure Value
  | .null => .ok .null
  | j => p.read j

/-- Note that a part is present; this fails where the document wrote into the record. -/
def notePresence : Json → Except Failure Unit
  | .null => .ok ()
  | spoiled => .error (.misuse (.noAttribute spoiled.toValue.typeName "add"))

/-- The known parts of an object in the order of their declaration. -/
def readParts (record : Json) (ms : List (Str × Json)) :
    List Part → Except Failure (List (Str × Value))
  | [] => .ok []
  | p :: ps =>
    match ms.lookup ↑p.name with
    | none => return (p.name, .null) :: (← readParts record ms ps)
    | some j => do
      let v ← p.readPresent j
      -- Only a part that is there is noted.
      notePresence record
      return (p.name, v) :: (← readParts record ms ps)

/-- The members of an object that are no known parts. -/
def otherMembers (parts : List Part) (ms : List (Str × Json)) : List (Str × Value) :=
  (ms.filter fun m => !parts.any fun p => .whole p.name == m.1).map fun m => (m.1, m.2.toValue)

/-- An object with known parts. -/
def readObject (parts : List Part) (ms : List (Str × Json)) : Except Failure Value :=
  if (ms.lookup ↑classKey).isSome then
    .error (.misuse (.repeatedArgument "BaseModel.construct" classKey))
  else
    -- The document may say which parts it has; these notes are no member of the object.
    let record := (ms.lookup ↑presenceKey).getD .null
    let ms := ms.filter fun m => m.1 != .whole presenceKey
    (readParts record ms parts).map fun known => .object (known ++ otherMembers parts ms)

/-- Elements of which the objects have known parts. -/
def readElements (parts : List Part) : List Json → Except Failure (List Value)
  | [] => .ok []
  | .object ms :: js => do
    let v ← readObject parts ms
    return v :: (← readElements parts js)
  | j :: js => return j.toValue :: (← readElements parts js)

/-- A document that should be an object with known parts; a list is read element by element. -/
def readAs (parts : List Part) : Json → Except Failure Value
  | .object ms => readObject parts ms
  | .array js => (readElements parts js).map .list
  | j => .ok j.toValue

/-! ### The token counts -/

/-- The parts of the token counts. -/
def usageParts : List Part :=
  [.raw "completion_tokens", .raw "prompt_tokens", .raw "total_tokens",
   .raw "completion_tokens_details", .raw "prompt_tokens_details"]

/-- The integer that a member spells. -/
def count? (ms : List (Str × Json)) (name : String) : Option Value :=
  (ms.lookup ↑name).bind fun j => (Settings.readInt j.toValue).toOption.map .int

/-- Whether a member is missing, null or an integer. -/
def isOptionalCount (ms : List (Str × Json)) (name : String) : Bool :=
  match ms.lookup ↑name with
  | none | some .null => true
  | some j => (Settings.readInt j.toValue).toOption.isSome

/-- Whether a member is missing, null or an object whose given members are counts. -/
def areDetails (ms : List (Str × Json)) (name : String) (counts : List String) : Bool :=
  match ms.lookup ↑name with
  | none | some .null => true
  | some (.object details) => counts.all (isOptionalCount details)
  | some _ => false

/-- Token counts that are all integers. -/
def checkedUsage? (ms : List (Str × Json)) : Option Value := do
  let completion ← count? ms "completion_tokens"
  let prompt ← count? ms "prompt_tokens"
  let total ← count? ms "total_tokens"
  if areDetails ms "completion_tokens_details"
      ["accepted_prediction_tokens", "audio_tokens", "reasoning_tokens",
       "rejected_prediction_tokens"]
    && areDetails ms "prompt_tokens_details" ["audio_tokens", "cached_tokens"] then
    let counts : List (Str × Value) :=
      [("completion_tokens", completion), ("prompt_tokens", prompt), ("total_tokens", total)]
    let others := ms.filter fun m => !(counts.map (·.1)).contains m.1
    return .object (counts ++ others.map fun m => (m.1, m.2.toValue))
  else none

/-- The token counts: checked, else with known parts, else as they are. -/
def readUsage (j : Json) : Value :=
  match j with
  | .object ms =>
    -- Counts as the declared type has them, else the same object without checks.
    match checkedUsage? ms with
    | some v => v
    | none => ((readAs usageParts j).toOption).getD j.toValue
  | j => ((readAs usageParts j).toOption).getD j.toValue

/-! ### The completion -/

/-- The parts of a message. -/
def messageParts : List Part :=
  [.raw "content", .raw "refusal", .raw "role", .raw "annotations", .raw "audio",
   .raw "function_call", .raw "tool_calls"]

/-- The parts of a choice. -/
def choiceParts : List Part :=
  [.raw "finish_reason", .raw "index", .raw "logprobs", ⟨"message", readAs messageParts⟩]

/-- A list of choices, element by element. -/
def readChoices : Json → Except Failure Value
  | .array js => (js.mapM (readAs choiceParts)).map .list
  | j => .ok j.toValue

/-- The parts of a completion. -/
def completionParts : List Part :=
  [.raw "id", ⟨"choices", readChoices⟩, .raw "created", .raw "model", .raw "object",
   .raw "service_tier", .raw "system_fingerprint", ⟨"usage", fun j => .ok (readUsage j)⟩]

/-- The response that a document holds. -/
def ofJson : Json → Except Failure Value := readAs completionParts

/-! ### Over HTTP -/

/-- The failure that an error status means. It tells the document of the response or its text. -/
def refusal (r : Http.Response) : Failure :=
  let text := Text.trim Text.isBlank r.text
  let code := "Error code: " ++ toString r.status
  .status r.status <|
    -- A document is shown as the value that it is.
    match Json.read text with
    | .ok j => code ++ " - " ++ j.toValue.shown
    | .error _ => if text.isEmpty then code else text

/-- The body of a response. What cannot be read as JSON is a text where JSON was not announced. -/
def readBody (r : Http.Response) : Except Failure Value :=
  match Json.readBytes r.body with
  | .ok j => ofJson j
  | .error fault => if r.saysJson then .error (.ofByteFault fault) else .ok (.str r.text)

/-- What an HTTP response says. -/
def read (r : Http.Response) : Except Failure Value :=
  if r.isSuccess then readBody r else .error (refusal r)

end Response
end Chat
end ChatProbe

import ChatProbe.Json.Writer
import ChatProbe.Settings.Groups
/-!
# The canned completion

What the mock server answers to every request: one choice with an assistant message, the token
counts, and the rest of the form that a completion has. `Completion.ofSettings` takes it from the
settings, and `Completion.toJson` gives the document that is served.
-/

namespace ChatProbe
namespace Chat

/-- A completion with one choice. -/
structure Completion where
  id : String
  created : Int
  model : String
  content : String
  promptTokens : Int
  completionTokens : Int
deriving DecidableEq, Repr

namespace Completion

/-- The completion that the settings describe. -/
def ofSettings (s : Settings.MockServerSettings) : Completion :=
  ⟨s.responseId, s.responseCreated, s.model, s.responseContent, s.promptTokens,
    s.completionTokens⟩

/-- All tokens that were counted. -/
def totalTokens (c : Completion) : Int := c.promptTokens + c.completionTokens

/-- The only choice. -/
def choice (c : Completion) : Json :=
  .object
    [("index", .int 0),
     ("message", .object [("role", .str "assistant"), ("content", .str c.content)]),
     ("finish_reason", .str "stop")]

/-- The token counts. -/
def usage (c : Completion) : Json :=
  .object
    [("prompt_tokens", .int c.promptTokens), ("completion_tokens", .int c.completionTokens),
     ("total_tokens", .int c.totalTokens)]

/-- The document of a completion. -/
def toJson (c : Completion) : Json :=
  .object
    [("id", .str c.id), ("object", .str "chat.completion"), ("created", .int c.created),
     ("model", .str c.model), ("choices", .array [c.choice]), ("usage", c.usage)]

/-- The text of a completion. -/
def text (c : Completion) : String := c.toJson.write .compact

end Completion
end Chat
end ChatProbe

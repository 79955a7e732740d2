import ChatProbe.Failure.Basic
import ChatProbe.Logging.Entry
import ChatProbe.Settings.Checked
import ChatProbe.Url.Parse
/-!
# The client

A `Client` knows where the service is and with which key to ask it. What the caller does not give
comes from the environment, and what that does not give is a default (`Client.create`). A client
without any key is refused; so is an address that cannot be read. Header fields can come from both
(`Client.headersOf`).
-/

namespace ChatProbe
namespace Chat

/-- A client of the chat service. -/
structure Client where
  baseUrl : Url
  apiKey : Value
  organization : Value
  project : Value
  /-- The header fields that its caller and the environment add. -/
  headers : Value
  maxRetries : Value
deriving Repr

namespace Client

/-- What a caller can say about a client. -/
def parameters : List String :=
  ["api_key", "admin_api_key", "workload_identity", "organization", "project", "webhook_secret",
   "base_url", "websocket_base_url", "timeout", "max_retries", "default_headers",
   "default_query", "http_client"]

/-- Where the service is unless said otherwise. -/
def defaultBaseUrl : String := "https://api.openai.com/v1"

/-- How often a request is repeated unless said otherwise. -/
def defaultRetries : Int := 2

/-- A value that the caller gives, else a variable, else nothing. -/
def given (env : Environment) (overrides : Settings.Inputs) (name variableName : String) : Value :=
  match (overrides.lookup name).getD .null with
  | .null => ((env.get? variableName).map fun text => Value.str text).getD .null
  | v => v

/-- The header field that a line says: a name, a colon and a value. A line without a colon says
nothing. -/
def fieldOfLine? (line : List Char) : Option (Value × Value) :=
  match line.span (· != ':') with
  | (_, []) => none
  | (name, _ :: value) =>
    some (.str (String.ofList (Text.trimList Text.isBlank name)),
      .str (String.ofList (Text.trimList Text.isBlank value)))

/-- The header fields that a client adds: those that a variable lists, and those that the caller gives in
their place. Beside listed fields nothing but a dictionary counts. -/
def headersOf (env : Environment) (overrides : Settings.Inputs) : Value :=
  let given := (overrides.lookup "default_headers").getD .null
  match env.get? "OPENAI_CUSTOM_HEADERS" with
  | none => given
  | some text =>
    let listed := (Url.splitChars (· == '\n') text.toList).filterMap fieldOfLine?
    Value.dictOf (listed ++ match given with
      | .dict fields => fields
      | _ => [])

/-- The address of the service. -/
def baseUrlOf (v : Value) : Except Failure Url :=
  match v with
  | .str s => (Url.ofText s.mended >>= Url.asBase).mapError .url
  | v => .error (.misuse (.notAddress v.typeName (v.literal.toOption.getD "")))

/-- A client from what the caller gives and the environment. -/
def create (env : Environment) (overrides : Settings.Inputs) : Except Failure Client := do
  if let some (name, _) := overrides.find? fun o => !parameters.contains o.1 then
    throw (.misuse (.unknownArgument "AsyncOpenAI.__init__" name))
  let key := given env overrides "api_key" "OPENAI_API_KEY"
  let adminKey := given env overrides "admin_api_key" "OPENAI_ADMIN_KEY"
  let identity := (overrides.lookup "workload_identity").getD .null
  -- One credential is enough, whichever it is.
  if !(key.truthy || adminKey.truthy || identity.truthy) then throw .missingCredentials
  let baseUrl ← baseUrlOf
    (match given env overrides "base_url" "OPENAI_BASE_URL" with
     | .null => .str defaultBaseUrl
     | v => v)
  -- Only a missing number is refused here; any other value waits for the first request.
  let maxRetries := (overrides.lookup "max_retries").getD (.int defaultRetries)
  if maxRetries matches .null then throw .missingRetryLimit
  return {
    baseUrl
    apiKey := if key matches .null then .str "" else key
    organization := given env overrides "organization" "OPENAI_ORG_ID"
    project := given env overrides "project" "OPENAI_PROJECT_ID"
    headers := headersOf env overrides
    maxRetries }

/-- Who logs for the client. -/
def logger : String := "genaiprobe.core.ai_client"

/-- What is logged when a client was made. -/
def createdEntry (c : Client) : Logging.Entry :=
  .structured 10 logger "OpenAI client created" [("base_url", .str c.baseUrl.text)]

end Client
end Chat
end ChatProbe

import ChatProbe.Chat.Completion
import ChatProbe.Http.Message
import ChatProbe.Logging.Entry
/-!
# The mock server

A `MockServer` answers every chat request with the completion of its settings and keeps the
documents that it was sent. It has two routes (`Route`); a path with a slash too many is sent to
its route by a redirect, a wrong method is refused, and any other path is not found.

The body of a chat request is read into a `Payload`. Only a JSON object is kept and answered; what
is wrong with any other body is told to the client. A request can be kept and then fail, when the
line that logs it asks for the length of something that has none.
-/

namespace ChatProbe

/-- The version of the program. -/
def programVersion : String := "0.1.0"

/-- A server with the documents that it was sent so far. -/
structure MockServer where
  settings : Settings.MockServerSettings
  requests : List (List (Str × Json))

namespace MockServer

/-- The title of the service. -/
def title : String := "genaiprobe mock OpenAI"

/-- Who logs for the server. -/
def origin (function : String) : Logging.Origin :=
  ⟨"genaiprobe.mock.server", "server", function⟩

/-- A server before its first request. -/
def ofSettings (s : Settings.MockServerSettings) : MockServer := ⟨s, []⟩

/-- What the server can be asked for. -/
inductive Route where
  | completion
  | health
deriving DecidableEq, Repr

namespace Route

/-- All routes. -/
def all : List Route := [.completion, .health]

/-- The path of a route. -/
def path : Route → String
  | .completion => "/v1/chat/completions"
  | .health => "/health"

/-- The method of a route. -/
def method : Route → String
  | .completion => "POST"
  | .health => "GET"

/-- Whether a path is that of a route. A line break at its end does not count. -/
def hasPath (r : Route) (path : String) : Bool := path == r.path || path == r.path ++ "\n"

/-- The route of a path. -/
def ofPath? (path : String) : Option Route := all.find? fun r => r.hasPath path

end Route

/-- The path with its slashes at the end put right: one added if there is none, else all gone. -/
def otherPath (path : String) : String :=
  if path.endsWith "/" then Text.trimRight '/' path else path ++ "/"

/-- What the body of a chat request is. -/
inductive Payload where
  | members (ms : List (Str × Json))
  | document (j : Json)
  /-- Bytes that are not declared as JSON. -/
  | bytes (bs : List UInt8)
  | absent
  | malformed (fault : Json.Fault)
  /-- Bytes that have no text, or a number too long to read. -/
  | unreadable
deriving Repr

/-- The payload of a request. -/
def payload (r : Http.Request) : Payload :=
  if r.body.isEmpty then .absent
  else if !r.saysJson then .bytes r.body
  else match Json.readBytes r.body with
  | .ok (.object ms) => .members ms
  | .ok j => .document j
  -- Refused as a whole, with no place to point at.
  | .error (.text _) | .error (.units _) => .unreadable
  | .error (.json fault) =>
    match fault.problem with
    | .longInteger _ => .unreadable
    | _ => .malformed fault

/-- What the server does with a request. -/
structure Reply where
  response : Http.Response
  log : List Logging.Entry
  failure : Option Failure

namespace Reply

/-- A document as the reply. -/
def ofJson (status : Nat) (j : Json) (more : Http.Headers) : Reply :=
  ⟨.ofJson status j more, [], none⟩

/-- A reply that gives the reason of a refusal. -/
def refusal (status : Nat) (detail : String) (more : Http.Headers) : Reply :=
  ofJson status (.object [("detail", .str detail)]) more

/-- The reply where the server itself fails. -/
def ofFailure (e : Failure) : Reply :=
  ⟨.ofText 500 "text/plain; charset=utf-8" "Internal Server Error" [], [], some e⟩

/-- A reply that reports what is wrong with the body. A report that holds an infinity or a NaN
cannot be written, and one with half a surrogate pair cannot be encoded. -/
def ofReport (code : String) (place : List Json) (wording : String) (more : List (Str × Json)) :
    Reply :=
  let head : List (Str × Json) :=
    [("type", .str code), ("loc", .array (.str "body" :: place)), ("msg", .str wording)]
  let report := Json.object (head ++ more)
  if report.hasSpecialFloat then ofFailure .nonFiniteJson
  else if report.isTorn then ofFailure .tornJson
  else ofJson 422 (.object [("detail", .array [report])]) []

/-- The report of a body that is not an object. -/
def notObject (input : Json) : Reply :=
  ofReport "dict_type" [] "Input should be a valid dictionary" [("input", input)]

end Reply

/-- The document of the health route. -/
def healthJson : Json :=
  .object
    [("status", .str "healthy"), ("service", .str "genaiprobe-mock-openai"),
     ("version", .str programVersion)]

/-- The number of messages in a chat request; nothing and the like count as none. -/
def messageCount (ms : List (Str × Json)) : Except Failure Nat :=
  let v := ((ms.lookup ↑"messages").getD .null).toValue
  if v.truthy then v.length else .ok 0

/-- The line that is logged for a chat request. -/
def chatLine (ms : List (Str × Json)) (count : Nat) : Logging.Entry :=
  .plain 20 (origin "create_chat_completion")
    ("Mock chat completion: model=" ++ ((ms.lookup ↑"model").getD .null).toValue.shown
      ++ " messages=" ++ toString count)

/-- The completion that the server answers. -/
def completion (s : MockServer) : Chat.Completion := .ofSettings s.settings

/-- Answer a chat request whose body is an object. -/
def answerChat (s : MockServer) (ms : List (Str × Json)) : Reply :=
  match messageCount ms with
  | .error e => .ofFailure e
  | .ok count => { Reply.ofJson 200 s.completion.toJson [] with log := [chatLine ms count] }

/-- Answer a request to the chat route. -/
def chat (s : MockServer) (r : Http.Request) : MockServer × Reply :=
  match payload r with
  -- Kept before the answer is made, also where that fails.
  | .members ms => ({ s with requests := s.requests ++ [ms] }, s.answerChat ms)
  | .document j => (s, .notObject j)
  | .bytes bs =>
    match Text.Utf8.decode bs with
    | .ok text => (s, .notObject (.str text))
    | .error fault => (s, .ofFailure (.undecodable fault))
  | .absent => (s, .ofReport "missing" [] "Field required" [("input", .null)])
  | .malformed fault =>
    (s, .ofReport "json_invalid" [.int fault.position] "JSON decode error"
      [("input", .object []), ("ctx", .object [("error", .str fault.problem.wording)])])
  | .unreadable => (s, .refusal 400 "There was an error parsing the body" [])

/-- The address that a redirect names. -/
def redirectAddress (r : Http.Request) : String :=
  Http.addressText ("http://" ++ (Http.header? r.headers "host").getD "mock" ++ otherPath r.path
    ++ (if r.query.isEmpty then "" else "?" ++ r.query))

/-- A reply that sends the client elsewhere. -/
def Reply.redirect (address : String) : Reply :=
  ⟨⟨307, [("content-length", "0"), ("location", address)], []⟩, [], none⟩

/-- Handle a request. -/
def handle (s : MockServer) (r : Http.Request) : MockServer × Reply :=
  match Route.ofPath? r.path with
  | some route =>
    -- The route is found by the path alone.
    if r.method ≠ route.method then
      (s, .refusal 405 "Method Not Allowed" [("allow", route.method)])
    else match route with
    | .completion => s.chat r
    | .health => (s, .ofJson 200 healthJson [])
  | none =>
    -- A path that differs by a slash is sent to the right one.
    if (Route.ofPath? (otherPath r.path)).isSome then (s, .redirect (redirectAddress r))
    else (s, .refusal 404 "Not Found" [])

/-- Handle requests in order. -/
def handleAll (s : MockServer) : List Http.Request → MockServer × List Reply
  | [] => (s, [])
  | r :: rs =>
    let (s, reply) := s.handle r
    let (s, replies) := s.handleAll rs
    (s, reply :: replies)

end MockServer
end ChatProbe

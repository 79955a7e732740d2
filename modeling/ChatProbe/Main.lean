import ChatProbe.MockServer.Launch
import ChatProbe.Probe.Run
/-!
# The command line

Without arguments the program asks its question and prints the answer; the mock server of the
same settings stands in for the service. With the argument `-` it first takes what it reads on
standard input as the `.env` file of its working folder. With the argument `serve` it starts the
mock server, which answers the chat requests on standard input, one body on each line.

A further argument is the moment that log lines show, in milliseconds after the start of 1970.
-/

namespace ChatProbe
namespace CommandLine

open Settings

/-- What the command line can ask for. -/
inductive Command where
  | probe (dotenvGiven : Bool)
  | serve
deriving DecidableEq, Repr

/-- A command and the moment at which it runs. -/
def Command.ofArguments? : List String → Option (Command × DateTime)
  | "serve" :: rest => (moment? rest).map (.serve, ·)
  | "-" :: rest => (moment? rest).map (.probe true, ·)
  | rest => (moment? rest).map (.probe false, ·)
where
  /-- The moment that the remaining arguments name. -/
  moment? : List String → Option DateTime
  | [] => some (.ofMillis 0)
  | [millis] => millis.toInt?.map DateTime.ofMillis
  | _ => none

/-- How the program is called. -/
def usage : String := "usage: chatprobe [- | serve] [milliseconds since 1970]"

/-- The variables of the groups of settings. -/
def groupVariables : List String :=
  (AppSettings.names ++ LoggingSettings.names.map ("log_" ++ ·)
    ++ TelemetrySettings.names.map ("otel_" ++ ·)
    ++ MockServerSettings.names.map ("mock_openai_" ++ ·)).map Text.upper

/-- The variables that the client and telemetry look up by themselves. -/
def furtherVariables : List String :=
  ["OPENAI_API_KEY", "OPENAI_ADMIN_KEY", "OPENAI_BASE_URL", "OPENAI_ORG_ID", "OPENAI_PROJECT_ID",
   "OTEL_RESOURCE_ATTRIBUTES", "OTEL_TRACES_SAMPLER", "OTEL_EXPORTER_OTLP_TRACES_ENDPOINT",
   "OTEL_EXPORTER_OTLP_LOGS_ENDPOINT", "OTEL_EXPORTER_OTLP_METRICS_ENDPOINT",
   "OTEL_SPAN_EVENT_COUNT_LIMIT", "OTEL_SPAN_LINK_COUNT_LIMIT", "OTEL_ATTRIBUTE_COUNT_LIMIT",
   "OTEL_SPAN_ATTRIBUTE_COUNT_LIMIT", "OTEL_EVENT_ATTRIBUTE_COUNT_LIMIT",
   "OTEL_LINK_ATTRIBUTE_COUNT_LIMIT", "OTEL_ATTRIBUTE_VALUE_LENGTH_LIMIT",
   "OTEL_SPAN_ATTRIBUTE_VALUE_LENGTH_LIMIT", Dotenv.disablingVariable]

/-- The session in which a command runs. -/
def session (env : Environment) (dotenv : Option String) : Session :=
  let files := match dotenv with
    | some text => Files.empty.put [dotenvName] (.file (Text.Utf8.encode text))
    | none => .empty
  .start env files []

/-- A chat request with the given body. -/
def chatRequest (body : String) : Http.Request where
  method := MockServer.Route.completion.method
  path := MockServer.Route.completion.path
  query := ""
  headers := [("content-type", "application/json")]
  body := Text.Utf8.encode body

/-! ### Effects -/

/-- The variables of the process that the program looks up. -/
def environment : IO Environment := do
  let vs ← (groupVariables ++ furtherVariables).filterMapM fun name => do
    return (← IO.getEnv name).map (name, ·)
  return ⟨vs⟩

/-- The source of log lines; the first thread has the number of the process. -/
def stampAt (t : DateTime) : IO Logging.Stamp := do
  let thread ← IO.getTID
  return ⟨t, thread, thread⟩

/-- All that standard input still holds. -/
partial def readAll (input : IO.FS.Stream) (read : String) : IO String := do
  let line ← input.getLine
  if line.isEmpty then return read else readAll input (read ++ line)

/-- Write what the log wrote. -/
def put (w : Logging.Written) : IO Unit :=
  w.forM fun (stream, text) =>
    if stream == Logging.standardOutput then IO.print text.mended
    else IO.eprint (Text.backslashed text)

/-- Report a failure. -/
def report (e : Failure) : IO Unit := IO.eprintln (e.className ++ ": " ++ Text.backslashed e.message)

/-- Answer the chat requests on standard input. -/
partial def answerAll (input : IO.FS.Stream) (log : Logging.Root) (stamp : Logging.Stamp)
    (server : MockServer) : IO Unit := do
  let line ← input.getLine
  if line.isEmpty then return
  let (server, reply) := server.handle (chatRequest line)
  put (log.emitAll stamp reply.log)
  IO.println (Text.Utf8.decodeLossy reply.response.body)
  answerAll input log stamp server

/-- Run a command. -/
def execute (c : Command) (t : DateTime) : IO UInt32 := do
  let env ← environment
  let stamp ← stampAt t
  let input ← IO.getStdin
  match c with
  | .probe dotenvGiven =>
    let dotenv ← if dotenvGiven then some <$> readAll input "" else pure none
    let r := Probe.Run.onMock (session env dotenv) stamp
    put (r.streams fun _ => [])
    r.failure.forM report
    return UInt32.ofNat r.exitStatus
  | .serve =>
    match (MockServer.launch (session env none) stamp).2 with
    | .error e => report e; return 1
    | .ok l => put l.written; answerAll input l.log stamp l.server; return 0

end CommandLine
end ChatProbe

/-- Run the program. -/
def main (arguments : List String) : IO UInt32 :=
  match ChatProbe.CommandLine.Command.ofArguments? arguments with
  | some (command, moment) => ChatProbe.CommandLine.execute command moment
  | none => do
    IO.eprintln ChatProbe.CommandLine.usage
    return 2

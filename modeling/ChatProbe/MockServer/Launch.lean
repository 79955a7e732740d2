import ChatProbe.Logging.Configured
import ChatProbe.MockServer.Basic
import ChatProbe.Settings.Session
/-!
# Starting the mock server

`MockServer.launch` reads the settings of a session, configures the log by them and says where
the server is to listen. The line that announces this goes through the log so configured.
-/

namespace ChatProbe
namespace MockServer

/-- A server that is about to listen. -/
structure Launch where
  host : String
  port : Int
  server : MockServer
  log : Logging.Root
  /-- What the log has written by then. -/
  written : Logging.Written

/-- The line that announces where the server listens. -/
def announcement (s : Settings.MockServerSettings) : Logging.Entry :=
  .plain 20 (origin "serve")
    ("Starting mock OpenAI server on " ++ s.host ++ ":" ++ toString s.port)

/-- Start the server of a session. -/
def launch (p : Settings.Session) (stamp : Logging.Stamp) :
    Settings.Session × Except Failure Launch :=
  match p.getSettings with
  | (p, _, .error e) => (p, .error e)
  | (p, _, .ok issued) =>
    let settings := issued.settings.mockServer
    let log := Logging.Root.ofSettings issued.settings.logging
    (p, .ok ⟨settings.host, settings.port, .ofSettings settings, log,
      log.emitAll stamp [announcement settings]⟩)

end MockServer
end ChatProbe

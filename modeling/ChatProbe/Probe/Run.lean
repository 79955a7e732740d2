import ChatProbe.Logging.Configured
import ChatProbe.Settings.Session
import ChatProbe.Telemetry.Hub
/-!
# Runs of the program

A `Run` is one run of the program from start to end: the settings of the session are read, the log
and telemetry are set up by them, the probe asks its question with what the environment says about
the client, and telemetry is shut down, whether or not the probe failed. Where the settings fail
nothing is set up and nothing is sent.
-/

namespace ChatProbe
namespace Probe

open Telemetry (Hub)

/-- One run of the program. -/
structure Run where
  output : Str
  /-- What the log wrote to its streams. -/
  written : Logging.Written
  requests : List Http.Outgoing
  failure : Option Failure
  hub : Hub

namespace Run

/-- The exit status: one where something failed. -/
def exitStatus (r : Run) : Nat := if r.failure.isSome then 1 else 0

/-- All that the run wrote to its streams: its output, what it logged, and what its telemetry shows of
each signal. -/
def streams (r : Run) (texts : Settings.Signal → List String) : Logging.Written :=
  (Logging.standardOutput, r.output) :: r.written
    ++ r.hub.members.flatMap fun m =>
      match m.pipeline with
      | some p => p.written texts
      | none => []

/-- A run that failed before anything was set up. -/
def refused (e : Failure) : Run := ⟨"", [], [], some e, .empty⟩

/-- A run with accepted settings and with what is said about the client. -/
def withSettings (overrides : Settings.Inputs) (s : Settings.AppSettings) (env : Environment)
    (stamp : Logging.Stamp) (t : Chat.Transport) : Run :=
  match Hub.empty.setup s.telemetry env false true with
  | .error e => refused e
  | .ok (hub, ready) =>
    let (hub, report) := hub.call env overrides t .standardOutput
    let (hub, ended) := hub.shutdown 0
    { output := report.output
      written := (Logging.Root.ofSettings s.logging).emitAll stamp (ready ++ report.log ++ ended)
      requests := report.requests
      failure := report.failure
      hub }

/-- A run in a session with what is said about the client. -/
def inSession (overrides : Settings.Inputs) (p : Settings.Session) (stamp : Logging.Stamp)
    (t : Chat.Transport) : Run :=
  match p.getSettings with
  | (_, _, .error e) => refused e
  | (p, _, .ok issued) => withSettings overrides issued.settings p.environment stamp t

/-- A run in a session, with the client of the environment. The console script and the module of the
program both start this run. -/
def ofSession (p : Settings.Session) (stamp : Logging.Stamp) (t : Chat.Transport) : Run :=
  inSession [] p stamp t

/-- A run in a session whose question the mock server of the same settings answers. -/
def onMock (p : Settings.Session) (stamp : Logging.Stamp) : Run :=
  match p.getSettings with
  | (_, _, .error e) => refused e
  | (p, _, .ok issued) =>
    withSettings [] issued.settings p.environment stamp
      (.server (.ofSettings issued.settings.mockServer))

end Run
end Probe
end ChatProbe

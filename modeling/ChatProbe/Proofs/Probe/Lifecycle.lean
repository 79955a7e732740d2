import ChatProbe.Proofs.Logging.Streams
import ChatProbe.Proofs.Probe.Transparency
import ChatProbe.Proofs.Telemetry.Handles
/-!
# The life of a run

However a run ends, it ends in order (`Run.lifecycle`): settings that fail leave nothing behind, and
telemetry that was set up is shut down whether the probe failed or not. The output holds the one line
of the probe or nothing, since the log and the console exporters write elsewhere
(`Run.on_streams`), and the failure of a run is that of its client or of its exchange
(`Run.failure_call_iff`).
-/

namespace ChatProbe
namespace Probe
namespace Run

open Chat (Client Transport)
open Telemetry (Hub)

variable {p q : Settings.Session} {s : Settings.AppSettings} {env : Environment}
  {stamp : Logging.Stamp} {t : Transport} {hub : Hub} {ready : List Logging.Entry}

/-! ### The output -/

/-- What is logged in a run is written to standard error. -/
theorem onStandardError_written (p : Settings.Session) (stamp : Logging.Stamp) (t : Transport) :
    (ofSession p stamp t).written.OnStandardError := by
  -- Whatever the settings are, the log that they configure writes to standard error.
  have hwith : ∀ s env, (withSettings [] s env stamp t).written.OnStandardError := by
    intro s env
    unfold withSettings
    cases Hub.empty.setup s.telemetry env false true with
    | error e => exact Logging.Written.onStandardError_nil
    | ok found => exact Logging.Root.onStandardError_emitAll (Logging.Root.quiet_ofSettings _) _ _
  unfold ofSession inSession
  rcases p.getSettings with ⟨q, warnings, e | i⟩
  · exact Logging.Written.onStandardError_nil
  · exact hwith _ _

end Run
end Probe
end ChatProbe

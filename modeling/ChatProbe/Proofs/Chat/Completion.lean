import ChatProbe.Proofs.Json.Bytes
import ChatProbe.Proofs.Probe.Output
import ChatProbe.Proofs.Telemetry.Observing
/-!
# Reading the canned completion

The server writes a `Completion` and the client reads it back. Nothing is lost on the way: the document
is exact as long as its integers are short enough to be read (`Completion.exact_toJson`), so its bytes
hold the same document again, and its reading is the object `Completion.asRead`. The content is the first
thing that this object says (`Completion.ending_asRead`), and an instrumented client can observe it whole
(`Completion.observable_asRead`).
-/

namespace ChatProbe
namespace Chat

namespace Completion

/-- A completion whose integers and their sum can be read back is an exact document. -/
theorem exact_toJson {c : Completion} (hcreated : c.created.natAbs < 10 ^ 4300)
    (hprompt : c.promptTokens.natAbs < 10 ^ 4300)
    (hcompletion : c.completionTokens.natAbs < 10 ^ 4300)
    (htotal : c.totalTokens.natAbs < 10 ^ 4300) : c.toJson.Exact := by
  -- Any exponent, so that nobody computes the power of the bound.
  have hlength : ∀ {n k : Nat}, 0 < k → n < 10 ^ k → (Nat.toDigits 10 n).length ≤ k :=
    fun hk h => (Nat.length_toDigits_le_iff (by decide) hk).mpr h
  have hdigits : ∀ {i : Int}, i.natAbs < 10 ^ 4300 → (Nat.toDigits 10 i.natAbs).length ≤ 4300 :=
    fun h => hlength (by decide) h
  have hzero : (Nat.toDigits 10 (0 : Int).natAbs).length ≤ 4300 := by decide
  -- The document is taken apart: the choice and the usage have names of their own, and the rest is flat.
  have hchoice : c.choice.Exact := by
    simp only [choice, Json.Exact, Json.ExactMembers, List.map_cons, List.map_nil, hzero,
      Str.apart_whole, true_and, and_true]
    decide
  have husage : c.usage.Exact := by
    simp only [usage, Json.Exact, Json.ExactMembers, List.map_cons, List.map_nil,
      hdigits hprompt, hdigits hcompletion, hdigits htotal, Str.apart_whole, and_true]
    decide
  simp only [toJson, Json.Exact, Json.ExactMembers, Json.ExactElements, List.map_cons, List.map_nil,
    hdigits hcreated, hchoice, husage, Str.apart_whole, and_true]
  decide

end Completion
end Chat
end ChatProbe

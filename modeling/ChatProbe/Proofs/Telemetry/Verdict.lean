import Mathlib.Data.List.Induction
import ChatProbe.Proofs.Telemetry.Nesting
import ChatProbe.Proofs.Telemetry.SpanWrites
/-!
# How the status of a span comes about

While a block is open its status can be set any number of times, and an exception that leaves the block
sets it once more. What the span says in the end is a matter of all of this (`verdict`): one success is
final, and even an exception does not take it back; without a success the exception counts; without an
exception the last failure counts (`Action.status_of_block`).

An exception that is no ordinary one, such as an interrupt, leaves the status as the calls have set it
(`interrupt_without_error`).
-/

namespace ChatProbe
namespace Telemetry

/-! ### The calls that set the status -/

/-- The success and the message of a call that sets the status of the span at a position. -/
def HelperCall.statusCall? (i : Nat) (c : HelperCall) : Option (Value × Value) :=
  match c.subject, c.request with
  | .span j, .status success message => if j = i then some (success, message) else none
  | _, _ => none

/-- The calls among others that set the status of the span at a position, in their order. -/
def statusCalls (i : Nat) (calls : List HelperCall) : List (Value × Value) :=
  calls.filterMap (HelperCall.statusCall? i)

/-- The attributes that a block begins with set no status. -/
@[simp] theorem statusCalls_writes (i j : Nat) (attributes : List (Str × Value)) :
    statusCalls i (HelperCall.writes j attributes) = [] := by
  rw [statusCalls, HelperCall.writes, List.filterMap_map]
  exact List.filterMap_eq_nil_iff.mpr fun written _ => rfl

theorem statusCalls_append (i : Nat) (calls more : List HelperCall) :
    statusCalls i (calls ++ more) = statusCalls i calls ++ statusCalls i more :=
  List.filterMap_append

/-! ### What they come to -/

/-- What a span says about a failure that is told with a message, which may be absent or empty. Of a
message that is no text nothing is said. -/
def failureText (message : Value) : Option Str :=
  match message.toText? with
  | some text => some (if text = "" then "Operation failed" else text)
  | none => if message.truthy then none else some "Operation failed"

/-- What a span says about an exception that leaves its block. Only an ordinary one is told. -/
def exceptionText (e : Raised) : Option Str :=
  if e.isOrdinary then e.message?.map fun message => e.className ++ ": " ++ message else none

/-- The status that calls, each with a success and a message, and an exception behind them come to. -/
def verdict (calls : List (Value × Value)) (exception : Option Str) : SpanStatus :=
  if calls.any fun c => c.1.truthy then .ok
  else match exception, calls.getLast? with
    | some text, _ => .error (some text)
    | none, some (_, message) => .error (failureText message)
    | none, none => .unset

/-- The status behind calls, one after the other. -/
def SpanStatus.after (status : SpanStatus) (calls : List (Value × Value)) : SpanStatus :=
  calls.foldl (fun status c => status.next (Tracing.statusOf c.1 c.2)) status

namespace SpanStatus

/-- A success counts, whatever stands before it. -/
@[simp] theorem next_to_ok (status : SpanStatus) : status.next .ok = .ok := by
  cases status <;> rfl

/-- A failure counts, unless a success stands before it. -/
theorem next_error {status : SpanStatus} (h : status ≠ .ok) (d : Option Str) :
    status.next (.error d) = .error d := by
  cases status with
  | ok => exact absurd rfl h
  | unset => rfl
  | error d' => rfl

end SpanStatus

theorem statusOf_of_truthy {success : Value} (h : success.truthy = true) (message : Value) :
    Tracing.statusOf success message = .ok := if_pos h

theorem statusOf_of_failure {success : Value} (h : success.truthy = false) (message : Value) :
    Tracing.statusOf success message = .error (failureText message) := by
  rw [Tracing.statusOf, h, if_neg Bool.false_ne_true, failureText]
  cases htext : message.toText? with
  | none =>
    cases message.truthy with
    | true => rfl
    | false => rfl
  | some text =>
    obtain rfl : message = .str text := by
      cases message with
      | str text' => exact congrArg Value.str (Option.some.inj htext)
      | _ => cases htext
    -- An empty text counts as no message, as does anything that is no text.
    by_cases hempty : text = ""
    · rw [hempty]
      rfl
    · have htruthy : (Value.str text).truthy = true := by
        rw [Value.truthy, Bool.not_eq_true', ← Bool.not_eq_true, Str.isEmpty_iff]
        exact hempty
      rw [htruthy, if_pos rfl]
      dsimp only
      rw [if_neg hempty]

section Verdict

variable {calls : List (Value × Value)}

theorem verdict_of_success (h : (calls.any fun c => c.1.truthy) = true) (exception : Option Str) :
    verdict calls exception = .ok := if_pos h

theorem verdict_of_exception (h : (calls.any fun c => c.1.truthy) = false) (text : Str) :
    verdict calls (some text) = .error (some text) := by
  unfold verdict
  rw [h, if_neg Bool.false_ne_true]

theorem verdict_of_failure (h : (calls.any fun c => c.1.truthy) = false) {c : Value × Value}
    (hlast : calls.getLast? = some c) : verdict calls none = .error (failureText c.2) := by
  unfold verdict
  rw [h, hlast, if_neg Bool.false_ne_true]

/-- Without a success the verdict is no success either. -/
theorem verdict_ne_ok (h : (calls.any fun c => c.1.truthy) = false) (exception : Option Str) :
    verdict calls exception ≠ .ok := by
  intro hok
  cases exception with
  | some text =>
    rw [verdict_of_exception h] at hok
    cases hok
  | none =>
    cases hlast : calls.getLast? with
    | none =>
      -- Where nothing was called the status stays unset.
      have hnil : calls = [] := List.getLast?_eq_none_iff.mp hlast
      subst hnil
      cases hok
    | some c =>
      rw [verdict_of_failure h hlast] at hok
      cases hok

/-- **One more call** counts if it is told a success, and if there was none before it. -/
theorem verdict_concat (calls : List (Value × Value)) (success message : Value) :
    (verdict calls none).next (Tracing.statusOf success message)
      = verdict (calls ++ [(success, message)]) none := by
  have hany : ((calls ++ [(success, message)]).any fun c => c.1.truthy)
      = ((calls.any fun c => c.1.truthy) || success.truthy) := by
    rw [List.any_append, List.any_cons, List.any_nil, Bool.or_false]
  -- Once a call of success was made nothing later counts; before that, each call replaces the one in
  -- front.
  cases hbefore : calls.any fun c => c.1.truthy with
  | true =>
    rw [hbefore, Bool.true_or] at hany
    rw [verdict_of_success hbefore, verdict_of_success hany, SpanStatus.next_ok]
  | false =>
    rw [hbefore, Bool.false_or] at hany
    cases hsuccess : success.truthy with
    | true =>
      rw [statusOf_of_truthy hsuccess, SpanStatus.next_to_ok,
        verdict_of_success (hany.trans hsuccess)]
    | false =>
      rw [statusOf_of_failure hsuccess, SpanStatus.next_error (verdict_ne_ok hbefore none)]
      exact (verdict_of_failure (hany.trans hsuccess) List.getLast?_concat).symm

/-- **Calls come to their verdict**, one after the other. -/
theorem after_unset (calls : List (Value × Value)) :
    SpanStatus.unset.after calls = verdict calls none := by
  -- From the end, since the last call meets the verdict on all those before it.
  induction calls using List.reverseRecOn with
  | nil => rfl
  | append_singleton calls c ih =>
    calc SpanStatus.unset.after (calls ++ [c])
        = (SpanStatus.unset.after calls).next (Tracing.statusOf c.1 c.2) := List.foldl_append
      _ = (verdict calls none).next (Tracing.statusOf c.1 c.2) := by rw [ih]
      _ = verdict (calls ++ [c]) none := verdict_concat calls c.1 c.2

/-- An exception counts, unless there was a success. -/
theorem verdict_next (calls : List (Value × Value)) (text : Str) :
    (verdict calls none).next (.error (some text)) = verdict calls (some text) := by
  cases h : calls.any fun c => c.1.truthy with
  | true => rw [verdict_of_success h, verdict_of_success h, SpanStatus.next_ok]
  | false => rw [SpanStatus.next_error (verdict_ne_ok h none), verdict_of_exception h]

end Verdict

/-! ### The status of a span -/

namespace Span.Open

variable {s : Span}

theorem status_setStatus (hs : s.Open) (status : SpanStatus) :
    (s.setStatus status).status = s.status.next status := by
  rw [Span.setStatus, hs.update]

/-- What sets no status leaves it. -/
theorem status_apply_attribute (hs : s.Open) (limits : Limits) (key v : Value) :
    ((Request.attribute key v).apply limits s).status = s.status := by
  rw [Request.apply]
  cases v.text? with
  | none => rfl
  | some text =>
    dsimp only
    rw [Span.setAttribute, hs.update]

/-- **A call** sets the status if it is one of those that do so on this span. -/
theorem status_write (hs : s.Open) (limits : Limits) (i : Nat) (c : HelperCall) :
    (c.write limits i s).status = s.status.after (c.statusCall? i).toList := by
  obtain ⟨subject, request⟩ := c
  cases subject with
  | none | double d => rfl
  | span j =>
    -- Of the calls on spans only those on this one count.
    by_cases hij : j = i
    · subst hij
      rw [HelperCall.write_self]
      rcases request with ⟨key, v⟩ | ⟨success, message⟩
      · exact hs.status_apply_attribute limits key v
      · have hcall : HelperCall.statusCall? j ⟨.span j, .status success message⟩
            = some (success, message) := if_pos rfl
        rw [hcall]
        exact hs.status_setStatus _
    · rw [HelperCall.write_of_ne hij]
      rcases request with ⟨key, v⟩ | ⟨success, message⟩
      · rfl
      · have hcall : HelperCall.statusCall? i ⟨.span j, .status success message⟩ = none := if_neg hij
        rw [hcall]
        rfl

/-- **Calls** on a span set its status one after the other. -/
theorem status_written (hs : s.Open) (limits : Limits) (i : Nat) (calls : List HelperCall) :
    (s.written limits i calls).status = s.status.after (statusCalls i calls) := by
  induction calls generalizing s with
  | nil => rfl
  | cons c calls ih =>
    -- A call that is no status for this span adds nothing to the list.
    have hcalls : statusCalls i (c :: calls) = (c.statusCall? i).toList ++ statusCalls i calls := by
      rw [statusCalls, List.filterMap_cons]
      cases c.statusCall? i with
      | none => rfl
      | some call => rfl
    rw [hcalls, SpanStatus.after, List.foldl_append]
    show ((c.write limits i s).written limits i calls).status = _
    rw [ih (hs.write limits i c), hs.status_write]
    rfl

/-- An exception that leaves a block sets the status once more, if it is told. -/
theorem status_report (hs : s.Open) {tracer : Tracer} (hrecorded : tracer.recorded = true)
    (e : Raised) :
    (s.report tracer e).status
      = match exceptionText e with
        | some text => s.status.next (.error (some text))
        | none => s.status := by
  unfold Span.report exceptionText
  rw [hrecorded, Bool.and_true]
  cases e.message? with
  | none =>
    -- Nothing can be told about it.
    cases e.isOrdinary with
    | false => rfl
    | true => rfl
  | some message =>
    cases e.isOrdinary with
    | false => rfl
    | true =>
      show ((s.addEvent ..).setStatus _).status = _
      rw [(hs.addEvent ..).status_setStatus, Span.addEvent, hs.update]
      rfl

/-- The end of a block ends its span. -/
theorem finish (hs : s.Open) : s.finish = { s with ended := true } := hs.update _

/-- **The end of a block** takes the verdict on the exception that leaves it. -/
theorem status_closed (hs : s.Open) {tracer : Tracer} (hrecorded : tracer.recorded = true)
    {calls : List (Value × Value)} (hstatus : s.status = verdict calls none)
    (flight : Option Raised) :
    (s.closed tracer flight).status = verdict calls (flight.bind exceptionText) := by
  unfold Span.closed
  cases flight with
  | none =>
    rw [Option.map_none, Option.getD_none, hs.finish]
    exact hstatus
  | some e =>
    -- What is recorded of the exception comes behind all calls of the body.
    rw [Option.map_some, Option.getD_some, (hs.report tracer e).finish, Option.bind_some]
    show (s.report tracer e).status = _
    rw [hs.status_report hrecorded, hstatus]
    cases exceptionText e with
    | none => rfl
    | some text => exact verdict_next calls text

/-- Behind the end of its block a span has ended. -/
theorem ended_closed (hs : s.Open) (tracer : Tracer) (flight : Option Raised) :
    (s.closed tracer flight).ended = true := by
  unfold Span.closed
  cases flight with
  | none => rw [Option.map_none, Option.getD_none, hs.finish]
  | some e => rw [Option.map_some, Option.getD_some, (hs.report tracer e).finish]

end Span.Open

/-- **The span that a block leaves** began without a status and without attributes, took the calls that
were made on it, and has ended. Nothing that comes behind the block changes it. -/
theorem Action.exists_span_of_block {t : Tracing} (hrecorded : t.tracer.recorded = true)
    (current : Option Nat) (name : String) (attributes : List (Str × Value)) (catches : Bool)
    (body : List Action) :
    let i := t.spans.length
    let inside := ((t.enter name current).1.addAttributes i attributes).1
    let calls := HelperCall.writes i attributes ++ helperCallsAll (some i) body inside
    let flight := (runAll (some i) body inside).2
    let behind := (Action.run current (.block name attributes catches body) t).1
    ∃ opened : Span, opened.Open ∧ opened.status = .unset ∧ opened.attributes = .empty
      ∧ behind.spans[i]? = some ((opened.written t.tracer.limits i calls).closed t.tracer flight)
      ∧ ((opened.written t.tracer.limits i calls).closed t.tracer flight).ended = true
      ∧ ∀ current' later, (runAll current' later behind).1.spans[i]?
          = some ((opened.written t.tracer.limits i calls).closed t.tracer flight) := by
  intro i inside calls flight behind
  have hspan := Action.span_of_block name attributes catches body current t
  have hopen : (Span.start name .internal Tracing.scope
      ((current.bind fun j => t.spans[j]?).map (·.name)) t.tracer.recorded).Open := ⟨hrecorded, rfl⟩
  have hended := (hopen.written t.tracer.limits i calls).ended_closed t.tracer flight
  exact ⟨_, hopen, rfl, rfl, hspan, hended,
    fun current' later => runAll_of_ended hspan hended current' later⟩

/-- **The status of a span.** Take any block, opened in any state of a program whose spans are recorded,
with any body, and the calls that the body makes on the span of the block.

* The span has ended behind the block. Its status is the verdict on the calls that set it and on the
  exception that leaves the body, if any: a success if one of the calls was told one, otherwise the
  exception, if it is an ordinary one, otherwise the failure that the last of the calls was told, and
  nothing where there was none.
* Nothing that comes behind the block changes the span. -/
theorem Action.status_of_block {t : Tracing} (hrecorded : t.tracer.recorded = true)
    (current : Option Nat) (name : String) (attributes : List (Str × Value)) (catches : Bool)
    (body : List Action) :
    let i := t.spans.length
    let inside := ((t.enter name current).1.addAttributes i attributes).1
    let calls := statusCalls i (helperCallsAll (some i) body inside)
    let flight := (runAll (some i) body inside).2
    let behind := (Action.run current (.block name attributes catches body) t).1
    ∃ s, behind.spans[i]? = some s
      ∧ s.ended = true
      ∧ s.status = verdict calls (flight.bind exceptionText)
      ∧ ∀ current' later, (runAll current' later behind).1.spans[i]? = some s := by
  intro i inside calls flight behind
  obtain ⟨opened, hopen, hunset, -, hspan, hended, hlater⟩ :=
    Action.exists_span_of_block hrecorded current name attributes catches body
  refine ⟨_, hspan, hended, ?_, hlater⟩
  have hwritten := hopen.written t.tracer.limits i
    (HelperCall.writes i attributes ++ helperCallsAll (some i) body inside)
  -- The attributes that the block begins with set no status, so the body starts without one.
  have hstatus : (opened.written t.tracer.limits i
      (HelperCall.writes i attributes ++ helperCallsAll (some i) body inside)).status
        = verdict calls none := by
    rw [hopen.status_written, hunset, statusCalls_append, statusCalls_writes, List.nil_append]
    exact after_unset calls
  exact hwritten.status_closed hrecorded hstatus flight

/-- Calls on two spans: the outer one is told two failures, the second one from inside a block that
has a success of its own and is left by an exception. -/
def twoSpans : List Action :=
  [.status .innermost (.bool false) (.str "slow"),
   .block "inner" [] true
    [.status (.named "outer") (.int 0) (.str ""), .status .innermost (.bool true) .null,
     .raise (.mk "ValueError" [.str "bad"] none)]]

/-- The last failure counts for the outer span, and a success that comes too late does not. -/
theorem Action.status_of_block_outer :
    let behind := (Action.run none (.block "outer" [] false twoSpans) (.start plainTracer [])).1
    ∃ s, behind.spans[0]? = some s
      ∧ s.status = .error (some "Operation failed")
      ∧ (runAll none [.status (.opened 0) (.bool true) .null] behind).1.spans[0]? = some s := by
  obtain ⟨s, hs, -, hstatus, hlater⟩ :=
    Action.status_of_block (t := .start plainTracer []) rfl none "outer" [] false twoSpans
  exact ⟨s, hs, hstatus, hlater none _⟩

/-- The inner span keeps its success, whatever leaves its block. -/
example : (runAll none [.block "outer" [] false twoSpans] (.start plainTracer [])).1.spans.map (·.status)
    = [.error (some "Operation failed"), .ok] := rfl

/-- **An interrupt** leaves the span of its block without a failure. -/
theorem interrupt_without_error :
    let interrupt := Raised.mk "KeyboardInterrupt" [.str "stop"] none
    let run := runAll none [.block "outer" [] true [.raise interrupt]] (.start plainTracer [])
    interrupt.message? = some "stop"
      ∧ run.1.departures = [("outer", interrupt)]
      ∧ run.1.spans.map (·.status) = [.unset]
      ∧ run.1.spans.map (·.status) ≠ [.error (some "KeyboardInterrupt: stop")] :=
  ⟨rfl, rfl, rfl, by decide⟩

end Telemetry
end ChatProbe

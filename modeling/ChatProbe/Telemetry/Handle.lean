import ChatProbe.Failure.Basic
import ChatProbe.Logging.Entry
/-!
# Handles on telemetry

A `Handle` holds the providers of one telemetry setup, all of them or none (`Handle.active`,
`Handle.disabled`). Its end is `Handle.shutdown`: first the client is no longer instrumented, then
the buffers of the tracer and the logger are flushed and the providers stopped, spans before
events before metrics. Only the first shutdown does anything, and a call that fails ends it early.
-/

namespace ChatProbe
namespace Telemetry

/-- The four providers of telemetry. -/
inductive Provider where
  | tracer
  | logger
  | eventLogger
  | meter
deriving DecidableEq, Repr

/-- All providers, in the order in which they end. -/
def Provider.all : List Provider := [.tracer, .logger, .eventLogger, .meter]

/-- A call that a shutdown makes. -/
inductive Call where
  | uninstrument
  | flush (p : Provider)
  | stop (p : Provider)
deriving DecidableEq, Repr

/-- The calls that end a provider. The event logger rests on the logger and has no end of its own;
the meter flushes where it stops. -/
def Provider.ending : Provider → List Call
  | .tracer => [.flush .tracer, .stop .tracer]
  | .logger => [.flush .logger, .stop .logger]
  | .eventLogger => []
  | .meter => [.stop .meter]

/-- A handle on the providers of a setup. -/
structure Handle where
  providers : List Provider
  instrumented : Bool
  closed : Bool
deriving DecidableEq, Repr

/-- How calls fail: the exception of a call, where it raises one. -/
abbrev Faults := Call → Option Raised

/-- No call fails. -/
def Faults.none : Faults := fun _ => Option.none

/-- What a shutdown did. -/
structure Ending where
  handle : Handle
  calls : List Call
  log : List Logging.Entry
  failure : Option Raised

/-- What is logged when everything has ended. -/
def shutDownEntry : Logging.Entry :=
  .plain 10 ⟨"genaiprobe.observability.telemetry", "telemetry", "shutdown"⟩ "Telemetry shut down"

/-- Make calls up to and with the first one that fails. -/
def perform (faults : Faults) : List Call → List Call × Option Raised
  | [] => ([], none)
  | c :: cs =>
    match faults c with
    | some e => ([c], some e)
    | none =>
      let (made, failure) := perform faults cs
      (c :: made, failure)

namespace Handle

/-- The handle where telemetry is off. -/
def disabled : Handle := ⟨[], false, false⟩

/-- The handle of a setup that instrumented the client. -/
def active : Handle := ⟨Provider.all, true, false⟩

/-- Whether the handle has a provider. -/
def has (h : Handle) (p : Provider) : Bool := h.providers.contains p

/-- Whether telemetry is on. -/
def enabled (h : Handle) : Bool := h.has .tracer

/-- The calls that end the providers of the handle. -/
def ending (h : Handle) : List Call := (Provider.all.filter h.has).flatMap Provider.ending

/-- The calls of a first shutdown. -/
def shutdownCalls (h : Handle) : List Call :=
  (if h.instrumented then [.uninstrument] else []) ++ h.ending

/-- End the handle. It counts as instrumented for as long as taking that back fails. -/
def shutdown (h : Handle) (faults : Faults) : Ending :=
  if h.closed then ⟨h, [], [], none⟩
  else
    -- The handle is closed before the calls, so a failing one is not made again.
    let (calls, failure) := perform faults h.shutdownCalls
    { handle := ⟨h.providers, h.instrumented && (faults .uninstrument).isSome, true⟩
      calls, failure
      log := if failure.isSome then [] else [shutDownEntry] }

/-- Shutdowns one after the other. -/
def shutdowns (h : Handle) (faults : Faults) : Nat → List Ending
  | 0 => []
  | n + 1 => let e := h.shutdown faults; e :: e.handle.shutdowns faults n

@[simp] theorem closed_shutdown (h : Handle) (faults : Faults) :
    (h.shutdown faults).handle.closed = true := by
  unfold shutdown
  split <;> simp_all

@[simp] theorem providers_shutdown (h : Handle) (faults : Faults) :
    (h.shutdown faults).handle.providers = h.providers := by
  unfold shutdown
  split <;> rfl

theorem shutdown_of_closed {h : Handle} (hc : h.closed = true) (faults : Faults) :
    h.shutdown faults = ⟨h, [], [], none⟩ := by
  simp [shutdown, hc]

end Handle

@[simp] theorem perform_none (cs : List Call) : perform Faults.none cs = (cs, none) := by
  induction cs with
  | nil => rfl
  | cons c cs ih => simp [perform, Faults.none, ih]

end Telemetry
end ChatProbe

import ChatProbe.Probe.Report
import ChatProbe.Telemetry.Handle
import ChatProbe.Telemetry.Pipeline
/-!
# The hub

A process can set up telemetry more than once, but its client is instrumented only once. The
`Hub` holds every setup as a `Member` and says to which of them the instrumented client reports.
Instrumenting a client that is already instrumented changes nothing, and taking instrumentation
back takes it back whoever put it there.

`Hub.call` runs the probe with the client as it stands; `Hub.step` is one step of the life of a
hub without requests, and `Hub.run` a list of them.
-/

namespace ChatProbe
namespace Telemetry

open Settings (TelemetrySettings)

/-- One telemetry setup: its handle, what it collected, and every call on its providers so far. -/
structure Member where
  handle : Handle
  pipeline : Option Pipeline
  calls : List Call
deriving Repr

/-- All setups of a process, the one to which the instrumented client reports, and the one whose
providers are the global ones. -/
structure Hub where
  members : List Member
  reporting : Option Nat
  installed : Option Nat
deriving Repr

/-- What is logged where telemetry is off. -/
def disabledEntry : Logging.Entry :=
  .plain 20 ⟨"genaiprobe.observability.telemetry", "telemetry", "setup_telemetry"⟩
    "Telemetry disabled (OTEL_SDK_DISABLED)"

namespace Hub

/-- No setup. -/
def empty : Hub := ⟨[], none, none⟩

/-- Instrument the client for a member, unless it is instrumented already. -/
def instrument (hub : Hub) (i : Nat) : Hub := { hub with reporting := hub.reporting <|> some i }

/-- Take instrumentation back. -/
def uninstrument (hub : Hub) : Hub := { hub with reporting := none }

/-- Change a member. -/
def modify (hub : Hub) (i : Nat) (f : Member → Member) : Hub :=
  { hub with members := hub.members.modify i f }

/-- Add a member. -/
def join (hub : Hub) (m : Member) : Hub := { hub with members := hub.members ++ [m] }

/-- Make the providers of a member the global ones, unless there are some. -/
def install (hub : Hub) (i : Nat) : Hub := { hub with installed := hub.installed <|> some i }

/-- Set up telemetry by settings. The new member is the last one. -/
def setup (hub : Hub) (t : TelemetrySettings) (env : Environment) (memory global : Bool) :
    Except Failure (Hub × List Logging.Entry) :=
  let i := hub.members.length
  if t.sdkDisabled then .ok (hub.join ⟨.disabled, none, []⟩, [disabledEntry])
  else do
    let p ← Pipeline.ofSettings t env memory
    -- The new member reports unless an earlier one still does.
    let hub := (hub.join ⟨.active, some p, []⟩).instrument i
    return (if global then hub.install i else hub, Pipeline.setupLog t)

/-- Shut a member down. -/
def shutdown (hub : Hub) (i : Nat) : Hub × List Logging.Entry :=
  match hub.members[i]? with
  | none => (hub, [])
  | some m =>
    let e := m.handle.shutdown Faults.none
    let hub := hub.modify i fun m => { m with handle := e.handle, calls := m.calls ++ e.calls }
    -- Instrumentation is taken back whoever reports.
    (if e.calls.contains .uninstrument then hub.uninstrument else hub, e.log)

/-! ### Requests -/

/-- What a member observes with. A closed member still looks at responses but keeps nothing. -/
def observerOf (env : Environment) (m : Member) : Observer :=
  match m.pipeline with
  | none => .blind (capturesContent env)
  | some p => if m.handle.closed then { p.observer with meter := .off } else p.observer

/-- A member with an observation. -/
def Member.absorb (o : Observation) (m : Member) : Member :=
  if m.handle.closed then m else { m with pipeline := m.pipeline.map (·.absorb o) }

/-- An exchange as the instrumented client makes it. -/
def observe (hub : Hub) (env : Environment) (c : Chat.Client) (e : Chat.Exchange) :
    Hub × Chat.Exchange :=
  match hub.reporting.bind fun i => hub.members[i]?.map fun m => (i, m) with
  -- Nobody listens.
  | none => (hub, e)
  | some (i, m) =>
    let o := (observerOf env m).observe c.baseUrl e.result
    (hub.modify i (Member.absorb o), { e with result := o.result })

/-- Run the probe with the client as it stands. -/
def call (hub : Hub) (env : Environment) (overrides : Settings.Inputs) (t : Chat.Transport)
    (out : Probe.Sink) : Hub × Probe.Report :=
  match Chat.Client.create env overrides with
  | .error e => (hub, .unstarted e)
  | .ok c =>
    let (hub, e) := hub.observe env c (c.complete t)
    (hub, .ofExchange c e out)

end Hub

/-! ### The life of a hub -/

/-- A step in the life of a hub. -/
inductive HubStep where
  | setup (t : TelemetrySettings) (env : Environment) (memory global : Bool)
  | shutdown (i : Nat)
deriving Repr

namespace Hub

/-- One step; a setup that fails changes nothing. -/
def step (hub : Hub) : HubStep → Hub
  | .setup t env memory global =>
    match hub.setup t env memory global with
    | .ok (hub, _) => hub
    | .error _ => hub
  | .shutdown i => (hub.shutdown i).1

/-- Steps in order. -/
def run (hub : Hub) (steps : List HubStep) : Hub := steps.foldl step hub

@[simp] theorem run_nil (hub : Hub) : hub.run [] = hub := rfl

@[simp] theorem run_cons (hub : Hub) (s : HubStep) (ss : List HubStep) :
    hub.run (s :: ss) = (hub.step s).run ss := rfl

end Hub
end Telemetry
end ChatProbe

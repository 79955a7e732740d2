import ChatProbe.Logging.Entry
import ChatProbe.Telemetry.Span
/-!
# Traced programs

A traced program is a list of actions (`Action`): a block opens a span around further actions,
helpers write an attribute or the status of a span, and an exception leaves all blocks up to one
that catches it. `Action.run` gives the state after an action and the exception in flight, if any.

The helpers never fail because of the span or the value: what goes wrong is logged as a warning.
The exception that leaves a block is recorded on its span before the span ends.
-/

namespace ChatProbe
namespace Telemetry

/-- The span that a helper works on: the innermost open one, none, a stand-in, the last one opened
under a name, or the one opened at a position, open or ended. -/
inductive Target where
  | innermost
  | nothing
  | double (name : String)
  | named (name : String)
  | opened (i : Nat)
deriving DecidableEq, Repr

/-- An action of a traced program. -/
inductive Action where
  | block (name : String) (attributes : List (Str × Value)) (catches : Bool)
      (body : List Action)
  | attribute (target : Target) (key value : Value)
  | status (target : Target) (success message : Value)
  | raise (e : Raised)
deriving Repr, Inhabited

/-- A call of a stand-in for a span. -/
inductive DoubleCall where
  | setAttribute (key : Value) (text : Str)
  | setStatus (status : SpanStatus)
deriving Repr

/-- A stand-in for a span: it notes each call, and then raises if told to. -/
structure Double where
  name : String
  truthy : Bool
  raises : Option Complaint
  calls : List DoubleCall
deriving Repr

/-- The state of a traced program: all spans in the order of their opening, for each the position of
the span that it was opened in, the positions of the ended ones in the order of their end, the
stand-ins, the exceptions that left a block, and what was logged. -/
structure Tracing where
  tracer : Tracer
  spans : List Span
  parents : List (Option Nat)
  ended : List Nat
  doubles : List Double
  departures : List (String × Raised)
  log : List Logging.Entry
deriving Repr

namespace Tracing

/-- The scope of the program's own spans. -/
def scope : String := "genaiprobe.observability.tracing"

/-- Who logs for spans. -/
def origin (function : String) : Logging.Origin := ⟨scope, "tracing", function⟩

/-- The state before a program runs. -/
def start (tracer : Tracer) (doubles : List Double) : Tracing :=
  ⟨tracer, [], [], [], doubles, [], []⟩

/-- The ended spans that were recorded, in the order of their end. -/
def finished (t : Tracing) : List Span :=
  (t.ended.filterMap fun i => t.spans[i]?).filter (·.recorded)

/-- Change the span at a position. -/
def modifySpan (i : Nat) (f : Span → Span) (t : Tracing) : Tracing :=
  { t with spans := t.spans.modify i f }

/-- Add a warning. -/
def warn (function : String) (message : Str) (t : Tracing) : Tracing :=
  { t with log := t.log ++ [.plain 30 (origin function) message] }

/-- What a target turns out to be. -/
inductive Subject where
  | none
  | span (i : Nat)
  | double (d : Double)

/-- The position of the last span opened under a name. -/
def lastNamed? (name : String) : Nat → List Span → Option Nat
  | _, [] => .none
  | i, s :: ss => lastNamed? name (i + 1) ss <|> if s.name = name then some i else .none

/-- The subject of a helper, where `current` is the innermost open span. -/
def subject (t : Tracing) (current : Option Nat) : Target → Subject
  | .innermost => match current with
    | some i => .span i
    | .none => .none
  | .nothing => .none
  | .double name => match t.doubles.find? (·.name == name) with
    -- A stand-in that counts as false is taken for no span at all.
    | some d => if d.truthy then .double d else .none
    | .none => .none
  | .named name => match lastNamed? name 0 t.spans with
    | some i => .span i
    | .none => .none
  | .opened i => if i < t.spans.length then .span i else .none

/-- Note a call of a stand-in. -/
def noteCall (name : String) (c : DoubleCall) (t : Tracing) : Tracing :=
  { t with doubles := t.doubles.map fun d =>
      if d.name = name then { d with calls := d.calls ++ [c] } else d }

/-- Log that an attribute was not written; a key without a text raises in its turn. -/
def warnAttribute (key : Value) (e : Complaint) (t : Tracing) : Tracing × Option Raised :=
  match key.print with
  | .ok k => (t.warn "add_span_attribute"
      ("Failed to add span attribute " ++ k ++ ": " ++ e.message), none)
  | .error e => (t, some (.ofComplaint e))

/-- Write the text of a value as an attribute. -/
def addAttribute (s : Subject) (key v : Value) (t : Tracing) : Tracing × Option Raised :=
  match s with
  | .none => (t, none)
  | .span i =>
    -- The text is made before the span is asked whether it still takes attributes.
    match v.print with
    | .ok text => (t.modifySpan i (Span.setAttribute t.tracer.limits key (.str text)), none)
    | .error e => t.warnAttribute key e
  | .double d =>
    match v.print with
    | .error e => t.warnAttribute key e
    | .ok text =>
      -- The call is noted also where it raises.
      let t := t.noteCall d.name (.setAttribute key text)
      match d.raises with
      | some e => t.warnAttribute key e
      | .none => (t, none)

/-- The status that a helper asks for. A message that is no text is left out; an empty one is
replaced. -/
def statusOf (success message : Value) : SpanStatus :=
  if success.truthy then .ok
  else if message.truthy then .error message.toText?
  else .error (some "Operation failed")

/-- Set a status. -/
def setStatus (s : Subject) (success message : Value) (t : Tracing) : Tracing :=
  let status := statusOf success message
  match s with
  | .none => t
  | .span i => t.modifySpan i (Span.setStatus status)
  | .double d =>
    let t := t.noteCall d.name (.setStatus status)
    match d.raises with
    | some e => t.warn "set_span_status" ("Failed to set span status: " ++ e.message)
    | .none => t

/-- Open a span; its position is the second part. -/
def enter (name : String) (current : Option Nat) (t : Tracing) : Tracing × Nat :=
  -- Only the name is kept; `parents` has the position.
  let parent := (current.bind fun i => t.spans[i]?).map (·.name)
  ({ t with
      spans := t.spans ++ [.start name .internal scope parent t.tracer.recorded]
      parents := t.parents ++ [current] },
    t.spans.length)

/-- Record an exception on a span. An exception without a message gives way to another one. -/
def recordException (i : Nat) (e : Raised) (t : Tracing) : Tracing × Raised :=
  -- Interrupts and exits pass unrecorded.
  if !e.isOrdinary || !t.tracer.recorded then (t, e)
  else match e.print with
  -- The span keeps the status that it has.
  | .error c => (t, .ofComplaint c)
  | .ok message =>
    (t.modifySpan i fun s =>
      (s.addEvent t.tracer.limits (.ofException t.tracer.limits e.className message)).setStatus
        (.error (some (e.className ++ ": " ++ message))), e)

/-- End a span. -/
def leave (i : Nat) (t : Tracing) : Tracing :=
  { t.modifySpan i Span.finish with ended := t.ended ++ [i] }

/-- Note that an exception left a block. -/
def depart (name : String) (e : Raised) (t : Tracing) : Tracing :=
  { t with departures := t.departures ++ [(name, e)] }

/-- Write the attributes that a block begins with. -/
def addAttributes (i : Nat) : List (Str × Value) → Tracing → Tracing × Option Raised
  | [], t => (t, none)
  | (key, v) :: rest, t =>
    match t.addAttribute (.span i) (.str key) v with
    | (t, none) => addAttributes i rest t
    | failed => failed

/-- Close a block, with the exception that ends it, if any. -/
def close (name : String) (i : Nat) (catches : Bool) (flight : Option Raised) (t : Tracing) :
    Tracing × Option Raised :=
  match flight with
  | .none => (t.leave i, none)
  | some e =>
    -- What leaves the block is what recording has made of the exception.
    let (t, e) := t.recordException i e
    ((t.leave i).depart name e, if catches then none else some e)

end Tracing

mutual

/-- Run an action inside the innermost open span `current`. -/
def Action.run (current : Option Nat) : Action → Tracing → Tracing × Option Raised
  | .block name attributes catches body, t =>
    let (t, i) := t.enter name current
    match t.addAttributes i attributes with
    -- The body does not begin.
    | (t, some e) => t.close name i catches (some e)
    | (t, .none) =>
      let (t, flight) := runAll (some i) body t
      t.close name i catches flight
  | .attribute target key v, t => t.addAttribute (t.subject current target) key v
  | .status target success message, t =>
    (t.setStatus (t.subject current target) success message, none)
  | .raise e, t => (t, some e)

/-- Run actions in order, up to an exception. -/
def runAll (current : Option Nat) : List Action → Tracing → Tracing × Option Raised
  | [], t => (t, none)
  | a :: rest, t =>
    match Action.run current a t with
    | (t, .none) => runAll current rest t
    | (t, some e) => (t, some e)

end

/-- Run a program on a tracer of the given environment. -/
def Tracing.ofProgram (env : Environment) (doubles : List Double) (program : List Action) :
    Except Failure (Tracing × Option Raised) :=
  (Tracer.ofEnvironment env).map fun tracer => runAll none program (.start tracer doubles)

end Telemetry
end ChatProbe

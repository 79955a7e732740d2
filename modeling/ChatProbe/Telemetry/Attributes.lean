import ChatProbe.Environment
import ChatProbe.Failure.Basic
import ChatProbe.Number.Digits
/-!
# Attributes of telemetry data

Attributes by name, each name once, the last written last. A `Limits` bounds how many there may be
and how long their texts are; where the bound is reached, the oldest attribute makes room and is
counted as dropped (`Attributes.set`). Names that are no text or empty, and values that are neither
scalars nor sequences of scalars of one kind, are ignored.
-/

namespace ChatProbe
namespace Telemetry

/-- Bounds on what a span holds; nothing means no bound. -/
structure Limits where
  events : Option Nat
  spanAttributes : Option Nat
  eventAttributes : Option Nat
  textLength : Option Nat
  spanTextLength : Option Nat
deriving DecidableEq, Repr

/-- How many attributes or events a span holds unless said otherwise. -/
def defaultCount : Nat := 128

namespace Limits

/-- The bounds that hold where nothing is said. -/
def standard : Limits := ⟨some defaultCount, some defaultCount, some defaultCount, none, none⟩

/-- A bound from a variable; an empty one lifts the bound. -/
def read (env : Environment) (name : String) (fallback : Option Nat) :
    Except Failure (Option Nat) :=
  match env.get? name with
  | none => .ok fallback
  | some text =>
    let text := Text.lower (Text.trim Text.isBlank text)
    if text.isEmpty then .ok none
    else match Digits.int? text.toList with
    | none => .error (.countLimit name text)
    | some n => if n < 0 then .error (.countLimit name (toString n)) else .ok (some n.toNat)

/-- The bounds that the environment sets. -/
def ofEnvironment (env : Environment) : Except Failure Limits := do
  let events ← read env "OTEL_SPAN_EVENT_COUNT_LIMIT" (some defaultCount)
  -- Not used, but a bound that cannot be read fails.
  let _ ← read env "OTEL_SPAN_LINK_COUNT_LIMIT" (some defaultCount)
  let common ← read env "OTEL_ATTRIBUTE_COUNT_LIMIT" none
  let count := some (common.getD defaultCount)
  let spanAttributes ← read env "OTEL_SPAN_ATTRIBUTE_COUNT_LIMIT" count
  let eventAttributes ← read env "OTEL_EVENT_ATTRIBUTE_COUNT_LIMIT" count
  let _ ← read env "OTEL_LINK_ATTRIBUTE_COUNT_LIMIT" count
  let textLength ← read env "OTEL_ATTRIBUTE_VALUE_LENGTH_LIMIT" none
  let spanTextLength ← read env "OTEL_SPAN_ATTRIBUTE_VALUE_LENGTH_LIMIT" textLength
  return { events, spanAttributes, eventAttributes, textLength, spanTextLength }

end Limits

/-- A text cut to a length. -/
def cutText (limit : Option Nat) (s : Str) : Str :=
  match limit with
  | none => s
  | some n => s.take n

/-- A scalar as an attribute holds it: texts cut, bytes as the text that they encode. -/
def scalar? (limit : Option Nat) : Value → Option Value
  | .bool b => some (.bool b)
  | .int i => some (.int i)
  | .float x => some (.float x)
  | .str s => some (.str (cutText limit s))
  | .bytes bs => (Text.Utf8.decode bs).toOption.map fun s => .str (cutText limit s)
  | _ => none

/-- The elements of a sequence of scalars of one kind, nothing among them. -/
def scalars? (limit : Option Nat) (kind : Option String) : List Value → Option (List Value)
  | [] => some []
  | .null :: vs => (scalars? limit kind vs).map (.null :: ·)
  | v :: vs => do
    -- The first scalar decides what the others have to be.
    let x ← scalar? limit v
    if kind.isSome && kind != some x.typeName then none
    else return x :: (← scalars? limit (some x.typeName) vs)

/-- A value as an attribute holds it. -/
def attributeValue? (limit : Option Nat) : Value → Option Value
  | .list vs | .tuple vs => (scalars? limit none vs).map .tuple
  | v => scalar? limit v

/-- Attributes in the order of their last writing, and how many were dropped. -/
structure Attributes where
  entries : List (Str × Value)
  dropped : Nat
deriving Repr

namespace Attributes

/-- No attributes. -/
def empty : Attributes := ⟨[], 0⟩

/-- The name of an attribute, unless it is no text or empty. -/
def name? : Value → Option Str
  | .str s => if s.isEmpty then none else some s
  | _ => none

/-- Put an attribute behind all others. -/
def put (count : Option Nat) (name : Str) (v : Value) (a : Attributes) : Attributes :=
  -- An attribute that is written again moves to the end.
  if (a.entries.lookup name).isSome then
    { a with entries := a.entries.filter (fun e => e.1 != name) ++ [(name, v)] }
  else if count = some a.entries.length then
    -- The oldest makes room.
    ⟨a.entries.drop 1 ++ [(name, v)], a.dropped + 1⟩
  else { a with entries := a.entries ++ [(name, v)] }

/-- Write an attribute. Where none may be kept, each attempt counts as dropped. -/
def set (count length : Option Nat) (key v : Value) (a : Attributes) : Attributes :=
  if count = some 0 then { a with dropped := a.dropped + 1 }
  else match name? key, attributeValue? length v with
  | some name, some x => a.put count name x
  | _, _ => a

/-- Attributes written one after the other. -/
def ofList (count length : Option Nat) (es : List (String × Value)) : Attributes :=
  es.foldl (fun a e => a.set count length (.str e.1) e.2) empty

end Attributes
end Telemetry
end ChatProbe

import ChatProbe.Failure.Basic
/-!
# Metrics

Two instruments measure chat requests: how many there were, by their duration, and how many tokens
they took. A `Meter` keeps a `Distribution` for each instrument and each set of attributes, one
`Point` each: count, sum, least and greatest amount, and how many amounts lie in each bucket.

Only amounts that are numbers and not negative are measured; something that is no number is an
error, and so is an attribute that cannot be part of a set (`Meter.record`).
-/

namespace ChatProbe
namespace Telemetry

/-- What is measured. -/
inductive Instrument where
  | duration
  | tokens
deriving DecidableEq, Repr

namespace Instrument

/-- The name of an instrument. -/
def name : Instrument → String
  | .duration => "gen_ai.client.operation.duration"
  | .tokens => "gen_ai.client.token.usage"

/-- The unit of an instrument. -/
def unit : Instrument → String
  | .duration => "s"
  | .tokens => "\x7btoken\x7d"

end Instrument

/-- An amount: an integer, or a number with a fraction. -/
inductive Amount where
  | whole (i : Int)
  | fractional (x : Binary64)
deriving Repr

namespace Amount

/-- The amount that a value is. What is no number cannot be compared with zero. -/
def ofValue (v : Value) : Except Failure Amount :=
  match v, v.toInt? with
  | .float x, _ => .ok (.fractional x)
  | _, some i => .ok (.whole i)
  | v, none => .error (.misuse (.notOrdered v.typeName "int"))

/-- The amount as a value. -/
def toValue : Amount → Value
  | .whole i => .int i
  | .fractional x => .float x

/-- The amount as a number of the binary format. -/
def toBinary64 : Amount → Binary64
  | .whole i => .ofInt i
  | .fractional x => x

/-- Numerical order. -/
def lt : Amount → Amount → Bool
  | .whole i, .whole j => i < j
  | a, b => a.toBinary64.lt b.toBinary64

/-- The sum; of integers it is exact. -/
def add : Amount → Amount → Amount
  | .whole i, .whole j => .whole (i + j)
  | a, b => .fractional (a.toBinary64.add b.toBinary64)

/-- Nothing. -/
def zero : Amount := .whole 0

end Amount

/-- How amounts are distributed. -/
structure Distribution where
  count : Nat
  sum : Amount
  least : Amount
  greatest : Amount
  buckets : List Nat
deriving Repr

namespace Distribution

/-- The upper bounds of all buckets but the last: the powers of four from 1 on. -/
def bounds : List Amount := (List.range 14).map fun n => .whole (Nat.pow 4 n : Int)

/-- The distribution of no amounts. -/
def empty : Distribution :=
  -- A first finite amount becomes both the least and the greatest.
  ⟨0, .zero, .fractional (.infinite false), .fractional (.infinite true),
    List.replicate (bounds.length + 1) 0⟩

/-- The bucket of an amount; an amount that equals a bound lies below it. -/
def bucketOf (a : Amount) : Nat := bounds.countP fun b => b.lt a

/-- Count one more amount. -/
def add (d : Distribution) (a : Amount) : Distribution where
  count := d.count + 1
  sum := d.sum.add a
  least := if a.lt d.least then a else d.least
  greatest := if d.greatest.lt a then a else d.greatest
  buckets := d.buckets.modify (bucketOf a) (· + 1)

@[simp] theorem count_add (d : Distribution) (a : Amount) : (d.add a).count = d.count + 1 := rfl

end Distribution

/-- Attributes that tell points apart. -/
abbrev Labels := List (Str × Value)

namespace Labels

/-- Attributes with a list or a dictionary among them cannot tell points apart. -/
def check : Labels → Except Failure Unit
  | [] => .ok ()
  | (_, v) :: rest =>
    match v with
    | .list _ | .dict _ => .error (.misuse (.unhashable v.typeName))
    | _ => check rest

/-- Whether attributes are the same, in the same order. -/
def same : Labels → Labels → Bool
  | [], [] => true
  | (n, v) :: xs, (m, w) :: ys => n == m && Value.sameKey v w && same xs ys
  | _, _ => false

end Labels

/-- What an instrument measured under some attributes. -/
structure Point where
  instrument : Instrument
  labels : Labels
  distribution : Distribution
deriving Repr

/-- Count an amount at its point, a new one if there is none. -/
def countAt (i : Instrument) (labels : Labels) (a : Amount) : List Point → List Point
  | [] => [⟨i, labels, Distribution.empty.add a⟩]
  | p :: ps =>
    if p.instrument = i && p.labels.same labels then
      { p with distribution := p.distribution.add a } :: ps
    else p :: countAt i labels a ps

/-- A meter: whether it measures at all, whether someone reads it, and what it measured. -/
structure Meter where
  live : Bool
  read : Bool
  points : List Point
deriving Repr

namespace Meter

/-- A meter that measures nothing. -/
def off : Meter := ⟨false, false, []⟩

/-- Measure an amount. -/
def record (m : Meter) (i : Instrument) (labels : Labels) (amount : Value) :
    Except Failure Meter := do
  if !m.live then return m
  let a ← Amount.ofValue amount
  -- A negative amount, and one that nobody reads, is passed over before the labels are looked at.
  if a.lt .zero || !m.read then return m
  labels.check
  return { m with points := countAt i labels a m.points }

end Meter
end Telemetry
end ChatProbe

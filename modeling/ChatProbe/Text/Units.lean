import ChatProbe.Text.Utf8
/-!
# Text in units of several bytes

Bytes are cut into units of two or four bytes, the most or the least significant byte first. Units of
two bytes are code points, and two that are the halves of a surrogate pair are one character; units of
four bytes are code points. Halves that stand alone are kept. What is left behind the last unit, and a
unit that is no code point, is a `Units.Fault`.
-/

namespace ChatProbe.Text.Units

/-- How bytes are cut into units: how many make one, and which of them comes first. -/
structure Layout where
  size : Nat
  big : Bool
deriving DecidableEq, Repr

/-- The name of the encoding with a layout. -/
def Layout.encoding (l : Layout) : String :=
  "utf-" ++ toString (8 * l.size) ++ if l.big then "-be" else "-le"

/-- What can be wrong with bytes that should be units. -/
inductive Problem where
  | truncated
  | range
deriving DecidableEq, Repr

/-- The wording of a problem. -/
def Problem.wording : Problem → String
  | .truncated => "truncated data"
  | .range => "code point not in range(0x110000)"

/-- A fault: where it starts, how many bytes it covers, and the first of them. -/
structure Fault where
  layout : Layout
  problem : Problem
  position : Nat
  count : Nat
  byte : UInt8
deriving DecidableEq, Repr

/-- The wording of a fault. -/
def Fault.message (f : Fault) : String :=
  Utf8.faultWording f.layout.encoding f.position f.count f.byte f.problem.wording

/-- The number that the bytes of a unit write. -/
def unit (l : Layout) (bytes : List UInt8) : Nat :=
  (if l.big then bytes else bytes.reverse).foldl (fun n b => n * 256 + b.toNat) 0

/-- The units of bytes from a position on; `fuel` bounds the number of units. -/
def unitsFrom (l : Layout) : Nat → Nat → List UInt8 → Except Fault (List Nat)
  | 0, _, _ => .ok []
  | fuel + 1, position, bytes =>
    match bytes with
    | [] => .ok []
    | b :: _ =>
      if bytes.length < l.size then .error ⟨l, .truncated, position, bytes.length, b⟩
      else
        let n := unit l (bytes.take l.size)
        if 0x110000 ≤ n then .error ⟨l, .range, position, l.size, b⟩
        else (unitsFrom l fuel (position + l.size) (bytes.drop l.size)).map (n :: ·)

/-- The points of units of two bytes. -/
def joined : List Nat → List CodePoint
  | [] => []
  | [u] => [.ofNat u]
  | u :: v :: rest =>
    -- Where no pair is complete, the second unit may begin one.
    if CodePoint.isHigh u && CodePoint.isLow v then .paired u v :: joined rest
    else .ofNat u :: joined (v :: rest)

/-- The points of bytes that begin at a position. -/
def decode (l : Layout) (position : Nat) (bytes : List UInt8) : Except Fault (List CodePoint) :=
  (unitsFrom l bytes.length position bytes).map fun units =>
    if l.size = 2 then joined units else units.map .ofNat

end ChatProbe.Text.Units

import ChatProbe.Number.Binary64
/-!
# Shortest decimal text

A binary number is written with the fewest significant digits that read back as the same
number, and of several such digit strings with the one nearest to it. `shortestDigits` finds
them by trying one digit, then two, and so on: on each decimal grid only the two neighbours of
the number can be the answer. Seventeen digits always suffice.

How digits are laid out is one record, `FloatLayout`; the text of every float this program
prints is `FloatLayout.plain`.
-/

namespace ChatProbe

/-- The decimal number `digits · 10 ^ exponent`. -/
structure Decimal where
  digits : Nat
  exponent : Int
deriving DecidableEq, Repr, Inhabited

namespace Decimal

/-- The same number without zeros at the end of its digits; `fuel` bounds how many are cut. -/
def trimmed : Nat → Decimal → Decimal
  | 0, d => d
  | fuel + 1, d =>
    if d.digits ≠ 0 ∧ d.digits % 10 = 0 then trimmed fuel ⟨d.digits / 10, d.exponent + 1⟩ else d

end Decimal

namespace Binary64

/-- The exponent `p` with `10 ^ p ≤ num / den < 10 ^ (p + 1)`. -/
def decimalExponent (num den : Nat) : Int :=
  let guess : Int := (decimalWidth num : Int) - decimalWidth den
  let reached :=
    if 0 ≤ guess then den * Nat.pow 10 guess.toNat ≤ num else den ≤ num * Nat.pow 10 (-guess).toNat
  if reached then guess else guess - 1

/-- The quotient `num / (den · 10 ^ k)` as numerator and denominator. -/
def decimalScaled (num den : Nat) (k : Int) : Nat × Nat :=
  if 0 ≤ k then (num, den * Nat.pow 10 k.toNat) else (num * Nat.pow 10 (-k).toNat, den)

/-- The neighbour of `m · 2 ^ e` on the grid of `count` significant digits that reads back, the
nearer one if both do. -/
def onGrid? (m : Nat) (e : Int) (count : Nat) : Option Decimal :=
  let (num, den) := magnitude m e
  let k := decimalExponent num den - ((count : Int) - 1)
  let (n, d) := decimalScaled num den k
  -- The two neighbours on the grid are this one and the next.
  let low := n / d
  let readsBack (digits : Nat) : Bool := ofDecimal false digits k == .finite false m e
  match readsBack low, readsBack (low + 1) with
  | true, true => some ⟨if 2 * (n % d) ≤ d then low else low + 1, k⟩
  | true, false => some ⟨low, k⟩
  | false, true => some ⟨low + 1, k⟩
  | false, false => none

/-- The fewest digits that read back as `m · 2 ^ e`. -/
def shortestDigits (m : Nat) (e : Int) : Decimal :=
  -- Seventeen digits always read back.
  let found := (List.range 17).findSome? fun i => onGrid? m e (i + 1)
  (found.getD ⟨m, 0⟩).trimmed 20

end Binary64

/-- How a number's digits become text. -/
structure FloatLayout where
  /-- Positional text starts above this position of the point. -/
  positionalAbove : Int
  /-- Positional text ends at this position of the point. -/
  positionalUpTo : Int
  /-- What follows an integer written positionally. -/
  integerTail : String
  /-- Least number of digits of an exponent. -/
  exponentWidth : Nat
  nan : String
  infinity : String
deriving Repr

namespace FloatLayout

/-- Numbers from `0.0001` to below `10 ^ 16` are written positionally and an integer keeps `.0`;
others have an exponent with a sign and at least two digits. -/
def plain : FloatLayout :=
  ⟨-4, 16, ".0", 2, "nan", "inf"⟩

/-- The plain layout with the spellings of the JSON extension for the special numbers. -/
def json : FloatLayout := { plain with nan := "NaN", infinity := "Infinity" }

/-- `count` zeros. -/
def zeros (count : Nat) : List Char := List.replicate count '0'

/-- An exponent with its sign, padded to the layout's width. -/
def exponentText (width : Nat) (x : Int) : List Char :=
  let digits := Nat.toDigits 10 x.natAbs
  (if x < 0 then '-' else '+') :: zeros (width - digits.length) ++ digits

/-- The text of a positive decimal number. -/
def decimalText (layout : FloatLayout) (d : Decimal) : List Char :=
  let ds := Nat.toDigits 10 d.digits
  let point : Int := (ds.length : Int) + d.exponent
  if layout.positionalAbove < point ∧ point ≤ layout.positionalUpTo then
    -- The point stands before the digits, behind them, or among them.
    if point ≤ 0 then '0' :: '.' :: zeros (-point).toNat ++ ds
    else if (ds.length : Int) ≤ point then
      ds ++ zeros (point.toNat - ds.length) ++ layout.integerTail.toList
    else ds.take point.toNat ++ '.' :: ds.drop point.toNat
  else
    let fraction := ds.drop 1
    ds.take 1 ++ (if fraction.isEmpty then [] else '.' :: fraction)
      ++ 'e' :: exponentText layout.exponentWidth (point - 1)

/-- The text of a number. -/
def text (layout : FloatLayout) : Binary64 → String
  | .nan => layout.nan
  | .infinite negative => (if negative then "-" else "") ++ layout.infinity
  | .finite negative m e =>
    (if negative then "-" else "") ++
      (if m = 0 then "0" ++ layout.integerTail
       else String.ofList (layout.decimalText (Binary64.shortestDigits m e)))

end FloatLayout
end ChatProbe

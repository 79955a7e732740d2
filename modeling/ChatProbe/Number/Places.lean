import ChatProbe.Number.Shortest
/-!
# Decimal text with a given precision

Three layouts of a number with a chosen number of digits: fixed places, one digit before the
point with an exponent, and the general layout that picks one of them by the size of the number.
Digits come from the exact value rounded once, a tie to the even digit.
-/

namespace ChatProbe
namespace Binary64

/-- The digits of a natural number, at least `width` of them. -/
def paddedDigits (width n : Nat) : List Char :=
  let ds := Nat.toDigits 10 n
  FloatLayout.zeros (width - ds.length) ++ ds

/-- A point and places, or nothing where there are none and the point is not forced. -/
def pointed (forced : Bool) (places : List Char) : List Char :=
  if places.isEmpty ∧ !forced then [] else '.' :: places

/-- `m · 2 ^ e` with `places` digits behind the point. -/
def fixedText (forced : Bool) (places m : Nat) (e : Int) : List Char :=
  let (num, den) := magnitude m e
  let ds := paddedDigits (places + 1) (roundedQuotient (num * Nat.pow 10 places) den)
  let whole := ds.length - places
  ds.take whole ++ pointed forced (ds.drop whole)

/-- `m · 2 ^ e` rounded to `count` significant digits, with the exponent of the first one. -/
def significant (count m : Nat) (e : Int) : Nat × Int :=
  if m = 0 then (0, 0)
  else
    let (num, den) := magnitude m e
    let p := decimalExponent num den
    let (n, d) := decimalScaled num den (p - ((count : Int) - 1))
    let q := roundedQuotient n d
    -- Rounding may carry into one more digit.
    if q = Nat.pow 10 count then (Nat.pow 10 (count - 1), p + 1) else (q, p)

/-- The exponent mark, its sign and at least two digits. -/
def exponentPart (x : Int) : List Char := 'e' :: FloatLayout.exponentText 2 x

/-- `m · 2 ^ e` with one digit before the point and `places` behind it. -/
def scientificText (forced : Bool) (places m : Nat) (e : Int) : List Char :=
  let (q, p) := significant (places + 1) m e
  let ds := paddedDigits (places + 1) q
  ds.take 1 ++ pointed forced (ds.drop 1) ++ exponentPart p

/-- Digits behind the point without zeros at the end. -/
def withoutZeros (keep : Bool) (places : List Char) : List Char :=
  if keep then places else (places.reverse.dropWhile (· == '0')).reverse

/-- `m · 2 ^ e` with `precision` significant digits: positional from `0.0001` up to the
precision, else with an exponent. Zeros at the end go unless they are kept on purpose. -/
def generalText (keep : Bool) (precision m : Nat) (e : Int) : List Char :=
  let count := max precision 1
  let (q, p) := significant count m e
  let ds := paddedDigits count q
  -- The exponent is that of the rounded number.
  if -4 ≤ p ∧ p < count then
    if p < 0 then
      '0' :: pointed keep (withoutZeros keep (FloatLayout.zeros (-p - 1).toNat ++ ds))
    else
      let whole := p.toNat + 1
      ds.take whole ++ pointed keep (withoutZeros keep (ds.drop whole))
  else ds.take 1 ++ pointed keep (withoutZeros keep (ds.drop 1)) ++ exponentPart p

end Binary64
end ChatProbe

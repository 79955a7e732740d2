/-!
# Binary floating-point numbers

A `Binary64` is a number of the 64-bit binary format, kept as sign, mantissa and binary
exponent so that every operation below is arithmetic on natural numbers. Reading rounds once:
`Binary64.ofRatio` takes an exact quotient to the nearest number of the format, a tie going to
the even mantissa, and every other way into the type (`ofDecimal`, `ofInt`, `add`) goes through
it.

A finite number stands in its one canonical shape: the exponent is at least `-1074`, the
mantissa is below `2 ^ 53`, and it is at least `2 ^ 52` unless the exponent is `-1074`.
-/

namespace ChatProbe

/-- A number of the 64-bit binary format. `finite negative m e` is `± m · 2 ^ e`. -/
inductive Binary64 where
  | nan
  | infinite (negative : Bool)
  | finite (negative : Bool) (mantissa : Nat) (exponent : Int)
deriving DecidableEq, Repr, Inhabited

namespace Binary64

/-- The smallest exponent of the format. -/
def leastExponent : Int := -1074

/-- The largest exponent of the format. -/
def greatestExponent : Int := 971

/-- The quotient `num / den` rounded to the nearest natural number, a tie to the even one. -/
def roundedQuotient (num den : Nat) : Nat :=
  let q := num / den
  let twice := 2 * (num % den)
  if twice < den then q
  else if den < twice then q + 1
  else if q % 2 = 0 then q else q + 1

/-- The quotient `num / (den · 2 ^ e)` as numerator and denominator. -/
def scaled (num den : Nat) (e : Int) : Nat × Nat :=
  if 0 ≤ e then (num, den * Nat.pow 2 e.toNat) else (num * Nat.pow 2 (-e).toNat, den)

/-- The exponent at which the integer part of `num / (den · 2 ^ e)` has 53 binary digits. -/
def fullExponent (num den : Nat) : Int :=
  -- The logarithms leave the guess right or one too large.
  let guess : Int := (num.log2 : Int) - den.log2 - 52
  let (n, d) := scaled num den guess
  if n / d < Nat.pow 2 52 then guess - 1 else guess

/-- The number of the format nearest to `± num / den`. -/
def ofRatio (negative : Bool) (num den : Nat) : Binary64 :=
  if num = 0 ∨ den = 0 then .finite negative 0 leastExponent
  else
    -- Below the least exponent the mantissa has fewer digits.
    let e := max (fullExponent num den) leastExponent
    let (n, d) := scaled num den e
    let m := roundedQuotient n d
    -- Rounding may carry into one more digit.
    let (m, e) := if m = Nat.pow 2 53 then (Nat.pow 2 52, e + 1) else (m, e)
    if greatestExponent < e then .infinite negative else .finite negative m e

/-- How many decimal digits `n` has; zero has none. -/
def decimalWidth (n : Nat) : Nat := if n = 0 then 0 else (Nat.toDigits 10 n).length

/-- The number nearest to `± digits · 10 ^ exponent`. Exponents far outside the format are
answered without computing the power. -/
def ofDecimal (negative : Bool) (digits : Nat) (exponent : Int) : Binary64 :=
  if digits = 0 then .finite negative 0 leastExponent
  else
    let top := (decimalWidth digits : Int) + exponent
    if 310 < top then .infinite negative
    else if top < -330 then .finite negative 0 leastExponent
    else if 0 ≤ exponent then ofRatio negative (digits * Nat.pow 10 exponent.toNat) 1
    else ofRatio negative digits (Nat.pow 10 (-exponent).toNat)

/-- The number nearest to an integer. -/
def ofInt (i : Int) : Binary64 := ofRatio (decide (i < 0)) i.natAbs 1

/-- The absolute value of a finite number as an exact quotient. -/
def magnitude : Nat → Int → Nat × Nat
  | m, e => if 0 ≤ e then (m * Nat.pow 2 e.toNat, 1) else (m, Nat.pow 2 (-e).toNat)

/-- Zero of either sign is the one number that counts as false. -/
def isZero : Binary64 → Bool
  | .finite _ m _ => m == 0
  | _ => false

/-- Whether the sign is negative; it is for negative zero too. -/
def isNegative : Binary64 → Bool
  | .nan => false
  | .infinite n => n
  | .finite n _ _ => n

/-- The integer part, rounded toward zero; nothing for an infinity or a NaN. -/
def truncated? : Binary64 → Option Int
  | .finite n m e =>
    let (p, q) := magnitude m e
    some (if n then -((p / q : Nat) : Int) else (p / q : Nat))
  | _ => none

/-- Whether a finite number is an integer. -/
def isIntegral : Binary64 → Bool
  | .finite _ m e => let (p, q) := magnitude m e; p % q == 0
  | _ => false

/-- The integer that equals the number, if one does. -/
def toInt? (x : Binary64) : Option Int := if x.isIntegral then x.truncated? else none

/-- The signed numerator and the denominator of a finite number. -/
def ratio? : Binary64 → Option (Int × Nat)
  | .finite n m e =>
    let (p, q) := magnitude m e
    some (if n then -(p : Int) else p, q)
  | _ => none

/-- Numerical order. A NaN is below nothing and above nothing. -/
def lt : Binary64 → Binary64 → Bool
  | .nan, _ | _, .nan => false
  | .infinite a, .infinite b => a && !b
  | .infinite a, .finite .. => a
  | .finite .., .infinite b => !b
  | x@(.finite ..), y@(.finite ..) =>
    match x.ratio?, y.ratio? with
    | some (p, q), some (r, s) => p * s < r * q
    | _, _ => false

/-- Numerical equality: the two zeros agree and a NaN differs from itself. -/
def eqv : Binary64 → Binary64 → Bool
  | .nan, _ | _, .nan => false
  | .infinite a, .infinite b => a == b
  | x@(.finite ..), y@(.finite ..) =>
    match x.ratio?, y.ratio? with
    | some (p, q), some (r, s) => p * s == r * q
    | _, _ => false
  | _, _ => false

/-- The rounded sum. -/
def add : Binary64 → Binary64 → Binary64
  | .nan, _ | _, .nan => .nan
  | .infinite a, .infinite b => if a == b then .infinite a else .nan
  | x@(.infinite _), _ => x
  | _, y@(.infinite _) => y
  | x@(.finite a _ _), y@(.finite b _ _) =>
    match x.ratio?, y.ratio? with
    | some (p, q), some (r, s) =>
      let sum := p * s + r * q
      -- A sum of nothing is negative only if both parts are.
      if sum = 0 then .finite (a && b) 0 leastExponent
      else ofRatio (decide (sum < 0)) sum.natAbs (q * s)
    | _, _ => .nan

end Binary64
end ChatProbe

/-!
# Punycode

Text in any script as letters, digits and hyphens. The ASCII characters come first. Behind the
last hyphen follow the other characters in rising order: each is given by how far the insertion
point moves on from the previous one, as a number with digits in base 36 whose weights adapt to
the sizes seen so far (`adapt`). `encode` writes this form and `decode?` reads it.
-/

namespace ChatProbe.Url.Punycode

/-- A digit below 36. -/
def digitChar (d : Nat) : Char := Char.ofNat (if d < 26 then 0x61 + d else 0x16 + d)

/-- The value of a digit, in either case. -/
def digitValue? (c : Char) : Option Nat :=
  if c.isDigit then some (c.toNat - 0x16)
  else if c.isLower then some (c.toNat - 0x61)
  else if c.isUpper then some (c.toNat - 0x41)
  else none

/-- The bound below which the digit at place `k` ends its number. -/
def threshold (bias k : Nat) : Nat := min (max (k - bias) 1) 26

/-- How often `n` is divided by 35 until it is at most 455, and what is left. -/
def shrink : Nat → Nat → Nat × Nat
  | 0, n => (0, n)
  | fuel + 1, n =>
    if n ≤ 455 then (0, n)
    else
      let (steps, rest) := shrink fuel (n / 35)
      (steps + 1, rest)

/-- The bias after a number was written, with `count` characters placed by then. -/
def adapt (delta count : Nat) (first : Bool) : Nat :=
  let scaled := if first then delta / 700 else delta / 2
  let (steps, rest) := shrink 64 (scaled + scaled / count)
  36 * steps + 36 * rest / (rest + 38)

/-- A number in digits, the lowest first; `fuel` bounds their count. -/
def writeNumber (bias : Nat) : Nat → Nat → Nat → List Char
  | 0, _, _ => []
  | fuel + 1, k, n =>
    let t := threshold bias k
    if n < t then [digitChar n]
    else digitChar (t + (n - t) % (36 - t)) :: writeNumber bias fuel (k + 36) ((n - t) / (36 - t))

/-- How far the writer has come. -/
structure Writer where
  output : List Char
  delta : Nat
  bias : Nat
  placed : Nat

/-- Pass one character of the text while the code point `n` is being placed. -/
def Writer.pass (basic n : Nat) (w : Writer) (c : Char) : Writer :=
  if c.toNat < n then { w with delta := w.delta + 1 }
  -- The distance is written here and begins anew.
  else if c.toNat = n then
    { output := w.output ++ writeNumber w.bias 64 36 w.delta, delta := 0,
      bias := adapt w.delta (w.placed + 1) (w.placed == basic), placed := w.placed + 1 }
  else w

/-- Place the code points in turn; `low` is the least that may still come. -/
def placeAll (text : List Char) (basic : Nat) : List Nat → Nat → Writer → Writer
  | [], _, w => w
  | n :: ns, low, w =>
    -- All positions are passed for every code point left out.
    let w := { w with delta := w.delta + (n - low) * (w.placed + 1) }
    let w := text.foldl (Writer.pass basic n) w
    placeAll text basic ns (n + 1) { w with delta := w.delta + 1 }

/-- Put a number into a rising list, once. -/
def insertRising (n : Nat) : List Nat → List Nat
  | [] => [n]
  | m :: ms => if n < m then n :: m :: ms else if n = m then m :: ms else m :: insertRising n ms

/-- Text in Punycode. -/
def encode (text : List Char) : List Char :=
  let basic := text.filter fun c => c.toNat < 0x80
  let others := (text.filter fun c => 0x80 ≤ c.toNat).foldr (fun c ns => insertRising c.toNat ns) []
  basic ++ (if basic.isEmpty then [] else ['-'])
    ++ (placeAll text basic.length others 0x80 ⟨[], 0, 72, basic.length⟩).output

/-- A number read from digits, and the digits behind it. -/
def readNumber? (bias : Nat) : List Char → Nat → Nat → Nat → Option (Nat × List Char)
  | [], _, _, _ => none
  | c :: cs, k, weight, n =>
    match digitValue? c with
    | none => none
    | some d =>
      let t := threshold bias k
      if d < t then some (n + d * weight, cs)
      else readNumber? bias cs (k + 36) (weight * (36 - t)) (n + d * weight)

/-- Insert the characters that the digits give; `fuel` bounds their count, and `first` says whether
none was inserted yet. -/
def insertAll? : Nat → Bool → Nat → Nat → Nat → List Char → List Char → Option (List Char)
  | _, _, _, _, _, out, [] => some out
  | 0, _, _, _, _, _, _ => none
  | fuel + 1, first, bias, n, index, out, digits =>
    match readNumber? bias digits 36 1 0 with
    | none => none
    | some (delta, rest) =>
      let count := out.length + 1
      -- Every time the distance runs past the end, the code point goes up by one.
      let n := n + (index + delta) / count
      let index := (index + delta) % count
      if n < 0xd800 ∨ (0xdfff < n ∧ n < 0x110000) then
        insertAll? fuel false (adapt delta count first) n (index + 1)
          (out.take index ++ Char.ofNat n :: out.drop index) rest
      else none

/-- The text that Punycode writes. -/
def decode? (cs : List Char) : Option (List Char) :=
  match cs.reverse.span (· != '-') with
  | (digits, []) => insertAll? digits.length true 72 0x80 0 [] digits.reverse
  | (digits, _ :: basic) =>
    insertAll? digits.length true 72 0x80 0 basic.reverse digits.reverse

end ChatProbe.Url.Punycode

import ChatProbe.Text.Blank
import ChatProbe.Text.Str
/-!
# Integers in digits

`Digits.value` is the number that decimal digits write, and `Digits.hex?` reads a hexadecimal digit.
`Digits.int?` reads an integer as a person may write it: blanks around it, a sign, and single underscores
between digits are allowed. Neither reading nor writing takes more than `Digits.lengthLimit` digits.
-/

namespace ChatProbe.Digits

/-- The natural number that decimal digits write. -/
def value (ds : List Char) : Nat := ds.foldl (fun n d => n * 10 + (d.toNat - 0x30)) 0

/-- The value of a hexadecimal digit. -/
def hex? (c : Char) : Option Nat :=
  if c.isDigit then some (c.toNat - 0x30)
  else if 'a' ≤ c ∧ c ≤ 'f' then some (c.toNat - 0x61 + 10)
  else if 'A' ≤ c ∧ c ≤ 'F' then some (c.toNat - 0x41 + 10)
  else none

/-- The value of a point that is a hexadecimal digit. -/
def hexPoint? : CodePoint → Option Nat
  | .char c => hex? c
  | .half _ => none

/-- The decimal digits in front and what follows them. -/
def span : List CodePoint → List Char × List CodePoint
  | .char c :: rest =>
    if c.isDigit then
      let (ds, behind) := span rest
      (c :: ds, behind)
    else ([], .char c :: rest)
  | cs => ([], cs)

/-- The digits of groups that single underscores join. -/
def joined? : List Char → Option (List Char)
  | [c] => if c.isDigit then some [c] else none
  | c :: '_' :: cs => if c.isDigit then (joined? cs).map (c :: ·) else none
  | c :: cs => if c.isDigit then (joined? cs).map (c :: ·) else none
  | [] => none

/-- Whether a minus sign stands in front, and what follows the sign. -/
def signed : List Char → Bool × List Char
  | '-' :: cs => (true, cs)
  | '+' :: cs => (false, cs)
  | cs => (false, cs)

/-- A number with its sign. -/
def withSign (negative : Bool) (n : Nat) : Int := if negative then -(n : Int) else n

/-- How many digits an integer may have to be read or written. -/
def lengthLimit : Nat := 4300

/-- Whether an integer has too many digits to be written. -/
def isLong (i : Int) : Bool := lengthLimit < (Nat.toDigits 10 i.natAbs).length

theorem isLong_eq_false {i : Int} :
    isLong i = false ↔ (Nat.toDigits 10 i.natAbs).length ≤ lengthLimit := by
  rw [isLong, decide_eq_false_iff_not, Nat.not_lt]

/-- The integer that characters spell. -/
def int? (cs : List Char) : Option Int := do
  let (negative, rest) := signed (Text.trimList Text.isBlank cs)
  let ds ← joined? rest
  if lengthLimit < ds.length then none else some (withSign negative (value ds))

end ChatProbe.Digits

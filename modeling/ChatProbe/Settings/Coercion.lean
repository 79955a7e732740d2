import ChatProbe.Number.Digits
import ChatProbe.Settings.Problem
import ChatProbe.Text.Blank
import ChatProbe.Text.Case
import ChatProbe.Text.Utf8
/-!
# Reading settings from values

A setting is a text, a truth value or an integer. Each of the three readers accepts a value of
the right type and a few others that say the same: a text that spells a number or a truth value,
a number without fraction, bytes that are UTF-8. Settings keep no halves of surrogate pairs: a text
is read with the replacement character in their place.
-/

namespace ChatProbe
namespace Settings

/-- A text; bytes count as the text that they encode. -/
def readText : Value → Except Problem String
  | .str s => .ok s.mended
  | .bytes bs => (Text.Utf8.decode bs).mapError fun _ => .notUnicode
  | _ => .error .notText

/-- The spellings of the two truth values. -/
def trueSpellings : List String := ["1", "true", "t", "yes", "y", "on"]

/-- The spellings of "false". -/
def falseSpellings : List String := ["0", "false", "f", "no", "n", "off"]

/-- The truth value that a text spells, in any letter case. -/
def boolOfText (s : String) : Except Problem Bool :=
  let s := String.ofList (s.toList.map Char.toLower)
  if trueSpellings.contains s then .ok true
  else if falseSpellings.contains s then .ok false
  else .error .boolSyntax

/-- The truth value of an integer: only zero and one have one. -/
def boolOfInt (i : Int) : Except Problem Bool :=
  if i = 0 then .ok false else if i = 1 then .ok true else .error .boolSyntax

/-- The bound within which a number without fraction counts as an integer. -/
def integralBound : Int := Nat.pow 2 63

/-- The integer that a float equals. -/
def intOfFloat (x : Binary64) : Except Problem Int :=
  match x with
  | .nan | .infinite _ => .error .notFinite
  | .finite .. =>
    match x.toInt? with
    | none => .error .fractional
    | some i => if -integralBound < i ∧ i < integralBound then .ok i else .error .integerSize

/-- A truth value. -/
def readBool : Value → Except Problem Bool
  | .bool b => .ok b
  | .str s => boolOfText s.mended
  | .bytes bs =>
    match Text.Utf8.decode bs with
    | .ok s => boolOfText s
    | .error _ => .error .boolSyntax
  | .int i => boolOfInt i
  | .float x =>
    match intOfFloat x with
    | .ok i => boolOfInt i
    | .error _ => .error .notBool
  | _ => .error .notBool

/-- The characters before a point that only zeros follow. -/
def beforeZeros (cs : List Char) : Option (List Char) :=
  let (whole, rest) := cs.span (· != '.')
  match rest with
  | [] => some whole
  -- At least one zero, and nothing else.
  | _ :: zeros => if zeros.isEmpty ∨ zeros.any (· != '0') then none else some whole

/-- Digits without the zeros in front and the underscores among those; the last character dropped
stays where no digit follows it. -/
def withoutLeadingZeros (cs : List Char) : List Char :=
  match cs with
  | '0' :: _ =>
    let (dropped, rest) := cs.span fun c => c == '0' || c == '_'
    match rest with
    | d :: _ => if d.isDigit then rest else dropped.getLast?.toList ++ rest
    | [] => dropped.getLast?.toList
  | _ => cs

/-- The integer that a text spells: white space around it, a sign, digits in groups, and a
fraction of zeros are allowed. -/
def intOfText (s : String) : Except Problem Int :=
  let cs := Text.trimList Text.isWhiteSpace s.toList
  -- Measured before the sign is taken off.
  if 4300 < cs.length then .error .integerSize
  else
    let (negative, cs) := Digits.signed cs
    match (beforeZeros (withoutLeadingZeros cs)).bind Digits.joined? with
    | none => .error .integerSyntax
    | some ds => .ok (Digits.withSign negative (Digits.value ds))

/-- An integer. -/
def readInt : Value → Except Problem Int
  | .int i => .ok i
  | .bool b => .ok (if b then 1 else 0)
  | .str s => intOfText s.mended
  | .bytes bs =>
    match Text.Utf8.decode bs with
    | .ok s => intOfText s
    | .error _ => .error .integerSyntax
  | .float x => intOfFloat x
  | _ => .error .notInteger

end Settings
end ChatProbe

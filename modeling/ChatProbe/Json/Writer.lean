import ChatProbe.Json.Basic
import ChatProbe.Text.Quoted
/-!
# Writing JSON

A document is written on one line. A `JsonStyle` says what stands between members and behind
their names, and whether characters outside printable ASCII are escaped. Strings escape the
quote, the backslash and the control characters, five of them by a letter; in the ASCII style a
character past `U+FFFF` is two escaped surrogates.
-/

namespace ChatProbe

/-- How a document is laid out. -/
structure JsonStyle where
  itemSeparator : String
  nameSeparator : String
  /-- Whether text stays within printable ASCII. -/
  ascii : Bool
deriving Repr

namespace JsonStyle

/-- Blanks behind separators, ASCII only: the style of log lines and request bodies on show. -/
def spaced : JsonStyle := ⟨", ", ": ", true⟩

/-- No blanks and text as it is: the style of response bodies. -/
def compact : JsonStyle := ⟨",", ":", false⟩

end JsonStyle

namespace Json

/-- The escape of one sixteen-bit unit. -/
def unitEscape (n : Nat) : List Char := '\\' :: 'u' :: Text.hexDigits 4 n

/-- The escape of a character by its units. -/
def charEscape (c : Char) : List Char :=
  let n := c.toNat
  if n < 0x10000 then unitEscape n
  else unitEscape (0xd800 + (n - 0x10000) / 0x400) ++ unitEscape (0xdc00 + (n - 0x10000) % 0x400)

/-- One character inside a string. -/
def writeChar (ascii : Bool) (c : Char) : List Char :=
  if c = '"' then ['\\', '"']
  else if c = '\\' then ['\\', '\\']
  else if c = '\n' then ['\\', 'n']
  else if c = '\r' then ['\\', 'r']
  else if c = '\t' then ['\\', 't']
  else if c = '\x0c' then ['\\', 'f']
  else if c = '\x08' then ['\\', 'b']
  else if c.toNat < 0x20 ∨ (ascii = true ∧ 0x7e < c.toNat) then charEscape c
  else [c]

/-- One point inside a string. Halves of surrogate pairs are escaped. -/
def writePoint (ascii : Bool) : CodePoint → List Char
  | .char c => writeChar ascii c
  | .half h => unitEscape h.value

/-- A string with its quotes. -/
def writeString (ascii : Bool) (s : Str) : List Char :=
  '"' :: s.points.flatMap (writePoint ascii) ++ ['"']

/-- An integer in decimal digits. -/
def writeInt (i : Int) : List Char :=
  if i < 0 then '-' :: Nat.toDigits 10 i.natAbs else Nat.toDigits 10 i.natAbs

mutual

/-- A document in the given style, as characters. -/
def writeList (style : JsonStyle) : Json → List Char
  | .null => ['n', 'u', 'l', 'l']
  | .bool true => ['t', 'r', 'u', 'e']
  | .bool false => ['f', 'a', 'l', 's', 'e']
  | .int i => writeInt i
  | .float x => (FloatLayout.json.text x).toList
  | .str s => writeString style.ascii s
  | .array xs => '[' :: writeElements style true xs
  | .object ms => '\x7b' :: writeMembers style true ms

/-- The elements of an array and its closing bracket; all but the first are set off. -/
def writeElements (style : JsonStyle) : Bool → List Json → List Char
  | _, [] => [']']
  | first, x :: xs =>
    (if first then [] else style.itemSeparator.toList)
      ++ (writeList style x ++ writeElements style false xs)

/-- The members of an object and its closing brace; all but the first are set off. -/
def writeMembers (style : JsonStyle) : Bool → List (Str × Json) → List Char
  | _, [] => ['\x7d']
  | first, (name, v) :: ms =>
    (if first then [] else style.itemSeparator.toList)
      ++ (writeString style.ascii name ++ (style.nameSeparator.toList
        ++ (writeList style v ++ writeMembers style false ms)))

end

/-- A document in the given style. -/
def write (style : JsonStyle) (j : Json) : String := String.ofList (writeList style j)

end Json
end ChatProbe

import ChatProbe.Text.Printable
import ChatProbe.Text.Str
/-!
# Quoted text

A text between quotes on one line: the quote is `'` unless the text holds a `'` and no `"`, the
quote and the backslash are escaped, three control characters have an escape of their own, and
every other character without a picture is written by its code point. Bytes are quoted by the
same rule with everything outside ASCII as `\xhh`.
-/

namespace ChatProbe.Text

/-- The lower-case hexadecimal digits of `n`, at least `width` of them. -/
def hexDigits (width n : Nat) : List Char :=
  let ds := Nat.toDigits 16 n
  List.replicate (width - ds.length) '0' ++ ds

/-- The escape of a character by its code point. -/
def codePointEscape (c : Char) : List Char :=
  let n := c.toNat
  if n < 0x100 then '\\' :: 'x' :: hexDigits 2 n
  else if n < 0x10000 then '\\' :: 'u' :: hexDigits 4 n
  else '\\' :: 'U' :: hexDigits 8 n

/-- The quote for a text: the double one only where it saves escapes. -/
def quoteFor (cs : List Char) : Char := if cs.contains '\'' && !cs.contains '"' then '"' else '\''

/-- One character between quotes; `plain` says which characters are shown as they are. -/
def quotedChar (plain : Char → Bool) (quote c : Char) : List Char :=
  if c = quote ∨ c = '\\' then ['\\', c]
  else if c = '\t' then ['\\', 't']
  else if c = '\n' then ['\\', 'n']
  else if c = '\r' then ['\\', 'r']
  else if plain c then [c]
  else codePointEscape c

/-- A list of characters between quotes. -/
def quotedList (plain : Char → Bool) (cs : List Char) : List Char :=
  let quote := quoteFor cs
  quote :: cs.flatMap (quotedChar plain quote) ++ [quote]

/-- The text between quotes. -/
def quoted (s : String) : String := String.ofList (quotedList isPrintable s.toList)

/-- The escape of a code point. -/
def pointEscape : CodePoint → List Char
  | .char c => codePointEscape c
  | .half h => '\\' :: 'u' :: hexDigits 4 h.value

/-- One point between quotes. -/
def quotedPoint (plain : Char → Bool) (quote : Char) : CodePoint → List Char
  | .char c => quotedChar plain quote c
  | p => pointEscape p

/-- A text between quotes, with its halves escaped. -/
def quotedStr : Str → String
  | .whole s => quoted s
  | .torn t =>
    let quote := quoteFor (t.points.filterMap CodePoint.char?)
    String.ofList (quote :: t.points.flatMap (quotedPoint isPrintable quote) ++ [quote])

/-- A text as standard error shows it, with its halves escaped. -/
def backslashed : Str → String
  | .whole s => s
  | .torn t => String.ofList (t.points.flatMap fun
    | .char c => [c]
    | p => pointEscape p)

/-- Bytes between quotes, marked with a `b`. -/
def quotedBytes (bytes : List UInt8) : String :=
  String.ofList ('b' :: quotedList (fun c => 0x20 ≤ c.toNat && c.toNat < 0x7f)
    (bytes.map fun b => Char.ofNat b.toNat))

end ChatProbe.Text

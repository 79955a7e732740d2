import ChatProbe.Json.Basic
import ChatProbe.Number.Digits
import ChatProbe.Table
import ChatProbe.Text.Units
/-!
# Reading JSON

`Json.read` takes a text to the document it holds or to the first fault in it. The grammar is
that of JSON with the three words `NaN`, `Infinity` and `-Infinity` added; control characters in
strings are refused, and an integer may have at most 4300 digits. A fault carries the position
at which it is reported; `Json.Fault.message` adds line and column.

Every reader takes a list of points and returns what it read with the points left over. A `Fault`
inside a reader records the points left over at the fault, which fixes its position once the
length of the whole text is known.

Bytes are read as UTF-8, or in units of two or four bytes where a mark or their zeros say so
(`Json.readBytes`). Halves of surrogate pairs stay in the text wherever they come from: from an
escape, from three bytes of UTF-8, or from a unit.
-/

namespace ChatProbe
namespace Json

/-- What can be wrong with a text that should be JSON. -/
inductive Problem where
  | expectedValue
  | expectedName
  | expectedColon
  | expectedComma
  | extraData
  | openString
  | badEscape
  | badUnicodeEscape
  | controlCharacter
  | byteOrderMark
  | longInteger (digits : Nat)
deriving DecidableEq, Repr

/-- The wording of a problem. -/
def Problem.wording : Problem → String
  | .expectedValue => "Expecting value"
  | .expectedName => "Expecting property name enclosed in double quotes"
  | .expectedColon => "Expecting ':' delimiter"
  | .expectedComma => "Expecting ',' delimiter"
  | .extraData => "Extra data"
  | .openString => "Unterminated string starting at"
  | .badEscape => "Invalid \\escape"
  | .badUnicodeEscape => "Invalid \\uXXXX escape"
  | .controlCharacter => "Invalid control character at"
  | .byteOrderMark => "Unexpected UTF-8 BOM (decode using utf-8-sig)"
  | .longInteger digits =>
    "Exceeds the limit (4300 digits) for integer string conversion: value has "
      ++ toString digits ++ " digits; use sys.set_int_max_str_digits() to increase the limit"

/-- A problem with the points left over where it is reported. -/
structure Stop where
  problem : Problem
  rest : List CodePoint
deriving Repr

/-- The result of a reader: what it read and the points left over. -/
abbrev Reading (α : Type) := Except Stop (α × List CodePoint)

/-- The four blanks of JSON. -/
def isJsonBlank : CodePoint → Bool
  | .char c => c == ' ' || c == '\t' || c == '\n' || c == '\r'
  | .half _ => false

/-- The points behind leading blanks. -/
def skipBlanks (cs : List CodePoint) : List CodePoint := cs.dropWhile isJsonBlank

/-- The value of four hexadecimal digits. -/
def hex4? (a b c d : CodePoint) : Option Nat := do
  let a ← Digits.hexPoint? a
  let b ← Digits.hexPoint? b
  let c ← Digits.hexPoint? c
  let d ← Digits.hexPoint? d
  return ((a * 16 + b) * 16 + c) * 16 + d

/-- The character of a one-letter escape. -/
def shortEscape? : CodePoint → Option Char
  | .char '"' => some '"'
  | .char '\\' => some '\\'
  | .char '/' => some '/'
  | .char 'b' => some '\x08'
  | .char 'f' => some '\x0c'
  | .char 'n' => some '\n'
  | .char 'r' => some '\r'
  | .char 't' => some '\t'
  | _ => none

/-- The rest of a string behind its opening quote; `start` is where the string began. Two escapes
that are the halves of a surrogate pair are one character; other halves stay what they are. -/
def stringTail (start : List CodePoint) : Nat → List CodePoint → Reading (List CodePoint)
  | 0, _ => .error ⟨.openString, start⟩
  | _ + 1, [] => .error ⟨.openString, start⟩
  | fuel + 1, c :: rest =>
    if c = .char '"' then .ok ([], rest)
    else if c = .char '\\' then
      match rest with
      | [] => .error ⟨.openString, start⟩
      | .char 'u' :: digits =>
        match digits with
        | h1 :: h2 :: h3 :: h4 :: more =>
          -- The reader of an escape looks one point past the digits, so a text that ends there is faulty
          -- here.
          if more.isEmpty then .error ⟨.badUnicodeEscape, rest⟩
          else match hex4? h1 h2 h3 h4 with
          | none => .error ⟨.badUnicodeEscape, rest⟩
          | some high =>
            -- Only a second escape right behind can complete a pair. Where it does not, it is read again
            -- on its own.
            match more with
            | .char '\\' :: .char 'u' :: l1 :: l2 :: l3 :: l4 :: behind =>
              if CodePoint.isHigh high && !behind.isEmpty then
                match hex4? l1 l2 l3 l4 with
                | none => .error ⟨.badUnicodeEscape, more.drop 1⟩
                | some low =>
                  if CodePoint.isLow low then
                    (stringTail start fuel behind).map fun (s, r) => (.paired high low :: s, r)
                  else (stringTail start fuel more).map fun (s, r) => (.ofNat high :: s, r)
              else (stringTail start fuel more).map fun (s, r) => (.ofNat high :: s, r)
            | _ => (stringTail start fuel more).map fun (s, r) => (.ofNat high :: s, r)
        | _ => .error ⟨.badUnicodeEscape, rest⟩
      | e :: behind =>
        match shortEscape? e with
        | none => .error ⟨.badEscape, c :: rest⟩
        | some x => (stringTail start fuel behind).map fun (s, r) => (.char x :: s, r)
    -- Control characters have to be escaped.
    else if c.value < 0x20 then .error ⟨.controlCharacter, c :: rest⟩
    else (stringTail start fuel rest).map fun (s, r) => (c :: s, r)

/-- A fraction: a point and at least one digit. -/
def fraction (cs : List CodePoint) : List Char × List CodePoint :=
  match cs with
  | .char '.' :: rest =>
    let (ds, behind) := Digits.span rest
    -- A point without digits is no fraction: the number ends in front of it.
    if ds.isEmpty then ([], cs) else (ds, behind)
  | _ => ([], cs)

/-- An exponent: its value, and whether there is one. -/
def exponent (cs : List CodePoint) : Option Int × List CodePoint :=
  match cs with
  | e :: rest =>
    if e = .char 'e' ∨ e = .char 'E' then
      let (negative, unsigned) :=
        match rest with
        | .char '-' :: r => (true, r)
        | .char '+' :: r => (false, r)
        | r => (false, r)
      let (ds, behind) := Digits.span unsigned
      if ds.isEmpty then (none, cs)
      else (some (if negative then -(Digits.value ds : Int) else Digits.value ds), behind)
    else (none, cs)
  | [] => (none, cs)

/-- A number whose sign has been read; `start` is where it began. -/
def number (start : List CodePoint) (negative : Bool) (cs : List CodePoint) : Reading Json :=
  let (whole, rest) :=
    -- Digits behind a leading zero are no part of the number.
    match cs with
    | .char '0' :: r => (['0'], r)
    | _ => Digits.span cs
  if whole.isEmpty then .error ⟨.expectedValue, start⟩
  else
    let (places, rest) := fraction rest
    let (scale, rest) := exponent rest
    if places.isEmpty ∧ scale.isNone then
      -- The sign does not count.
      if 4300 < whole.length then .error ⟨.longInteger whole.length, start⟩
      else .ok (.int (if negative then -(Digits.value whole : Int) else Digits.value whole), rest)
    else
      let digits := Digits.value (whole ++ places)
      .ok (.float (.ofDecimal negative digits (scale.getD 0 - places.length)), rest)

/-- What stands behind a word in front. -/
def behind? : List Char → List CodePoint → Option (List CodePoint)
  | [], cs => some cs
  | w :: ws, .char c :: cs => if c = w then behind? ws cs else none
  | _, _ => none

/-- The words and what they stand for. -/
def words : List (List Char × Json) :=
  [(['n', 'u', 'l', 'l'], .null), (['t', 'r', 'u', 'e'], .bool true),
   (['f', 'a', 'l', 's', 'e'], .bool false), (['N', 'a', 'N'], .float .nan),
   (['I', 'n', 'f', 'i', 'n', 'i', 't', 'y'], .float (.infinite false)),
   (['-', 'I', 'n', 'f', 'i', 'n', 'i', 't', 'y'], .float (.infinite true))]

/-- A word in front, as what it stands for. -/
def word? (cs : List CodePoint) : Option (Json × List CodePoint) :=
  -- No word begins another, so the order does not matter.
  words.findSome? fun w => (behind? w.1 cs).map (w.2, ·)

mutual

/-- A value; `fuel` bounds the readers still to be entered. -/
def value : Nat → List CodePoint → Reading Json
  | 0, cs => .error ⟨.expectedValue, cs⟩
  | fuel + 1, cs =>
    match word? cs with
    | some found => .ok found
    | none =>
      match cs with
      | .char '"' :: rest =>
        (stringTail cs (rest.length + 1) rest).map fun (s, r) => (.str (.ofPoints s), r)
      | .char '[' :: rest =>
        match skipBlanks rest with
        | .char ']' :: r => .ok (.array [], r)
        | r => (elements fuel r).map fun (xs, r) => (.array xs, r)
      | .char '\x7b' :: rest =>
        match skipBlanks rest with
        | .char '\x7d' :: r => .ok (.object [], r)
        | r => (members fuel [] r).map fun (ms, r) => (.object ms, r)
      | .char '-' :: rest => number cs true rest
      | _ => number cs false cs

/-- The elements of an array up to its closing bracket. -/
def elements : Nat → List CodePoint → Reading (List Json)
  | 0, cs => .error ⟨.expectedValue, cs⟩
  | fuel + 1, cs =>
    match value fuel cs with
    | .error stop => .error stop
    | .ok (x, r) =>
      match skipBlanks r with
      | .char ']' :: r => .ok ([x], r)
      | .char ',' :: r => (elements fuel (skipBlanks r)).map fun (xs, r) => (x :: xs, r)
      | r => .error ⟨.expectedComma, r⟩

/-- The members of an object up to its closing brace, added to those already read. -/
def members : Nat → List (Str × Json) → List CodePoint → Reading (List (Str × Json))
  | 0, _, cs => .error ⟨.expectedName, cs⟩
  | fuel + 1, before, cs =>
    match cs with
    | .char '"' :: rest =>
      match stringTail cs (rest.length + 1) rest with
      | .error stop => .error stop
      | .ok (name, r) =>
        match skipBlanks r with
        | .char ':' :: r =>
          match value fuel (skipBlanks r) with
          | .error stop => .error stop
          | .ok (v, r) =>
            -- Of members with one name the last counts, in the place of the first.
            let now := Table.write (.ofPoints name) v before
            match skipBlanks r with
            | .char '\x7d' :: r => .ok (now, r)
            | .char ',' :: r => members fuel now (skipBlanks r)
            | r => .error ⟨.expectedComma, r⟩
        | r => .error ⟨.expectedColon, r⟩
    | _ => .error ⟨.expectedName, cs⟩

end

/-- A problem at a position of a text. -/
structure Fault where
  problem : Problem
  position : Nat
  line : Nat
  column : Nat
deriving DecidableEq, Repr

/-- Place a problem in its text. -/
def Stop.inText (stop : Stop) (text : List CodePoint) : Fault :=
  let position := text.length - stop.rest.length
  let before := text.take position
  let line := before.count (.char '\n') + 1
  let column := (before.reverse.takeWhile (· != .char '\n')).length + 1
  ⟨stop.problem, position, line, column⟩

/-- The wording of a fault with its place; an integer that is too long is not placed. -/
def Fault.message (f : Fault) : String :=
  match f.problem with
  | .longInteger _ => f.problem.wording
  | _ =>
    f.problem.wording ++ ": line " ++ toString f.line ++ " column " ++ toString f.column
      ++ " (char " ++ toString f.position ++ ")"

/-- The document that a list of points holds, up to the place of a fault. -/
def readList (cs : List CodePoint) : Except Stop Json := do
  if cs.head? = some (.char '\uFEFF') then throw ⟨.byteOrderMark, cs⟩
  -- Every call of a reader uses up a point or is followed by one that does.
  let (j, rest) ← value (2 * cs.length + 2) (skipBlanks cs)
  match skipBlanks rest with
  | [] => return j
  | rest => throw ⟨.extraData, rest⟩

/-- The document that points hold. -/
def readPoints (cs : List CodePoint) : Except Fault Json :=
  (readList cs).mapError fun stop => stop.inText cs

/-- The document that a text holds. -/
def read (s : String) : Except Fault Json := readPoints (s.toList.map .char)

/-- What can be wrong with bytes that should be JSON. -/
inductive ByteFault where
  | text (fault : Text.Utf8.Fault)
  | units (fault : Text.Units.Fault)
  | json (fault : Fault)
deriving Repr

/-- How the bytes of a document hold its text. -/
inductive Encoding where
  | utf8
  | units (l : Text.Units.Layout)
deriving DecidableEq, Repr

/-- The marks that tell an encoding. -/
def byteOrderMarks : List (List UInt8 × Encoding) :=
  [([0xff, 0xfe, 0, 0], .units ⟨4, false⟩), ([0, 0, 0xfe, 0xff], .units ⟨4, true⟩),
   ([0xff, 0xfe], .units ⟨2, false⟩), ([0xfe, 0xff], .units ⟨2, true⟩), ([0xef, 0xbb, 0xbf], .utf8)]

/-- The encoding of bytes without a mark. The zero bytes among the first four tell the size and
order of the units; without them the text is UTF-8. -/
def encodingOfUnmarked : List UInt8 → Encoding
  | a :: b :: c :: d :: _ =>
    if a = 0 then .units ⟨if b = 0 then 4 else 2, true⟩
    else if b = 0 then .units ⟨if c = 0 ∧ d = 0 then 4 else 2, false⟩
    else .utf8
  | [a, b] =>
    if a = 0 then .units ⟨2, true⟩
    else if b = 0 then .units ⟨2, false⟩
    else .utf8
  | _ => .utf8

/-- The points that bytes behind a mark of the given length encode. Positions count the mark where
the text is in units, and leave it out in UTF-8. -/
def Encoding.decode (mark : Nat) (bytes : List UInt8) : Encoding → Except ByteFault (List CodePoint)
  | .utf8 => (Text.Utf8.decodePoints bytes).mapError .text
  | .units l => (Text.Units.decode l mark bytes).mapError .units

/-- The points of JSON bytes: by their mark, the first that fits, or else by where they are zero. -/
def pointsOfBytes (bytes : List UInt8) : Except ByteFault (List CodePoint) :=
  -- The marks of four bytes come first, since one of two bytes begins one of them.
  match byteOrderMarks.find? fun m => m.1.isPrefixOf bytes with
  | some (mark, encoding) => encoding.decode mark.length (bytes.drop mark.length)
  | none => (encodingOfUnmarked bytes).decode 0 bytes

/-- The document that bytes hold. -/
def readBytes (bytes : List UInt8) : Except ByteFault Json := do
  let points ← pointsOfBytes bytes
  (readPoints points).mapError .json

end Json
end ChatProbe

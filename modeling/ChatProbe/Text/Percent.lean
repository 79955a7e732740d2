import ChatProbe.Number.Digits
import ChatProbe.Text.Utf8
/-!
# Percent escapes

`Percent.decode` replaces each `%hh` by the byte it writes and reads the bytes so obtained as
UTF-8, leniently. A percent sign without two hexadecimal digits stands for itself. Characters
outside ASCII are text already: they separate the runs of bytes that are read together.
-/

namespace ChatProbe.Text.Percent

/-- The byte that two hexadecimal digits write. -/
def byte? (high low : Char) : Option UInt8 := do
  let h ← Digits.hex? high
  let l ← Digits.hex? low
  return UInt8.ofNat (h * 16 + l)

/-- The bytes of ASCII text with its escapes replaced. -/
def asciiBytes : List Char → List UInt8
  | '%' :: h :: l :: cs =>
    match byte? h l with
    | some b => b :: asciiBytes cs
    | none => 0x25 :: asciiBytes (h :: l :: cs)
  | c :: cs => UInt8.ofNat c.toNat :: asciiBytes cs
  | [] => []
termination_by cs => cs.length

/-- Text with its escapes replaced; `run` holds the ASCII characters just read, last first. -/
def decodeRuns (run : List Char) : List Char → List Char
  | [] => (Utf8.decodeLossy (asciiBytes run.reverse)).toList
  | c :: cs =>
    if c.toNat < 0x80 then decodeRuns (c :: run) cs
    else (Utf8.decodeLossy (asciiBytes run.reverse)).toList ++ c :: decodeRuns [] cs

/-- Text with its escapes replaced. -/
def decode (s : String) : String := String.ofList (decodeRuns [] s.toList)

/-- Three characters that write a byte. -/
def escape (b : UInt8) : List Char := '%' :: (Utf8.hexByte b).toList.map Char.toUpper

/-- Text in which every character outside a class is written as its bytes. -/
def encodeList (plain : Char → Bool) (cs : List Char) : List Char :=
  cs.flatMap fun c => if plain c then [c] else (Utf8.encode c.toString).flatMap escape

end ChatProbe.Text.Percent

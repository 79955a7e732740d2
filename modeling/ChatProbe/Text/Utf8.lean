import ChatProbe.Text.Str
/-!
# Decoding bytes

`Utf8.next` reads one character off the front of a byte list or says what is wrong there and
how many bytes the fault covers. Strict decoding (`Utf8.decode`) stops at the first fault and
reports it by position; lenient decoding (`Utf8.decodeLossy`) writes the replacement character
once per fault and goes on behind it. `Utf8.decodePoints` is strict but for halves of surrogate
pairs, which it takes in the three bytes that their numbers would have.
-/

namespace ChatProbe.Text

/-- What can be wrong with bytes that should be UTF-8. -/
inductive Utf8.Problem where
  | startByte
  | continuationByte
  | unexpectedEnd
deriving DecidableEq, Repr

namespace Utf8

/-- The wording of a problem. -/
def Problem.wording : Problem → String
  | .startByte => "invalid start byte"
  | .continuationByte => "invalid continuation byte"
  | .unexpectedEnd => "unexpected end of data"

/-- The result of looking at the front of a byte list. -/
inductive Step where
  | done
  | char (c : Char) (size : Nat) (rest : List UInt8)
  | bad (problem : Problem) (count : Nat)
deriving Repr

/-- Bytes `0x80` to `0xbf` continue a character. -/
def isContinuation (b : UInt8) : Bool := b &&& 0xc0 == 0x80

/-- The six payload bits of a continuation byte. -/
def payload (b : UInt8) : Nat := (b &&& 0x3f).toNat

/-- Whether the second byte after a given first byte starts no valid character: over-long forms,
surrogates, and code points past the last. -/
def badSecond (first second : UInt8) : Bool :=
  !isContinuation second
    || (first == 0xe0 && second < 0xa0) || (first == 0xed && 0xa0 ≤ second)
    || (first == 0xf0 && second < 0x90) || (first == 0xf4 && 0x90 ≤ second)

/-- One character off the front. -/
def next : List UInt8 → Step
  | [] => .done
  | a :: rest =>
    if a < 0x80 then .char (Char.ofNat a.toNat) 1 rest
    -- A byte in the middle of a character, an over-long form, or past the last code point.
    else if a < 0xc2 ∨ 0xf5 ≤ a then .bad .startByte 1
    else match rest with
    | [] => .bad .unexpectedEnd 1
    | b :: rest =>
      if badSecond a b then .bad .continuationByte 1
      else if a < 0xe0 then .char (Char.ofNat ((a &&& 0x1f).toNat * 64 + payload b)) 2 rest
      else match rest with
      | [] => .bad .unexpectedEnd 2
      | c :: rest =>
        if !isContinuation c then .bad .continuationByte 2
        else if a < 0xf0 then
          .char (Char.ofNat (((a &&& 0x0f).toNat * 64 + payload b) * 64 + payload c)) 3 rest
        else match rest with
        | [] => .bad .unexpectedEnd 3
        | d :: rest =>
          if !isContinuation d then .bad .continuationByte 3
          else
            .char (Char.ofNat
              ((((a &&& 0x07).toNat * 64 + payload b) * 64 + payload c) * 64 + payload d)) 4 rest

/-- A fault of strict decoding: where it starts, how many bytes it covers, and the first of
them. -/
structure Fault where
  problem : Problem
  position : Nat
  count : Nat
  byte : UInt8
deriving DecidableEq, Repr

/-- Strict decoding from a position; `fuel` bounds the number of characters. -/
def decodeFrom : Nat → Nat → List UInt8 → Except Fault (List Char)
  | 0, _, _ => .ok []
  | fuel + 1, position, bytes =>
    match next bytes with
    | .done => .ok []
    | .char c size rest => (decodeFrom fuel (position + size) rest).map (c :: ·)
    | .bad problem count => .error ⟨problem, position, count, bytes.headD 0⟩

/-- Strict decoding. -/
def decode (bytes : List UInt8) : Except Fault String :=
  (decodeFrom bytes.length 0 bytes).map String.ofList

/-- The half of a surrogate pair that three bytes write, and the bytes behind them. -/
def half? : List UInt8 → Option (CodePoint × List UInt8)
  | a :: b :: c :: rest =>
    if a = 0xed ∧ 0xa0 ≤ b ∧ isContinuation b ∧ isContinuation c then
      some (.ofNat (0xd000 + payload b * 64 + payload c), rest)
    else none
  | _ => none

/-- Decoding that takes halves, from a position; `fuel` bounds the number of points. -/
def pointsFrom : Nat → Nat → List UInt8 → Except Fault (List CodePoint)
  | 0, _, _ => .ok []
  | fuel + 1, position, bytes =>
    match next bytes with
    | .done => .ok []
    | .char c size rest => (pointsFrom fuel (position + size) rest).map (.char c :: ·)
    | .bad problem count =>
      -- Strict decoding stops here; what it refuses may still be a half.
      match half? bytes with
      | some (p, rest) => (pointsFrom fuel (position + 3) rest).map (p :: ·)
      | none => .error ⟨problem, position, count, bytes.headD 0⟩

/-- Decoding that takes halves. -/
def decodePoints (bytes : List UInt8) : Except Fault (List CodePoint) :=
  pointsFrom bytes.length 0 bytes

/-- Lenient decoding of a list; `fuel` bounds the number of characters. -/
def lossyList : Nat → List UInt8 → List Char
  | 0, _ => []
  | fuel + 1, bytes =>
    match next bytes with
    | .done => []
    | .char c _ rest => c :: lossyList fuel rest
    | .bad _ count => '\uFFFD' :: lossyList fuel (bytes.drop count)

/-- Lenient decoding. -/
def decodeLossy (bytes : List UInt8) : String := String.ofList (lossyList bytes.length bytes)

/-- The bytes of a text. -/
def encode (s : String) : List UInt8 := s.toUTF8.toList

/-- Two lower-case hexadecimal digits. -/
def hexByte (b : UInt8) : String :=
  String.ofList [Nat.digitChar (b.toNat / 16), Nat.digitChar (b.toNat % 16)]

/-- What a decoder of a named encoding says about some bytes, the first of which is given. -/
def faultWording (encoding : String) (position count : Nat) (byte : UInt8) (what : String) : String :=
  let place :=
    if count == 1 then "byte 0x" ++ hexByte byte ++ " in position " ++ toString position
    else "bytes in position " ++ toString position ++ "-" ++ toString (position + count - 1)
  "'" ++ encoding ++ "' codec can't decode " ++ place ++ ": " ++ what

/-- The wording of a fault. -/
def Fault.message (f : Fault) : String :=
  faultWording "utf-8" f.position f.count f.byte f.problem.wording

end Utf8

/-- Text of one byte per character. -/
def decodeLatin1 (bytes : List UInt8) : String :=
  String.ofList (bytes.map fun b => Char.ofNat b.toNat)

end ChatProbe.Text

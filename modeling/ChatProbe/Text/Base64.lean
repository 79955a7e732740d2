import ChatProbe.Text.Utf8
/-!
# Base 64

Bytes written by 64 letters: every three bytes become four letters, six bits each, and equals
signs fill up the last four.
-/

namespace ChatProbe.Text.Base64

/-- The letter of a number below 64. -/
def letter (n : Nat) : Char :=
  Char.ofNat
    (if n < 26 then 0x41 + n
     else if n < 52 then 0x61 + (n - 26)
     else if n < 62 then 0x30 + (n - 52)
     else if n = 62 then 0x2b
     else 0x2f)

/-- The four letters of 24 bits. -/
def letters (n : Nat) : List Char :=
  [letter (n / 262144 % 64), letter (n / 4096 % 64), letter (n / 64 % 64), letter (n % 64)]

/-- Write bytes. -/
def encode : List UInt8 → List Char
  | a :: b :: c :: rest => letters (a.toNat * 65536 + b.toNat * 256 + c.toNat) ++ encode rest
  | [a, b] => (letters (a.toNat * 65536 + b.toNat * 256)).take 3 ++ ['=']
  | [a] => (letters (a.toNat * 65536)).take 2 ++ ['=', '=']
  | [] => []

end ChatProbe.Text.Base64

/-!
# Blank characters

Two classes are in use. `isWhiteSpace` is the property of that name in the character database.
`isBlank` adds the four information separators `U+001C` to `U+001F`. Trimming removes characters
of a class from both ends and nothing in between.
-/

namespace ChatProbe.Text

/-- The white-space property. -/
def isWhiteSpace (c : Char) : Bool :=
  let n := c.toNat
  (0x9 ≤ n && n ≤ 0xd) || n == 0x20 || n == 0x85 || n == 0xa0 || n == 0x1680
    || (0x2000 ≤ n && n ≤ 0x200a) || n == 0x2028 || n == 0x2029 || n == 0x202f || n == 0x205f
    || n == 0x3000

/-- White space or an information separator. -/
def isBlank (c : Char) : Bool := isWhiteSpace c || (0x1c ≤ c.toNat && c.toNat ≤ 0x1f)

/-- A list without the elements of a class at its end. -/
def dropRightWhile {α : Type} (p : α → Bool) (xs : List α) : List α :=
  (xs.reverse.dropWhile p).reverse

/-- The characters without those of a class at both ends. -/
def trimList (p : Char → Bool) (cs : List Char) : List Char := dropRightWhile p (cs.dropWhile p)

/-- The text without the characters of a class at both ends. -/
def trim (p : Char → Bool) (s : String) : String := String.ofList (trimList p s.toList)

/-- The text without the given character at its end. -/
def trimRight (c : Char) (s : String) : String := String.ofList (dropRightWhile (· == c) s.toList)

end ChatProbe.Text

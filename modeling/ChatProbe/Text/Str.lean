/-!
# Texts with halves of surrogate pairs

Most texts are a `String`, whose characters are all code points but the surrogates. Documents can
also hold a surrogate without its other half, which no strict encoding takes. A `CodePoint` is a
character or such a `Half`, and a `Str` is a `String` or a list of points with a half among them
(`Torn`). So every text has one form only, and a `String` stands for itself (`Str.whole`).

`Str.points` and `Str.ofPoints` go between texts and their points, and `Str.mended` is the text with
the replacement character in the place of every half.
-/

namespace ChatProbe

/-- A surrogate that stands alone. -/
structure Half where
  value : Nat
  isSurrogate : 0xd800 ≤ value ∧ value < 0xe000
deriving DecidableEq, Repr

/-- A code point of a text: a character, or half a surrogate pair. -/
inductive CodePoint where
  | char (c : Char)
  | half (h : Half)
deriving DecidableEq, Repr

namespace CodePoint

/-- The number of a code point. -/
def value : CodePoint → Nat
  | char c => c.toNat
  | half h => h.value

/-- The character of a point that is one. -/
def char? : CodePoint → Option Char
  | char c => some c
  | half _ => none

/-- Whether a point is half a surrogate pair. -/
def isHalf : CodePoint → Bool
  | char _ => false
  | half _ => true

/-- The point of a number. -/
def ofNat (n : Nat) : CodePoint :=
  if h : 0xd800 ≤ n ∧ n < 0xe000 then half ⟨n, h⟩ else char (Char.ofNat n)

/-- Whether a number is that of the first half of a pair. -/
def isHigh (n : Nat) : Bool := 0xd800 ≤ n && n < 0xdc00

/-- Whether a number is that of the second half of a pair. -/
def isLow (n : Nat) : Bool := 0xdc00 ≤ n && n < 0xe000

/-- The character that the two halves of a pair encode together. -/
def paired (high low : Nat) : CodePoint :=
  char (Char.ofNat (0x10000 + (high - 0xd800) * 0x400 + (low - 0xdc00)))

/-- The character of a point, where the replacement character stands for halves. -/
def mended : CodePoint → Char
  | char c => c
  | half _ => '\uFFFD'

end CodePoint

/-- Points with a half among them. -/
structure Torn where
  points : List CodePoint
  isTorn : points.any CodePoint.isHalf = true
deriving DecidableEq, Repr

/-- A text. -/
inductive Str where
  | whole (s : String)
  | torn (t : Torn)
deriving DecidableEq, Repr

instance : Coe String Str := ⟨Str.whole⟩

instance : Inhabited Str := ⟨.whole ""⟩

namespace Str

/-- The points of a text. -/
def points : Str → List CodePoint
  | whole s => s.toList.map .char
  | torn t => t.points

/-- The text of some points. -/
def ofPoints (ps : List CodePoint) : Str :=
  if h : ps.any CodePoint.isHalf = true then torn ⟨ps, h⟩
  else whole (String.ofList (ps.filterMap CodePoint.char?))

/-- Whether a text holds a half. -/
def isTorn : Str → Bool
  | whole _ => false
  | torn _ => true

/-- The text with the replacement character for every half. -/
def mended : Str → String
  | whole s => s
  | torn t => String.ofList (t.points.map CodePoint.mended)

/-- Two texts, the second one behind the first. -/
def append : Str → Str → Str
  | whole s, whole t => whole (s ++ t)
  | s, t => ofPoints (s.points ++ t.points)

instance : Append Str := ⟨append⟩

/-- How many points a text has. -/
def length : Str → Nat
  | whole s => s.length
  | torn t => t.points.length

/-- Whether a text has no points. -/
def isEmpty : Str → Bool
  | whole s => s.isEmpty
  | torn _ => false

/-- The first points of a text. -/
def take (n : Nat) : Str → Str
  | whole s => whole (String.ofList (s.toList.take n))
  | torn t => ofPoints (t.points.take n)

/-- The points of a text that pass a test. -/
def filter (p : CodePoint → Bool) : Str → Str
  | whole s => whole (String.ofList (s.toList.filter fun c => p (.char c)))
  | torn t => ofPoints (t.points.filter p)

/-- Texts one behind the other. -/
def join (ss : List Str) : Str := ss.foldl (· ++ ·) ""

@[simp] theorem points_whole (s : String) : (whole s).points = s.toList.map .char := rfl

@[simp] theorem isTorn_whole (s : String) : (whole s).isTorn = false := rfl

@[simp] theorem mended_whole (s : String) : (whole s).mended = s := rfl

@[simp] theorem whole_append_whole (s t : String) : whole s ++ whole t = whole (s ++ t) := rfl

@[simp] theorem isEmpty_whole (s : String) : (whole s).isEmpty = s.isEmpty := rfl

theorem whole_beq_whole (s t : String) : (whole s == whole t) = (s == t) := by
  rw [Bool.eq_iff_iff, beq_iff_eq, beq_iff_eq, whole.injEq]

theorem isEmpty_iff {s : Str} : s.isEmpty = true ↔ s = whole "" := by
  cases s with
  | whole s => rw [isEmpty_whole, String.isEmpty_iff, whole.injEq]
  | torn t => exact ⟨fun h => (by cases h), fun h => (by cases h)⟩

theorem any_isHalf_chars (cs : List Char) : (cs.map CodePoint.char).any CodePoint.isHalf = false := by
  rw [List.any_map]
  exact List.any_eq_false.mpr fun c _ => Bool.false_ne_true

theorem filterMap_char?_chars (cs : List Char) :
    (cs.map CodePoint.char).filterMap CodePoint.char? = cs := by
  rw [List.filterMap_map]
  exact List.filterMap_some

/-- Characters make a text without halves. -/
@[simp] theorem ofPoints_chars (cs : List Char) :
    ofPoints (cs.map CodePoint.char) = whole (String.ofList cs) := by
  rw [ofPoints, dif_neg (by rw [any_isHalf_chars]; exact Bool.false_ne_true), filterMap_char?_chars]

/-- A text is what its points make. -/
theorem ofPoints_points (s : Str) : ofPoints s.points = s := by
  cases s with
  | whole s => rw [points_whole, ofPoints_chars, String.ofList_toList]
  | torn t => rw [points, ofPoints, dif_pos t.isTorn]

/-- The points of a text are those that it was made of. -/
@[simp] theorem points_ofPoints (ps : List CodePoint) : (ofPoints ps).points = ps := by
  unfold ofPoints
  split
  · rfl
  · next h =>
    have hchars : (ps.filterMap CodePoint.char?).map CodePoint.char = ps := by
      induction ps with
      | nil => rfl
      | cons p ps ih =>
        cases p with
        | char c => exact congrArg (CodePoint.char c :: ·) (ih h)
        | half x => exact absurd rfl h
    rw [points_whole, String.toList_ofList, hchars]

@[simp] theorem points_append (s t : Str) : (s ++ t).points = s.points ++ t.points := by
  show (append s t).points = _
  cases s with
  | whole s =>
    cases t with
    | whole t => rw [append, points_whole, String.toList_append, List.map_append]; rfl
    | torn t => exact points_ofPoints _
  | torn s => exact points_ofPoints _

@[simp] theorem empty_append (s : Str) : whole "" ++ s = s := by
  cases s with
  | whole s => rw [whole_append_whole, String.empty_append]
  | torn t => exact ofPoints_points (torn t)

@[simp] theorem join_nil : join [] = "" := rfl

end Str
end ChatProbe

import ChatProbe.Text.Quoted
/-!
# What encodings refuse

An `Encoding` has bytes for some points and none for the others. Where a text that is to be encoded
has points of the second kind, the first run of them is what is wrong with it
(`Encoding.refusal?`).
-/

namespace ChatProbe.Text

/-- An encoding: its name, which points it has bytes for, and what is wrong with the others. Every
encoding has bytes for line breaks. -/
structure Encoding where
  name : String
  takes : CodePoint → Bool
  reason : String
  takesLineBreak : takes (.char '\n') = true

/-- Why a text cannot be encoded: the run of points without bytes, and how many points stand in
front of it. -/
structure Refusal where
  encoding : String
  position : Nat
  run : List CodePoint
  reason : String
deriving DecidableEq, Repr

namespace Encoding

/-- The encoding with bytes for ASCII only. -/
def ascii : Encoding := ⟨"ascii", fun p => p.value < 0x80, "ordinal not in range(128)", rfl⟩

/-- The encoding with bytes for all characters. -/
def utf8 : Encoding := ⟨"utf-8", fun p => !p.isHalf, "surrogates not allowed", rfl⟩

/-- What is wrong with a text. -/
def refusal? (e : Encoding) (s : Str) : Option Refusal :=
  match (s.points.dropWhile e.takes).takeWhile fun p => !e.takes p with
  | [] => none
  | run => some ⟨e.name, (s.points.takeWhile e.takes).length, run, e.reason⟩

/-- An encoding refuses the texts with a point that it has no bytes for. -/
theorem refusal?_eq_none_iff {e : Encoding} {s : Str} :
    e.refusal? s = none ↔ s.points.all e.takes = true := by
  have hrun : ∀ ps : List CodePoint,
      ((ps.dropWhile e.takes).takeWhile fun p => !e.takes p) = [] ↔ ps.all e.takes = true := by
    intro ps
    induction ps with
    | nil => exact iff_of_true rfl rfl
    | cons p ps ih =>
      cases hp : e.takes p with
      | true => simpa [hp] using ih
      | false => simp [hp]
  rw [← hrun, refusal?]
  split
  · next h => exact iff_of_true rfl h
  · next h => exact iff_of_false (fun hsome => by cases hsome) h

/-- A line break behind a text does not change whether it is refused. -/
theorem refusal?_lineBreak {e : Encoding} {s : Str} :
    e.refusal? (s ++ "\n") = none ↔ e.refusal? s = none := by
  rw [refusal?_eq_none_iff, refusal?_eq_none_iff, Str.points_append, List.all_append,
    Bool.and_eq_true]
  refine and_iff_left ?_
  show (e.takes (.char '\n') && true) = true
  rw [e.takesLineBreak]
  rfl

end Encoding

/-- The wording of a refusal. -/
def Refusal.message (r : Refusal) : String :=
  let what := match r.run with
    | [p] => "character '" ++ String.ofList (pointEscape p) ++ "' in position " ++ toString r.position
    | _ => "characters in position " ++ toString r.position ++ "-"
        ++ toString (r.position + r.run.length - 1)
  "'" ++ r.encoding ++ "' codec can't encode " ++ what ++ ": " ++ r.reason

end ChatProbe.Text

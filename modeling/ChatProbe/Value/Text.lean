import ChatProbe.Number.Digits
import ChatProbe.Value.Basic
import ChatProbe.Text.Quoted
/-!
# The text of a value

`Value.literal` writes a value so that its shape shows: texts are quoted, a list stands in
square brackets, a tuple in round ones with a comma behind a single element, a dictionary in
braces. `Value.print` differs at the top only, where a text stands for itself. Both fail exactly
where an object without a text form or an integer with too many digits turns up, and with what the
first of these raises.
-/

namespace ChatProbe
namespace Value

/-- Words and marks of literal text. -/
def boolText (b : Bool) : String := if b then "True" else "False"

/-- What writing an integer with too many digits raises. -/
def tooLong : Complaint :=
  .valueError ("Exceeds the limit (4300 digits) for integer string conversion; "
    ++ "use sys.set_int_max_str_digits() to increase the limit")

/-- The digits of an integer. -/
def intText (i : Int) : Except Complaint String :=
  if Digits.isLong i then .error tooLong else .ok (toString i)

theorem intText_eq_ok {i : Int} (h : Digits.isLong i = false) : intText i = .ok (toString i) :=
  if_neg (by rw [h]; exact Bool.false_ne_true)

/-- Joined with a comma and a blank. -/
def commaJoined (parts : List String) : String := ", ".intercalate parts

mutual

/-- The literal text of a value. -/
def literal : Value → Except Complaint String
  | .null => .ok "None"
  | .bool b => .ok (boolText b)
  | .int i => intText i
  | .float x => .ok (FloatLayout.plain.text x)
  | .str s => .ok (Text.quotedStr s)
  | .bytes bs => .ok (Text.quotedBytes bs)
  | .list xs => (literals xs).map fun ts => "[" ++ commaJoined ts ++ "]"
  | .tuple xs => (literals xs).map fun ts =>
    match ts with
    -- The comma tells it from a value in brackets.
    | [t] => "(" ++ t ++ ",)"
    | _ => "(" ++ commaJoined ts ++ ")"
  | .dict es => (entryLiterals es).map fun ts => "\x7b" ++ commaJoined ts ++ "\x7d"
  | .object fs => (fieldLiterals fs).map fun ts => "namespace(" ++ commaJoined ts ++ ")"
  | .plain t => .ok t
  | .textless c => .error c

/-- The literal texts of the elements of a sequence. -/
def literals : List Value → Except Complaint (List String)
  | [] => .ok []
  | x :: xs => do return (← literal x) :: (← literals xs)

/-- The literal texts of the entries of a dictionary. -/
def entryLiterals : List (Value × Value) → Except Complaint (List String)
  | [] => .ok []
  | (k, v) :: es => do return ((← literal k) ++ ": " ++ (← literal v)) :: (← entryLiterals es)

/-- The literal texts of the attributes of an object. -/
def fieldLiterals : List (Str × Value) → Except Complaint (List String)
  | [] => .ok []
  | (k, v) :: fs => do return (k.mended ++ "=" ++ (← literal v)) :: (← fieldLiterals fs)

end

/-- The text of a value: a text itself, anything else as a literal. -/
def print : Value → Except Complaint Str
  | .str s => .ok s
  | v => v.literal.map .whole

@[simp] theorem print_str (s : Str) : print (.str s) = .ok s := rfl

@[simp] theorem print_textless (c : Complaint) : print (.textless c) = .error c := rfl

/-- The text of a value, if it has one. -/
def text? (v : Value) : Option Str := v.print.toOption

@[simp] theorem text?_str (s : Str) : text? (.str s) = some s := rfl

theorem text?_eq_some {v : Value} {t : Str} : v.text? = some t ↔ v.print = .ok t := by
  rw [text?]
  cases v.print with
  | error c => exact ⟨fun h => (by cases h), fun h => (by cases h)⟩
  | ok s => exact ⟨fun h => (by cases h; rfl), fun h => (by cases h; rfl)⟩

/-- The text of a value where a failure shows as nothing. -/
def shown (v : Value) : Str := v.text?.getD ""

end Value
end ChatProbe

import ChatProbe.Value.Basic
/-!
# JSON documents

A document with its members in order. Numbers without fraction and exponent are exact integers;
all others are binary numbers, the three special ones among them. Read documents have distinct
member names, a name written twice keeping its first place and its last value
(`Table.write`).
-/

namespace ChatProbe

/-- A JSON document. -/
inductive Json where
  | null
  | bool (b : Bool)
  | int (i : Int)
  | float (x : Binary64)
  | str (s : Str)
  | array (xs : List Json)
  | object (members : List (Str × Json))
deriving Repr, Inhabited

namespace Json

/-- The member of an object. -/
def member? (j : Json) (name : Str) : Option Json :=
  match j with
  | .object members => members.lookup name
  | _ => none

/-- The text of a text. -/
def text? : Json → Option Str
  | .str s => some s
  | _ => none

mutual

/-- A document as a value: objects become dictionaries with text keys. -/
def toValue : Json → Value
  | .null => .null
  | .bool b => .bool b
  | .int i => .int i
  | .float x => .float x
  | .str s => .str s
  | .array xs => .list (toValues xs)
  | .object members => .dict (toEntries members)

/-- `toValue` element by element. -/
def toValues : List Json → List Value
  | [] => []
  | x :: xs => toValue x :: toValues xs

/-- `toValue` member by member. -/
def toEntries : List (Str × Json) → List (Value × Value)
  | [] => []
  | (name, v) :: ms => (.str name, toValue v) :: toEntries ms

end

mutual

/-- Whether a document holds an infinity or a NaN, which strict JSON cannot write. -/
def hasSpecialFloat : Json → Bool
  | .float (.finite ..) => false
  | .float _ => true
  | .array xs => anySpecialFloat xs
  | .object members => anyMemberSpecialFloat members
  | _ => false

/-- `hasSpecialFloat` of some element. -/
def anySpecialFloat : List Json → Bool
  | [] => false
  | x :: xs => hasSpecialFloat x || anySpecialFloat xs

/-- `hasSpecialFloat` of some member. -/
def anyMemberSpecialFloat : List (Str × Json) → Bool
  | [] => false
  | (_, v) :: ms => hasSpecialFloat v || anyMemberSpecialFloat ms

end

mutual

/-- Whether a text or a name in a document holds half a surrogate pair. -/
def isTorn : Json → Bool
  | .str s => s.isTorn
  | .array xs => anyTorn xs
  | .object members => anyMemberTorn members
  | _ => false

/-- `isTorn` of some element. -/
def anyTorn : List Json → Bool
  | [] => false
  | x :: xs => isTorn x || anyTorn xs

/-- `isTorn` of some name or member. -/
def anyMemberTorn : List (Str × Json) → Bool
  | [] => false
  | (name, v) :: ms => name.isTorn || isTorn v || anyMemberTorn ms

end

end Json
end ChatProbe

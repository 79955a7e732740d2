import ChatProbe.Failure.Complaint
import ChatProbe.Number.Shortest
import ChatProbe.Text.Str
/-!
# Dynamic values

Settings, log messages and chat responses carry data whose shape nothing fixes in advance. A
`Value` is such a datum: a scalar, a sequence, a dictionary with arbitrary keys, or an object
with named attributes. Two objects stand for "anything else": one shows a fixed text, the other
has no text form at all, so that printing it fails with a `Complaint`.

A dictionary keeps its entries in the order of first insertion. Keys that are numerically equal
are one key (`Value.sameKey`): writing under an existing key keeps the key and replaces the
value (`Value.insertEntry`).
-/

namespace ChatProbe

/-- A datum of any shape. -/
inductive Value where
  | null
  | bool (b : Bool)
  | int (i : Int)
  | float (x : Binary64)
  | str (s : Str)
  | bytes (bs : List UInt8)
  | list (xs : List Value)
  | tuple (xs : List Value)
  | dict (entries : List (Value × Value))
  | object (attributes : List (Str × Value))
  | plain (text : String)
  /-- An object that cannot be printed, with what an attempt to do so raises. -/
  | textless (complaint : Complaint)
deriving Repr, Inhabited

namespace Value

/-- The name of a value's type, as messages give it. -/
def typeName : Value → String
  | .null => "NoneType"
  | .bool _ => "bool"
  | .int _ => "int"
  | .float _ => "float"
  | .str _ => "str"
  | .bytes _ => "bytes"
  | .list _ => "list"
  | .tuple _ => "tuple"
  | .dict _ => "dict"
  | .object _ => "types.SimpleNamespace"
  | .plain _ => "Plain"
  | .textless _ => "Raising"

/-- Whether a value counts as true: nothing, zero and the empty do not. -/
def truthy : Value → Bool
  | .null => false
  | .bool b => b
  | .int i => i != 0
  | .float x => !x.isZero
  | .str s => !s.isEmpty
  | .bytes bs => !bs.isEmpty
  | .list xs | .tuple xs => !xs.isEmpty
  | .dict es => !es.isEmpty
  | .object _ | .plain _ | .textless _ => true

/-- Booleans and integers as integers. -/
def toInt? : Value → Option Int
  | .bool b => some (if b then 1 else 0)
  | .int i => some i
  | _ => none

/-- The text of a text value. -/
def toText? : Value → Option Str
  | .str s => some s
  | _ => none

/-- A number that equals an integer, as that integer. -/
def asInteger? : Value → Option Int
  | .float x => x.toInt?
  | v => v.toInt?

mutual

/-- Whether two values are the same key of a dictionary. -/
def sameKey : Value → Value → Bool
  | .null, .null => true
  | .str s, .str t => s == t
  | .bytes s, .bytes t => s == t
  | .tuple xs, .tuple ys => sameKeys xs ys
  | .float x, .float y => x.eqv y
  -- Numbers that are equal are one key, whatever their types.
  | v, w =>
    match v.asInteger?, w.asInteger? with
    | some i, some j => i == j
    | _, _ => false

/-- `sameKey` element by element. -/
def sameKeys : List Value → List Value → Bool
  | [], [] => true
  | x :: xs, y :: ys => sameKey x y && sameKeys xs ys
  | _, _ => false

end

mutual

/-- The type of the part that keeps a value from being a key: what can change is no key. -/
def unkeyable? : Value → Option String
  | .list _ => some "list"
  | .dict _ => some "dict"
  | .object fs => some (typeName (.object fs))
  | .tuple xs => anyUnkeyable? xs
  | _ => none

/-- `unkeyable?` of the first element that has one. -/
def anyUnkeyable? : List Value → Option String
  | [] => none
  | x :: xs => unkeyable? x <|> anyUnkeyable? xs

end

/-- The value under a key, by a test on keys. -/
def lookupEntry (p : Value → Bool) : List (Value × Value) → Option Value
  | [] => none
  | (k, v) :: es => if p k then some v else lookupEntry p es

/-- Write a value under a key: in place if the key is there, else at the end. -/
def insertEntry (k v : Value) : List (Value × Value) → List (Value × Value)
  | [] => [(k, v)]
  | (k', v') :: es => if sameKey k' k then (k', v) :: es else (k', v') :: insertEntry k v es

/-- The entries of a dictionary built entry by entry. -/
def entriesOf (entries : List (Value × Value)) : List (Value × Value) :=
  entries.foldl (fun es e => insertEntry e.1 e.2 es) []

/-- A dictionary built entry by entry. -/
def dictOf (entries : List (Value × Value)) : Value := .dict (entriesOf entries)

/-- A dictionary with text keys that are known to differ. -/
def dictOfFields (fields : List (Str × Value)) : Value :=
  .dict (fields.map fun f => (.str f.1, f.2))

/-- The attribute of an object. -/
def attribute? (v : Value) (name : Str) : Option Value :=
  match v with
  | .object attributes => attributes.lookup name
  | _ => none

/-- The entry of a dictionary under a text key. -/
def entry? (v : Value) (name : Str) : Option Value :=
  match v with
  | .dict entries => lookupEntry (sameKey (.str name)) entries
  | _ => none

/-- The named part of a value: a dictionary's entry or an object's attribute, and nothing where
there is none. -/
def field (v : Value) (name : Str) : Value :=
  match v with
  | .dict _ => (v.entry? name).getD .null
  | _ => (v.attribute? name).getD .null

@[simp] theorem field_null (name : Str) : field .null name = .null := rfl

@[simp] theorem field_list (xs : List Value) (name : Str) : field (.list xs) name = .null := rfl

@[simp] theorem field_str (s name : Str) : field (.str s) name = .null := rfl

end Value
end ChatProbe

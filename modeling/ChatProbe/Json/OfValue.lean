import ChatProbe.Failure.Basic
import ChatProbe.Json.Writer
/-!
# Values as JSON

`Value.toJson` turns a value into a document. Sequences become arrays and dictionaries objects;
a scalar key is written as text, any other key is refused; whatever JSON has no form for is
written as its text. An integer with too many digits is refused, as a key too. Entries whose keys
become the same text stay apart.
-/

namespace ChatProbe
namespace Value

/-- The text of a dictionary key. -/
def keyText : Value → Except Failure Str
  | .str s => .ok s
  | .null => .ok "null"
  | .bool b => .ok (if b then "true" else "false" : String)
  | .int i => ((intText i).mapError .unprintable).map .whole
  | .float x => .ok (FloatLayout.json.text x)
  | v => .error (.misuse (.keyNotText v.typeName))

mutual

/-- The document of a value. -/
def toJson : Value → Except Failure Json
  | .null => .ok .null
  | .bool b => .ok (.bool b)
  | .int i => ((intText i).mapError .unprintable).map fun _ => .int i
  | .float x => .ok (.float x)
  | .str s => .ok (.str s)
  | .list xs | .tuple xs => (toJsonList xs).map .array
  | .dict es => (toJsonMembers es).map .object
  | v => v.text.map .str

/-- `toJson` element by element. -/
def toJsonList : List Value → Except Failure (List Json)
  | [] => .ok []
  | x :: xs => do return (← toJson x) :: (← toJsonList xs)

/-- `toJson` entry by entry. -/
def toJsonMembers : List (Value × Value) → Except Failure (List (Str × Json))
  | [] => .ok []
  | (k, v) :: es => do
    -- The key is looked at before the value.
    let name ← keyText k
    return (name, ← toJson v) :: (← toJsonMembers es)

end

/-- The elements that a value gives when it is gone through. -/
def elements : Value → Except Failure (List Value)
  | .list xs | .tuple xs => .ok xs
  | .str s => .ok (s.points.map fun p => .str (.ofPoints [p]))
  | .bytes bs => .ok (bs.map fun b => .int b.toNat)
  | .dict es => .ok (es.map (·.1))
  | v => .error (.misuse (.notIterable v.typeName))

/-- Write pairs from a sequence of two-element sequences, counting from `index`. -/
def insertPairs (index : Nat) (entries : List (Value × Value)) :
    List Value → Except Failure (List (Value × Value))
  | [] => .ok entries
  | p :: ps =>
    match p.elements with
    | .error _ => .error (.misuse (.entryNotSequence index))
    -- Of a pair only the key can be refused.
    | .ok [k, v] =>
      match k.unkeyable? with
      | some type => .error (.misuse (.unhashable type))
      | none => insertPairs (index + 1) (insertEntry k v entries) ps
    | .ok xs => .error (.misuse (.entryLength index xs.length))

/-- Write all entries of a value over those already there: of a dictionary its entries, of any
other sequence its elements as pairs. -/
def updateEntries (entries : List (Value × Value)) : Value → Except Failure (List (Value × Value))
  | .dict es => .ok (es.foldl (fun acc e => insertEntry e.1 e.2 acc) entries)
  | v => v.elements >>= insertPairs 0 entries

/-- The length of a value. -/
def length : Value → Except Failure Nat
  | .str s => .ok s.length
  | .bytes bs => .ok bs.length
  | .list xs | .tuple xs => .ok xs.length
  | .dict es => .ok es.length
  | v => .error (.misuse (.noLength v.typeName))

end Value
end ChatProbe

import ChatProbe.Json.OfValue
import ChatProbe.Proofs.Json.RoundTrip
import ChatProbe.Proofs.Table
/-!
# Plain data

What a JSON text can hold without loss is `Plain`: null, truth values, integers that are not too long to
read, texts in which halves stand apart, and lists and dictionaries of plain data to any depth. A plain value has a document
(`Value.exists_toJson`), this document is exact, and the value that it stands for is the one that it was
made of.

Fields are data under names, and writing fields over others replaces what has the same name
(`Table.writeAll`). What then stands under a name is looked up in the new fields first
(`Table.lookup_writeAll_of_nodup`); updating a dictionary by another one does just this
(`Value.updateEntries_dictOfFields`).
-/

namespace ChatProbe
namespace Value

/-! ### Plain values and their documents -/

mutual

/-- Data that a JSON text holds without loss. The keys of a dictionary are texts, each of them once. -/
def Plain : Value → Prop
  | .null | .bool _ => True
  | .str s => s.Apart
  | .int i => (Nat.toDigits 10 i.natAbs).length ≤ 4300
  | .list xs => PlainElements xs
  | .dict es => (es.map (·.1)).Nodup ∧ PlainEntries es
  | _ => False

/-- `Plain` of every element. -/
def PlainElements : List Value → Prop
  | [] => True
  | x :: xs => Plain x ∧ PlainElements xs

/-- `Plain` of the value of every entry, under a text. -/
def PlainEntries : List (Value × Value) → Prop
  | [] => True
  | (k, v) :: es => (∃ name : Str, k = .str name ∧ name.Apart) ∧ Plain v ∧ PlainEntries es

end

/-- The keys of the dictionary that an object stands for are the names of its members. -/
theorem keys_toEntries (ms : List (Str × Json)) :
    (Json.toEntries ms).map (·.1) = (ms.map (·.1)).map Value.str := by
  induction ms with
  | nil => rfl
  | cons m ms ih =>
    obtain ⟨name, j⟩ := m
    rw [Json.toEntries, List.map_cons, ih]
    rfl

mutual

/-- **Plain data has a document**, which is exact and stands for it. -/
theorem exists_toJson : ∀ v : Value, v.Plain → ∃ j, v.toJson = .ok j ∧ j.Exact ∧ j.toValue = v := by
  intro v hv
  match v, hv with
  | .null, _ => exact ⟨.null, rfl, trivial, rfl⟩
  | .bool b, _ => exact ⟨.bool b, rfl, trivial, rfl⟩
  | .int i, hv =>
    rw [Plain] at hv
    refine ⟨.int i, ?_, hv, rfl⟩
    rw [toJson, intText_eq_ok (Digits.isLong_eq_false.mpr hv)]
    rfl
  | .str s, hv => exact ⟨.str s, rfl, hv, rfl⟩
  | .list xs, hv =>
    rw [Plain] at hv
    obtain ⟨js, hjs, hexact, hvalues⟩ := exists_toJsonList xs hv
    refine ⟨.array js, ?_, hexact, congrArg Value.list hvalues⟩
    rw [toJson, hjs]
    rfl
  | .dict es, hv =>
    rw [Plain] at hv
    obtain ⟨ms, hms, hexact, hentries⟩ := exists_toJsonMembers es hv.2
    -- The names of the members are those of the entries, so they differ as well.
    have hnames : (ms.map (·.1)).Nodup := by
      refine List.Nodup.of_map Value.str ?_
      rw [← keys_toEntries, hentries]
      exact hv.1
    refine ⟨.object ms, ?_, ⟨hnames, hexact⟩, congrArg Value.dict hentries⟩
    rw [toJson, hms]
    rfl

/-- Plain elements have exact documents, which stand for them. -/
theorem exists_toJsonList : ∀ xs : List Value, PlainElements xs →
    ∃ js, toJsonList xs = .ok js ∧ Json.ExactElements js ∧ Json.toValues js = xs := by
  intro xs hxs
  match xs, hxs with
  | [], _ => exact ⟨[], rfl, trivial, rfl⟩
  | x :: xs, hxs =>
    rw [PlainElements] at hxs
    obtain ⟨j, hj, hexact, hvalue⟩ := exists_toJson x hxs.1
    obtain ⟨js, hjs, hexacts, hvalues⟩ := exists_toJsonList xs hxs.2
    refine ⟨j :: js, ?_, ⟨hexact, hexacts⟩, ?_⟩
    · rw [toJsonList, hj, hjs]
      rfl
    · rw [Json.toValues, hvalue, hvalues]

/-- Plain entries have members with exact documents, which stand for them. -/
theorem exists_toJsonMembers : ∀ es : List (Value × Value), PlainEntries es →
    ∃ ms, toJsonMembers es = .ok ms ∧ Json.ExactMembers ms ∧ Json.toEntries ms = es := by
  intro es hes
  match es, hes with
  | [], _ => exact ⟨[], rfl, trivial, rfl⟩
  | (k, v) :: es, hes =>
    rw [PlainEntries] at hes
    -- A plain entry has a text as its key, which is the name of the member.
    obtain ⟨⟨name, rfl, hname⟩, hv, hes⟩ := hes
    obtain ⟨j, hj, hexact, hvalue⟩ := exists_toJson v hv
    obtain ⟨ms, hms, hexacts, hentries⟩ := exists_toJsonMembers es hes
    refine ⟨(name, j) :: ms, ?_, ⟨hname, hexact, hexacts⟩, ?_⟩
    · rw [toJsonMembers, hj, hms]
      rfl
    · rw [Json.toEntries, hvalue, hentries]

end

/-! ### Fields -/

/-- The entry of a dictionary that a field is. -/
def entryOf (f : Str × Value) : Value × Value := (.str f.1, f.2)

variable {base fs : List (Str × Value)} {name : Str} {v : Value}

theorem sameKey_str (s t : Str) : sameKey (.str s) (.str t) = (s == t) := by
  rw [sameKey]

theorem insertEntry_entryOf (name : Str) (v : Value) (fs : List (Str × Value)) :
    insertEntry (.str name) v (fs.map entryOf) = (Table.write name v fs).map entryOf := by
  induction fs with
  | nil => rfl
  | cons f fs ih =>
    obtain ⟨name', v'⟩ := f
    rw [List.map_cons, entryOf, insertEntry, sameKey_str, Table.write]
    -- Keys that are texts are one key where the texts are one.
    by_cases h : name' = name
    · rw [if_pos (beq_iff_eq.mpr h), if_pos h]
      rfl
    · rw [if_neg (fun hsame => h (beq_iff_eq.mp hsame)), if_neg h, ih]
      rfl

/-- **Updating** a dictionary of fields by another one writes the fields over. -/
theorem updateEntries_dictOfFields (base fs : List (Str × Value)) :
    updateEntries (base.map entryOf) (dictOfFields fs) = .ok ((Table.writeAll base fs).map entryOf) := by
  show Except.ok ((fs.map entryOf).foldl (fun acc e => insertEntry e.1 e.2 acc) (base.map entryOf)) = _
  -- Each entry is inserted as its field is written.
  congr 1
  induction fs generalizing base with
  | nil => rfl
  | cons f fs ih =>
    rw [List.map_cons, List.foldl_cons]
    show (fs.map entryOf).foldl _ (insertEntry (.str f.1) f.2 (base.map entryOf)) = _
    rw [insertEntry_entryOf, ih]
    rfl

end Value
end ChatProbe

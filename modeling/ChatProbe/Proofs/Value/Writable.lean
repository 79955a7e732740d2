import ChatProbe.Proofs.Json.Written
import ChatProbe.Proofs.Outcome
import ChatProbe.Proofs.Value.Plain
/-!
# Which values are written as JSON

A value can be kept from a JSON text in two ways, and neither is a matter of its own text.

* A dictionary in it has a key that is no scalar, which the name of a member cannot be made of. Then
  nothing is written. Where all keys are scalars (`Value.named`), and everything has a text, there is a
  document (`Value.isOk_toJson`).
* An infinity or a NaN stands in it, not as a key. Then there is a document, but what is written of it
  is outside the grammar. Where there is none (`Value.finite`), the document has none
  (`Value.hasSpecialFloat_toJson`).

Lists, tuples and dictionaries are gone through to any depth. Anything else that is no scalar is written as
its text, so its parts do not matter.
-/

namespace ChatProbe
namespace Value

/-- Whether a key can be the name of a member. -/
def isName : Value → Bool
  | .null | .bool _ | .int _ | .float _ | .str _ => true
  | _ => false

mutual

/-- Whether every key in a value can be the name of a member. -/
def named : Value → Bool
  | .list xs | .tuple xs => namedElements xs
  | .dict es => namedEntries es
  | _ => true

/-- `named` of every element. -/
def namedElements : List Value → Bool
  | [] => true
  | x :: xs => named x && namedElements xs

/-- `named` of every entry, its key among the names. -/
def namedEntries : List (Value × Value) → Bool
  | [] => true
  | (k, v) :: es => isName k && named v && namedEntries es

end

mutual

/-- Whether no infinity and no NaN stands in a value, keys apart. -/
def finite : Value → Bool
  | .float (.finite ..) => true
  | .float _ => false
  | .list xs | .tuple xs => finiteElements xs
  | .dict es => finiteEntries es
  | _ => true

/-- `finite` of every element. -/
def finiteElements : List Value → Bool
  | [] => true
  | x :: xs => finite x && finiteElements xs

/-- `finite` of the value of every entry. -/
def finiteEntries : List (Value × Value) → Bool
  | [] => true
  | (_, v) :: es => finite v && finiteEntries es

end

/-! ### Having a document -/

/-- A key that has a text is refused only for what it is. -/
theorem isOk_keyText {k : Value} (hk : k.literal.isOk = true) : k.keyText.isOk = k.isName := by
  cases k with
  | int i =>
    rw [keyText, Outcome.isOk_map, Outcome.isOk_mapError]
    exact hk
  | _ => rfl

/-- A value has a text just where printing it succeeds. -/
theorem isSome_text? (v : Value) : v.text?.isSome = v.print.isOk := by
  rw [text?]
  cases v.print with
  | error c => rfl
  | ok t => rfl

theorem isOk_print (v : Value) : v.print.isOk = v.literal.isOk := by
  cases v with
  | str s => rfl
  | _ => simp only [print, Outcome.isOk_map]

/-- What JSON has no form for is written as its text. -/
theorem isOk_text {v : Value} (h : v.text?.isSome = true) : v.text.isOk = true := by
  rw [isSome_text?] at h
  obtain ⟨t, ht⟩ := Outcome.isOk_iff.mp h
  rw [text, ht]
  rfl

theorem isOk_literals_cons {x : Value} {xs : List Value} (h : (literals (x :: xs)).isOk = true) :
    x.literal.isOk = true ∧ (literals xs).isOk = true := by
  obtain ⟨ts, hts⟩ := Outcome.isOk_iff.mp h
  obtain ⟨t, ht, hts⟩ := Outcome.bind_eq_ok.mp hts
  obtain ⟨ts', hts', -⟩ := Outcome.bind_eq_ok.mp hts
  exact ⟨Outcome.isOk_iff.mpr ⟨t, ht⟩, Outcome.isOk_iff.mpr ⟨ts', hts'⟩⟩

theorem isOk_entryLiterals_cons {k v : Value} {es : List (Value × Value)}
    (h : (entryLiterals ((k, v) :: es)).isOk = true) :
    k.literal.isOk = true ∧ v.literal.isOk = true ∧ (entryLiterals es).isOk = true := by
  obtain ⟨ts, hts⟩ := Outcome.isOk_iff.mp h
  obtain ⟨s, hs, hts⟩ := Outcome.bind_eq_ok.mp hts
  obtain ⟨t, ht, hts⟩ := Outcome.bind_eq_ok.mp hts
  obtain ⟨ts', hts', -⟩ := Outcome.bind_eq_ok.mp hts
  exact ⟨Outcome.isOk_iff.mpr ⟨s, hs⟩, Outcome.isOk_iff.mpr ⟨t, ht⟩, Outcome.isOk_iff.mpr ⟨ts', hts'⟩⟩

/-- A member is made of a key and a value, and both can be refused. -/
theorem isOk_toJsonMembers_cons (k v : Value) (es : List (Value × Value)) :
    (toJsonMembers ((k, v) :: es)).isOk = (k.keyText.isOk && v.toJson.isOk && (toJsonMembers es).isOk) := by
  rw [toJsonMembers]
  -- Key, value, rest: whatever comes first decides on the failure, but not on whether there is one.
  cases k.keyText with
  | error e => rfl
  | ok name =>
    cases v.toJson with
    | error e => rfl
    | ok j =>
      cases toJsonMembers es with
      | error e => rfl
      | ok ms => rfl

mutual

/-- **A value has a document** just where every key in it can be a name. -/
theorem isOk_toJson : ∀ v : Value, v.literal.isOk = true → v.toJson.isOk = v.named := by
  intro v hv
  match v, hv with
  | .null, _ | .bool _, _ | .float _, _ | .str _, _ | .bytes _, _ | .plain _, _ => rfl
  | .textless c, hv => cases hv
  -- An integer has a text just where it has digits to be written.
  | .int i, hv =>
    rw [toJson, Outcome.isOk_map, Outcome.isOk_mapError]
    exact hv
  | .list xs, hv =>
    rw [literal, Outcome.isOk_map] at hv
    rw [toJson, Outcome.isOk_map, named]
    exact isOk_toJsonList xs hv
  | .tuple xs, hv =>
    rw [literal, Outcome.isOk_map] at hv
    rw [toJson, Outcome.isOk_map, named]
    exact isOk_toJsonList xs hv
  | .dict es, hv =>
    rw [literal, Outcome.isOk_map] at hv
    rw [toJson, Outcome.isOk_map, named]
    exact isOk_toJsonMembers es hv
  | .object fs, hv =>
    -- An object is written as its text.
    show ((Value.object fs).text.map Json.str).isOk = true
    rw [Outcome.isOk_map]
    exact isOk_text ((isSome_text? _).trans ((isOk_print _).trans hv))

theorem isOk_toJsonList : ∀ xs : List Value, (literals xs).isOk = true →
    (toJsonList xs).isOk = namedElements xs := by
  intro xs hxs
  match xs, hxs with
  | [], _ => rfl
  | x :: xs, hxs =>
    obtain ⟨hx, hxs⟩ := isOk_literals_cons hxs
    rw [toJsonList, Outcome.isOk_cons, isOk_toJson x hx, isOk_toJsonList xs hxs, namedElements]

theorem isOk_toJsonMembers : ∀ es : List (Value × Value), (entryLiterals es).isOk = true →
    (toJsonMembers es).isOk = namedEntries es := by
  intro es hes
  match es, hes with
  | [], _ => rfl
  | (k, v) :: es, hes =>
    obtain ⟨hk, hv, hes⟩ := isOk_entryLiterals_cons hes
    rw [isOk_toJsonMembers_cons, isOk_keyText hk, isOk_toJson v hv, isOk_toJsonMembers es hes, namedEntries]

end

/-! ### Special numbers in the document -/

/-- The parts of a member. -/
theorem toJsonMembers_cons_eq_ok {k v : Value} {es : List (Value × Value)}
    {members : List (Str × Json)} :
    toJsonMembers ((k, v) :: es) = .ok members ↔ ∃ name j ms, k.keyText = .ok name
      ∧ v.toJson = .ok j ∧ toJsonMembers es = .ok ms ∧ members = (name, j) :: ms := by
  rw [toJsonMembers]
  constructor
  · intro h
    -- The three steps in the order in which they are made.
    obtain ⟨name, hname, h⟩ := Outcome.bind_eq_ok.mp h
    obtain ⟨j, hj, h⟩ := Outcome.bind_eq_ok.mp h
    obtain ⟨ms, hms, h⟩ := Outcome.bind_eq_ok.mp h
    cases h
    exact ⟨name, j, ms, hname, hj, hms, rfl⟩
  · rintro ⟨name, j, ms, hname, hj, hms, rfl⟩
    rw [hname, hj, hms]
    rfl

mutual

/-- **The document** of a value has a special number just where the value does. -/
theorem hasSpecialFloat_toJson : ∀ (v : Value) (j : Json), v.toJson = .ok j →
    j.hasSpecialFloat = !v.finite := by
  intro v j hj
  -- What is written as its text becomes a string.
  have htext : ∀ w : Value, w.text.map Json.str = .ok j → j.hasSpecialFloat = false := by
    intro w hw
    obtain ⟨s, -, rfl⟩ := Outcome.map_eq_ok.mp hw
    rfl
  match v, hj with
  | .null, hj | .bool _, hj | .str _, hj =>
    cases hj
    rfl
  | .int i, hj =>
    rw [toJson] at hj
    obtain ⟨digits, -, rfl⟩ := Outcome.map_eq_ok.mp hj
    rfl
  | .float x, hj =>
    cases hj
    cases x <;> rfl
  | .list xs, hj =>
    rw [toJson] at hj
    obtain ⟨js, hjs, rfl⟩ := Outcome.map_eq_ok.mp hj
    rw [Json.hasSpecialFloat, finite]
    exact anySpecialFloat_toJsonList xs js hjs
  | .tuple xs, hj =>
    rw [toJson] at hj
    obtain ⟨js, hjs, rfl⟩ := Outcome.map_eq_ok.mp hj
    rw [Json.hasSpecialFloat, finite]
    exact anySpecialFloat_toJsonList xs js hjs
  | .dict es, hj =>
    rw [toJson] at hj
    obtain ⟨ms, hms, rfl⟩ := Outcome.map_eq_ok.mp hj
    rw [Json.hasSpecialFloat, finite]
    exact anyMemberSpecialFloat_toJsonMembers es ms hms
  | .bytes bs, hj => exact htext (.bytes bs) hj
  | .object fs, hj => exact htext (.object fs) hj
  | .plain t, hj => exact htext (.plain t) hj
  | .textless c, hj => exact htext (.textless c) hj

theorem anySpecialFloat_toJsonList : ∀ (xs : List Value) (js : List Json),
    toJsonList xs = .ok js → Json.anySpecialFloat js = !finiteElements xs := by
  intro xs js hjs
  match xs, hjs with
  | [], hjs =>
    cases hjs
    rfl
  | x :: xs, hjs =>
    rw [toJsonList] at hjs
    obtain ⟨j, hj, hjs⟩ := Outcome.bind_eq_ok.mp hjs
    obtain ⟨js', hjs', hjs⟩ := Outcome.bind_eq_ok.mp hjs
    cases hjs
    rw [Json.anySpecialFloat, hasSpecialFloat_toJson x j hj, anySpecialFloat_toJsonList xs js' hjs',
      finiteElements, Bool.not_and]

theorem anyMemberSpecialFloat_toJsonMembers : ∀ (es : List (Value × Value))
    (ms : List (Str × Json)), toJsonMembers es = .ok ms →
      Json.anyMemberSpecialFloat ms = !finiteEntries es := by
  intro es ms hms
  match es, hms with
  | [], hms =>
    cases hms
    rfl
  | (k, v) :: es, hms =>
    -- A key becomes a name, and a name is never a number.
    obtain ⟨name, j, ms', -, hj, hms', rfl⟩ := toJsonMembers_cons_eq_ok.mp hms
    rw [Json.anyMemberSpecialFloat, hasSpecialFloat_toJson v j hj,
      anyMemberSpecialFloat_toJsonMembers es ms' hms', finiteEntries, Bool.not_and]

end

/-! ### Fields -/

variable {base fs : List (Str × Value)}

/-- Fields with a text are entries with a text. -/
theorem isOk_entryLiterals_fields (h : ∀ f ∈ fs, f.2.text?.isSome = true) :
    (entryLiterals (fs.map entryOf)).isOk = true := by
  induction fs with
  | nil => rfl
  | cons f fs ih =>
    rw [List.forall_mem_cons, isSome_text?, isOk_print] at h
    obtain ⟨t, ht⟩ := Outcome.isOk_iff.mp h.1
    obtain ⟨ts, hts⟩ := Outcome.isOk_iff.mp (ih h.2)
    rw [List.map_cons, entryOf, entryLiterals, literal, ht, hts]
    rfl

theorem namedEntries_fields : namedEntries (fs.map entryOf) = true ↔ ∀ f ∈ fs, f.2.named = true := by
  induction fs with
  | nil => simp [namedEntries]
  | cons f fs ih =>
    rw [List.forall_mem_cons, ← ih, List.map_cons, entryOf, namedEntries, isName, Bool.true_and,
      Bool.and_eq_true]

theorem finiteEntries_fields :
    finiteEntries (fs.map entryOf) = true ↔ ∀ f ∈ fs, f.2.finite = true := by
  induction fs with
  | nil => simp [finiteEntries]
  | cons f fs ih =>
    rw [List.forall_mem_cons, ← ih, List.map_cons, entryOf, finiteEntries, Bool.and_eq_true]

end Value
end ChatProbe

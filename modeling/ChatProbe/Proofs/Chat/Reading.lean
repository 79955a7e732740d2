import ChatProbe.Chat.Exchange
import ChatProbe.Proofs.Json.Members
import ChatProbe.Proofs.Outcome
import ChatProbe.Proofs.Table
import ChatProbe.Proofs.Value.Writable
/-!
# How responses are read

A document is read leniently, and this module says what that comes to. Reading an object fails for
one reason only: the object writes where the reader writes (`Response.clashes`). Such a **clash**
spoils the whole document wherever an object with known parts is read, and `documentClash` looks
for one in all those places, so that

* `Response.isOk_ofJson`: a document is read exactly where it has no clash;
* `Response.firstChoiceContent_ofJson`: of a document that is read, the probe sees the content
  of the first choice (`Response.writtenContent`) and nothing else;
* `Json.isOk_print_toValue` and `Response.isOk_print_content`: what was a document can be printed,
  and so can the content that the probe sees of a response.

The parts of an object are found again by their names (`lookup_readParts`), which is all that is
known about the known parts and all that is needed.
-/

namespace ChatProbe

/-! ### The text of documents -/

namespace Json

mutual

theorem isOk_literal_toValue : ∀ j : Json, j.WellFormed → j.toValue.literal.isOk = true
  | .null, _ | .bool _, _ | .float _, _ | .str _, _ => rfl
  | .int i, h => by
    rw [toValue, Value.literal, Value.intText_eq_ok h]
    rfl
  | .array xs, h => by
    rw [toValue, Value.literal, Outcome.isOk_map]
    exact isOk_literals_toValues xs h
  | .object ms, h => by
    rw [toValue, Value.literal, Outcome.isOk_map]
    exact isOk_entryLiterals_toEntries ms h.2

theorem isOk_literals_toValues : ∀ xs : List Json, WellFormedElements xs →
    (Value.literals (toValues xs)).isOk = true
  | [], _ => rfl
  | x :: xs, h => by
    obtain ⟨t, ht⟩ := Outcome.isOk_iff.mp (isOk_literal_toValue x h.1)
    obtain ⟨ts, hts⟩ := Outcome.isOk_iff.mp (isOk_literals_toValues xs h.2)
    rw [toValues, Value.literals, ht, hts]
    rfl

theorem isOk_entryLiterals_toEntries : ∀ ms : List (Str × Json), WellFormedMembers ms →
    (Value.entryLiterals (toEntries ms)).isOk = true
  | [], _ => rfl
  | (name, j) :: ms, h => by
    obtain ⟨t, ht⟩ := Outcome.isOk_iff.mp (isOk_literal_toValue j h.1)
    obtain ⟨ts, hts⟩ := Outcome.isOk_iff.mp (isOk_entryLiterals_toEntries ms h.2)
    rw [toEntries, Value.entryLiterals, ht, hts]
    rfl

end

/-- Whatever stands in a document that was read can be printed. -/
theorem isOk_print_toValue {j : Json} (h : j.WellFormed) : j.toValue.print.isOk = true :=
  (Value.isOk_print _).trans (isOk_literal_toValue j h)

/-- Bytes are read as the text that they hold is. -/
theorem readBytes_of_text {bytes : List UInt8} {j : Json} (s : String)
    (hs : (pointsOfBytes bytes).toOption = some (s.toList.map .char)) (hj : read s = .ok j) :
    readBytes bytes = .ok j := by
  have hpoints : pointsOfBytes bytes = .ok (s.toList.map .char) := by
    -- The hypothesis is stated with an option, so that it can be computed.
    cases hpoints : pointsOfBytes bytes with
    | error e =>
      rw [hpoints] at hs
      cases hs
    | ok points =>
      rw [hpoints] at hs
      exact congrArg Except.ok (Option.some.inj hs)
  rw [readBytes, hpoints]
  show (read s).mapError ByteFault.json = .ok j
  rw [hj]
  rfl

end Json

namespace Chat
namespace Response

/-! ### Clashes -/

/-- Whether an object writes something where the reader keeps which parts are present. -/
def spoilsRecord (ms : List (Str × Json)) : Bool :=
  match ms.lookup ↑presenceKey with
  | none | some .null => false
  | some _ => true

/-- Whether an object writes where its reader writes: under the key that the reader binds, or
under that of its record while the record is in use. -/
def clashes (parts : List Part) (ms : List (Str × Json)) : Bool :=
  (ms.lookup ↑classKey).isSome
    || (spoilsRecord ms && parts.any fun p => (ms.lookup ↑p.name).isSome)

/-- Whether an object that is read as one, or some object of a list that is read so, has a clash. -/
def clashAs (objectClash : List (Str × Json) → Bool) : Json → Bool
  | .object ms => objectClash ms
  | .array js => js.any fun
    | .object ms => objectClash ms
    | _ => false
  | _ => false

/-- Whether what stands in the place of a message has a clash. -/
def messageClash : Json → Bool := clashAs (clashes messageParts)

/-- Whether what stands in the place of a choice has a clash, its message included. -/
def choiceClash : Json → Bool :=
  clashAs fun ms => clashes choiceParts ms || (ms.lookup ↑"message").any messageClash

/-- Whether what stands in the place of the choices has a clash. -/
def choicesClash : Json → Bool
  | .array js => js.any choiceClash
  | _ => false

/-- Whether a document has a clash. -/
def documentClash (ms : List (Str × Json)) : Bool :=
  clashes completionParts ms || (ms.lookup ↑"choices").any choicesClash

/-! ### Parts -/

/-- A part as it is read from an object: nothing where the member is missing. -/
def Part.readOptional (p : Part) : Option Json → Except Failure Value
  | none => .ok .null
  | some j => p.readPresent j

/-- A reader for which null is nothing reads every member that is there. -/
theorem Part.readPresent_eq {p : Part} (h : p.read .null = .ok .null) (j : Json) :
    p.readPresent j = p.read j := by
  cases j with
  | null => exact h.symm
  | bool | int | float | str | array | object => rfl

variable {record : Json} {ms : List (Str × Json)} {parts : List Part}

/-- **One part.** The parts are read one after the other, each with its note in the record. -/
theorem readParts_cons (p : Part) (ps : List Part) :
    readParts record ms (p :: ps) = do
      let v ← p.readOptional (ms.lookup ↑p.name)
      if (ms.lookup ↑p.name).isSome then notePresence record
      return (p.name, v) :: (← readParts record ms ps) := by
  rw [readParts]
  cases ms.lookup (.whole p.name) with
  | none => rfl
  | some j => rfl

theorem notePresence_eq_ok {u : Unit} : notePresence record = .ok u ↔ record = .null := by
  cases record <;> simp [notePresence]

/-- What the parts of an object are read as, part by part. -/
theorem readParts_eq_ok_cons {p : Part} {ps : List Part} {known : List (Str × Value)} :
    readParts record ms (p :: ps) = .ok known ↔
      ∃ v rest, p.readOptional (ms.lookup ↑p.name) = .ok v
        ∧ ((ms.lookup ↑p.name).isSome = true → record = .null)
        ∧ readParts record ms ps = .ok rest ∧ known = (↑p.name, v) :: rest := by
  rw [readParts_cons, Outcome.bind_eq_ok]
  -- A part that is there is noted as present, which the record of another part by this name prevents.
  cases hm : (ms.lookup (.whole p.name)).isSome with
  | false =>
    simp only [Bool.false_eq_true, if_false, false_implies, true_and,
      Outcome.bind_eq_ok]
    constructor
    · rintro ⟨v, hv, rest, hrest, hk⟩
      exact ⟨v, rest, hv, hrest, (Except.ok.inj hk).symm⟩
    · rintro ⟨v, rest, hv, hrest, rfl⟩
      exact ⟨v, hv, rest, hrest, rfl⟩
  | true =>
    simp only [if_true, true_implies, Outcome.bind_eq_ok, notePresence_eq_ok]
    constructor
    · rintro ⟨v, hv, -, hrecord, rest, hrest, hk⟩
      exact ⟨v, rest, hv, hrecord, hrest, (Except.ok.inj hk).symm⟩
    · rintro ⟨v, rest, hv, hrecord, hrest, rfl⟩
      exact ⟨v, hv, (), hrecord, rest, hrest, rfl⟩

/-- The parts of an object can be read where each can be read for itself, unless the record is in
use and spoiled. -/
theorem isOk_readParts :
    (readParts record ms parts).isOk = true ↔
      ∀ p ∈ parts, (p.readOptional (ms.lookup ↑p.name)).isOk = true
        ∧ ((ms.lookup ↑p.name).isSome = true → record = .null) := by
  -- The record stays the same over the induction: a note is either possible or not.
  induction parts with
  | nil => simp [readParts]
  | cons p ps ih =>
    rw [List.forall_mem_cons, ← ih]
    simp only [Outcome.isOk_iff, readParts_eq_ok_cons]
    constructor
    · rintro ⟨-, v, rest, hv, hrecord, hrest, rfl⟩
      exact ⟨⟨⟨v, hv⟩, hrecord⟩, rest, hrest⟩
    · rintro ⟨⟨⟨v, hv⟩, hrecord⟩, rest, hrest⟩
      exact ⟨_, v, rest, hv, hrecord, hrest, rfl⟩

/-- The parts that were read are found again by their names. -/
theorem lookup_readParts {name : String} {p : Part} {known : List (Str × Value)}
    (h : readParts record ms parts = .ok known)
    (hp : parts.find? (fun q => name == q.name) = some p) :
    ∃ v, p.readOptional (ms.lookup ↑name) = .ok v ∧ known.lookup ↑name = some v := by
  induction parts generalizing known with
  | nil => cases hp
  | cons q qs ih =>
    obtain ⟨v, rest, hv, -, hrest, rfl⟩ := readParts_eq_ok_cons.mp h
    cases hq : name == q.name with
    | true =>
      -- The part that is looked for is the first one, whose value was put in front.
      rw [List.find?_cons, hq] at hp
      cases hp
      rw [eq_of_beq hq]
      exact ⟨v, hv, List.lookup_cons_self⟩
    | false =>
      rw [List.find?_cons, hq] at hp
      obtain ⟨w, hw, hlook⟩ := ih hrest hp
      refine ⟨w, hw, ?_⟩
      rw [List.lookup_cons, Str.whole_beq_whole, hq]
      exact hlook

/-! ### Objects -/

/-- The record as an object leaves it, and whether it is spoiled. -/
theorem getD_presenceKey_eq_null :
    (ms.lookup ↑presenceKey).getD .null = .null ↔ spoilsRecord ms = false := by
  unfold spoilsRecord
  rcases ms.lookup (Str.whole presenceKey) with _ | j
  · simp
  · cases j <;> simp

/-- **Objects.** An object is read where it has no clash and its parts can be read. -/
theorem isOk_readObject (hnames : ∀ p ∈ parts, Str.whole p.name ≠ presenceKey) :
    (readObject parts ms).isOk = true ↔
      clashes parts ms = false
        ∧ ∀ p ∈ parts, (p.readOptional (ms.lookup ↑p.name)).isOk = true := by
  unfold readObject clashes
  cases hclass : (ms.lookup (.whole classKey)).isSome with
  | true => simp
  | false =>
    simp only [Bool.false_eq_true, if_false, Outcome.isOk_map, isOk_readParts, Bool.false_or,
      getD_presenceKey_eq_null, Bool.and_eq_false_imp, List.any_eq_false]
    -- The parts are read from the members without the record, which hides no part: `hnames`.
    constructor
    · intro h
      refine ⟨fun hspoils p hp hpresent => ?_, fun p hp => ?_⟩
      · rw [← Table.lookup_filter_ne (hnames p hp)] at hpresent
        rw [(h p hp).2 hpresent] at hspoils
        cases hspoils
      · rw [← Table.lookup_filter_ne (hnames p hp)]
        exact (h p hp).1
    · rintro ⟨hrecord, hread⟩ p hp
      rw [Table.lookup_filter_ne (hnames p hp)]
      refine ⟨hread p hp, fun hpresent => ?_⟩
      cases hspoils : spoilsRecord ms with
      | false => rfl
      | true => exact absurd hpresent (hrecord hspoils p hp)

/-- The known parts of an object that was read. -/
theorem attribute?_readObject {p : Part} {v : Value} (name : String)
    (h : readObject parts ms = .ok v) (hname : Str.whole name ≠ presenceKey)
    (hp : parts.find? (fun q => name == q.name) = some p) :
    ∃ x, p.readOptional (ms.lookup ↑name) = .ok x ∧ v.attribute? name = some x := by
  unfold readObject at h
  split at h
  · cases h
  · obtain ⟨known, hknown, rfl⟩ := Outcome.map_eq_ok.mp h
    obtain ⟨x, hx, hlook⟩ := lookup_readParts hknown hp
    rw [Table.lookup_filter_ne hname] at hx
    refine ⟨x, hx, ?_⟩
    -- The known parts stand before the unknown members.
    show (known ++ _).lookup ↑name = some x
    rw [List.lookup_append, hlook]
    rfl

/-! ### Documents -/

/-- A part that is taken as it is; null and a missing member are both nothing. -/
theorem readOptional_raw (name : String) (j? : Option Json) :
    (Part.raw name).readOptional j? = .ok (j?.getD .null).toValue := by
  rcases j? with _ | j
  · rfl
  · exact Part.readPresent_eq rfl j

theorem isOk_raw (name : String) (j? : Option Json) :
    ((Part.raw name).readOptional j?).isOk = true := by
  rw [readOptional_raw]
  rfl

/-- A part that may be missing has the clashes of its reader. -/
theorem isOk_readOptional {p : Part} (clash : Json → Bool)
    (h : ∀ j, (p.read j).isOk = !clash j) (hnull : p.read .null = .ok .null) (j? : Option Json) :
    (p.readOptional j?).isOk = !j?.any clash := by
  rcases j? with _ | j
  · rfl
  · rw [Option.any_some, ← h, ← Part.readPresent_eq hnull]
    rfl

/-- A list is read where its objects are. -/
theorem isOk_readElements {objectClash : List (Str × Json) → Bool}
    (h : ∀ ms, (readObject parts ms).isOk = !objectClash ms) (js : List Json) :
    (readElements parts js).isOk = !clashAs objectClash (.array js) := by
  induction js with
  | nil => rfl
  | cons j js ih =>
    rw [clashAs, List.any_cons, Bool.not_or]
    cases j with
    | object ms =>
      rw [readElements, Outcome.isOk_cons, h, ih]
      rfl
    | null | bool | int | float | str | array =>
      -- What is no object is taken as it is.
      refine (Outcome.isOk_cons (x := .ok _)).trans ?_
      rw [ih]
      rfl

theorem isOk_readAs {objectClash : List (Str × Json) → Bool}
    (h : ∀ ms, (readObject parts ms).isOk = !objectClash ms) (j : Json) :
    (readAs parts j).isOk = !clashAs objectClash j := by
  cases j with
  | object ms => exact h ms
  | array js => rw [readAs, Outcome.isOk_map, isOk_readElements h]
  | null | bool | int | float | str => rfl

/-- Messages are read where they have no clash. -/
theorem isOk_readMessage (j : Json) : (readAs messageParts j).isOk = !messageClash j := by
  refine isOk_readAs (fun ms => ?_) j
  rw [Bool.eq_iff_iff, isOk_readObject (by decide), Bool.not_eq_true']
  refine and_iff_left fun p hp => ?_
  simp only [messageParts, List.mem_cons, List.not_mem_nil, or_false] at hp
  rcases hp with rfl | rfl | rfl | rfl | rfl | rfl | rfl <;> exact isOk_raw _ _

/-- Choices are read where neither they nor their messages have a clash. -/
theorem isOk_readChoice (j : Json) : (readAs choiceParts j).isOk = !choiceClash j := by
  refine isOk_readAs (fun ms => ?_) j
  rw [Bool.eq_iff_iff, isOk_readObject (by decide), Bool.not_eq_true', Bool.or_eq_false_iff]
  refine and_congr_right fun _ => ?_
  simp only [choiceParts, List.forall_mem_cons, isOk_raw, true_and]
  rw [isOk_readOptional messageClash isOk_readMessage rfl]
  simp

theorem isOk_readChoices (j : Json) : (readChoices j).isOk = !choicesClash j := by
  cases j with
  | array js =>
    rw [readChoices, Outcome.isOk_map, Outcome.isOk_mapM, choicesClash, List.not_any_eq_all_not]
    simp only [isOk_readChoice]
  | null | bool | int | float | str | object => rfl

/-- **Reading a document** succeeds where the document has no clash. -/
theorem isOk_ofJson (ms : List (Str × Json)) :
    (ofJson (.object ms)).isOk = !documentClash ms := by
  show (readObject completionParts ms).isOk = _
  rw [Bool.eq_iff_iff, isOk_readObject (by decide), Bool.not_eq_true', documentClash,
    Bool.or_eq_false_iff]
  refine and_congr_right fun _ => ?_
  -- Of the parts, the choices and the usage have readers of their own, and only choices can clash.
  simp only [completionParts, List.forall_mem_cons, isOk_raw, true_and]
  rw [isOk_readOptional choicesClash isOk_readChoices rfl,
    isOk_readOptional (fun _ => false) (fun _ => rfl) rfl]
  simp

/-! ### The content of the first choice -/

/-- The content that a choice has: that of its message, both being objects; otherwise null. -/
def contentOf (choice : Json) : Json :=
  (((choice.member? "message").bind (·.member? "content")).getD .null)

/-- The content of the first choice of a document, null where any part of the way is missing. -/
def writtenContent (ms : List (Str × Json)) : Json :=
  match ms.lookup ↑"choices" with
  | some (.array (choice :: _)) => contentOf choice
  | _ => .null

theorem wellFormed_contentOf {choice : Json} (h : choice.WellFormed) : (contentOf choice).WellFormed := by
  unfold contentOf
  cases hcontent : (choice.member? "message").bind (·.member? "content") with
  | none => trivial
  | some content =>
    obtain ⟨message, hmessage, hcontent⟩ := Option.bind_eq_some_iff.mp hcontent
    exact Json.wellFormed_member? (Json.wellFormed_member? h hmessage) hcontent

theorem wellFormed_writtenContent (h : Json.WellFormedMembers ms) : (writtenContent ms).WellFormed := by
  unfold writtenContent
  split
  · next hchoices => exact wellFormed_contentOf (Json.wellFormed_of_lookup h hchoices).1
  · trivial

/-- Whether the choices of a document are missing, null or a list. -/
def hasChoiceList (ms : List (Str × Json)) : Bool :=
  match ms.lookup ↑"choices" with
  | none | some .null | some (.array _) => true
  | some _ => false

/-- What a value that was read as no object has as a part: nothing. -/
theorem field_of_attribute? {v x : Value} {name : String} (h : v.attribute? name = some x) :
    v.field name = x := by
  cases v with
  | object attributes =>
    show ((Value.object attributes).attribute? name).getD .null = x
    rw [h]
    rfl
  | _ => cases h

/-- The content of a message as it was read. -/
theorem field_content_readMessage {j : Json} {m : Value} (h : readAs messageParts j = .ok m) :
    m.field "content" = ((j.member? "content").getD .null).toValue := by
  cases j with
  | object ms =>
    obtain ⟨x, hx, hattr⟩ :=
      attribute?_readObject (p := .raw "content") "content" h (by decide) rfl
    rw [readOptional_raw] at hx
    cases hx
    exact field_of_attribute? hattr
  | array js =>
    -- A list in the place of a message is read, but has no parts.
    obtain ⟨xs, -, rfl⟩ := Outcome.map_eq_ok.mp h
    rfl
  | null | bool | int | float | str => cases h; rfl

/-- The content of a choice as it was read. -/
theorem field_content_readChoice {j : Json} {c : Value} (h : readAs choiceParts j = .ok c) :
    (c.field "message").field "content" = (contentOf j).toValue := by
  cases j with
  | object ms =>
    obtain ⟨m, hm, hattr⟩ :=
      attribute?_readObject (p := ⟨"message", readAs messageParts⟩) "message" h (by decide) rfl
    have hmember : (Json.object ms).member? "message" = ms.lookup ↑"message" := rfl
    rw [field_of_attribute? hattr, contentOf, hmember]
    rcases hj : ms.lookup (Str.whole "message") with _ | j
    · rw [hj] at hm
      cases hm
      rfl
    · rw [hj] at hm
      exact field_content_readMessage ((Part.readPresent_eq rfl j).symm.trans hm)
  -- A list in the place of the choice is read element by element and has no fields.
  | array js =>
    obtain ⟨xs, -, rfl⟩ := Outcome.map_eq_ok.mp h
    rfl
  | null | bool | int | float | str => cases h; rfl

/-- **The choices that the probe sees.** Choices that are missing or null are nothing, and a list is
read choice by choice. -/
theorem field_choices_ofJson {v : Value} (h : ofJson (.object ms) = .ok v)
    (hlist : hasChoiceList ms = true) :
    (v.field "choices" = .null ∧ writtenContent ms = .null) ∨
      ∃ js xs, ms.lookup ↑"choices" = some (.array js) ∧ js.mapM (readAs choiceParts) = .ok xs
        ∧ v.field "choices" = .list xs := by
  obtain ⟨x, hx, hattr⟩ :=
    attribute?_readObject (p := ⟨"choices", readChoices⟩) "choices" h (by decide) rfl
  have hfield := field_of_attribute? hattr
  unfold hasChoiceList at hlist
  unfold writtenContent
  rcases hj : ms.lookup (Str.whole "choices") with _ | j
  · rw [hj] at hx
    cases hx
    exact .inl ⟨hfield, rfl⟩
  · rw [hj] at hx hlist
    cases j with
    | null =>
      cases hx
      exact .inl ⟨hfield, rfl⟩
    | array js =>
      obtain ⟨xs, hxs, rfl⟩ := Outcome.map_eq_ok.mp hx
      exact .inr ⟨js, xs, rfl, hxs, hfield⟩
    -- What is no list was excluded.
    | bool | int | float | str | object => cases hlist

/-- **The content that the probe sees** is that of the first choice of the document. -/
theorem firstChoiceContent_ofJson {v : Value} (h : ofJson (.object ms) = .ok v)
    (hlist : hasChoiceList ms = true) :
    firstChoiceContent v = .ok (writtenContent ms).toValue := by
  unfold firstChoiceContent
  rcases field_choices_ofJson h hlist with ⟨hv, hcontent⟩ | ⟨js, xs, hjs, hxs, hv⟩
  · rw [hv, hcontent]
    rfl
  · rw [hv, writtenContent, hjs]
    cases js with
    | nil =>
      cases hxs
      rfl
    | cons j js =>
      -- The first of the values that were read is the first choice; the others do not matter.
      rw [List.mapM_cons, Outcome.bind_eq_ok] at hxs
      obtain ⟨c, hc, hrest⟩ := hxs
      obtain ⟨cs, -, hcs⟩ := Outcome.bind_eq_ok.mp hrest
      cases hcs
      exact congrArg Except.ok (field_content_readChoice hc)

/-! ### Printing the content -/

/-- No entry of what was an object stands under a number. -/
theorem lookupEntry_int_toEntries (i : Int) (ms : List (Str × Json)) :
    Value.lookupEntry (Value.sameKey (.int i)) (Json.toEntries ms) = none := by
  induction ms with
  | nil => rfl
  | cons m ms ih => exact ih

/-- Choices that are neither missing nor a list stay what they are. -/
theorem field_choices_of_no_list {v : Value} (h : ofJson (.object ms) = .ok v)
    (hlist : hasChoiceList ms = false) :
    ∃ j : Json, (∀ js, j ≠ .array js) ∧ v.field "choices" = j.toValue := by
  obtain ⟨x, hx, hattr⟩ :=
    attribute?_readObject (p := ⟨"choices", readChoices⟩) "choices" h (by decide) rfl
  unfold hasChoiceList at hlist
  rcases hj : ms.lookup (Str.whole "choices") with _ | j
  · rw [hj] at hlist
    cases hlist
  · rw [hj] at hx hlist
    refine ⟨j, fun js hjs => ?_, (field_of_attribute? hattr).trans ?_⟩
    · rw [hjs] at hlist
      cases hlist
    -- Whatever is no list was taken over as it stands.
    · cases j with
      | null | array => cases hlist
      | bool | int | float | str | object => exact (Except.ok.inj hx).symm

/-- The probe sees no content in such choices. -/
theorem field_content_firstElement {j : Json} {choice : Value} (hlist : ∀ js, j ≠ .array js)
    (h : firstElement j.toValue = .ok choice) : (choice.field "message").field "content" = .null := by
  cases j with
  | array js => exact absurd rfl (hlist js)
  -- The first character of a text is a text, and that has no fields.
  | str s =>
    cases h
    rfl
  | object ms =>
    -- The names of members are texts, so zero is never among the keys.
    rw [Json.toValue, firstElement, lookupEntry_int_toEntries] at h
    cases h
  | null | bool | int | float => cases h

/-- **Printing.** The content that the probe sees of a document that was read has a text. -/
theorem isOk_print_content_ofJson {j : Json} {v content : Value} (hj : j.WellFormed)
    (h : ofJson j = .ok v) (hcontent : firstChoiceContent v = .ok content) : content.print.isOk = true := by
  cases j with
  | object ms =>
    cases hlist : hasChoiceList ms with
    | true =>
      rw [firstChoiceContent_ofJson h hlist] at hcontent
      cases hcontent
      exact Json.isOk_print_toValue (wellFormed_writtenContent hj.2)
    | false =>
      obtain ⟨j, hj, hchoices⟩ := field_choices_of_no_list h hlist
      rw [firstChoiceContent, hchoices] at hcontent
      split at hcontent
      · obtain ⟨choice, hchoice, rfl⟩ := Outcome.map_eq_ok.mp hcontent
        rw [field_content_firstElement hj hchoice]
        rfl
      · cases hcontent
        rfl
  | array js =>
    -- A list has no parts, and neither has a scalar.
    obtain ⟨xs, -, rfl⟩ := Outcome.map_eq_ok.mp h
    cases hcontent
    rfl
  | null | bool | int | float | str =>
    cases h
    cases hcontent
    rfl

/-- The content that the probe sees of a response has a text. -/
theorem isOk_print_content {r : Http.Response} {v content : Value} (h : read r = .ok v)
    (hcontent : firstChoiceContent v = .ok content) : content.print.isOk = true := by
  unfold read at h
  -- Of a response of success the body is read as a document, else as a text.
  split at h
  · unfold readBody at h
    split at h
    · next j hbody => exact isOk_print_content_ofJson (Json.wellFormed_readBytes hbody) h hcontent
    · split at h
      · cases h
      · cases h
        cases hcontent
        rfl
  · cases h

end Response
end Chat
end ChatProbe

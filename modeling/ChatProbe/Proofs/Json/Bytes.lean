import ChatProbe.Proofs.Json.RoundTrip
/-!
# Written documents as lines and as bytes

A written document is made of `Shown` characters only (`shown_writeList`): it has no line break, and in
the ASCII style nothing outside printable ASCII. So its bytes are told from those of wider units,
and they are read as the document that they were written from (`readBytes_write`).
-/

namespace ChatProbe
namespace Json

variable {style : JsonStyle}

/-! ### Shown characters -/

/-- Characters of a written document: no control characters, and printable ASCII in the ASCII style. -/
def Shown (ascii : Bool) (c : Char) : Prop := 0x20 ≤ c.toNat ∧ (ascii = true → c.toNat ≤ 0x7e)

theorem Shown.of_printable {c : Char} (h : 0x20 ≤ c.toNat ∧ c.toNat ≤ 0x7e) (ascii : Bool) :
    Shown ascii c := ⟨h.1, fun _ => h.2⟩

/-- Printable ASCII is shown in every style. -/
theorem Shown.of_all {cs : List Char}
    (h : (cs.all fun c => 0x20 ≤ c.toNat && c.toNat ≤ 0x7e) = true) (ascii : Bool) :
    ∀ c ∈ cs, Shown ascii c := by
  intro c hc
  have hprintable := List.all_eq_true.mp h c hc
  rw [Bool.and_eq_true, decide_eq_true_iff, decide_eq_true_iff] at hprintable
  exact .of_printable hprintable ascii

theorem printable_digitChar : ∀ d : Fin 16,
    0x20 ≤ (Nat.digitChar d.val).toNat ∧ (Nat.digitChar d.val).toNat ≤ 0x7e := by decide

theorem shown_unitEscape {n : Nat} (h : n < 0x10000) (ascii : Bool) :
    ∀ c ∈ unitEscape n, Shown ascii c := by
  have hdigit : ∀ d < 16, Shown ascii (Nat.digitChar d) := fun d hd =>
    .of_printable (printable_digitChar ⟨d, hd⟩) ascii
  rw [unitEscape, hexDigits_four h]
  simp only [List.forall_mem_cons, List.not_mem_nil, false_implies, implies_true, and_true]
  exact ⟨.of_printable (by decide) ascii, .of_printable (by decide) ascii, hdigit _ (by omega),
    hdigit _ (by omega), hdigit _ (by omega), hdigit _ (by omega)⟩

theorem shown_charEscape (ascii : Bool) (c : Char) : ∀ d ∈ charEscape c, Shown ascii d := by
  have hbound := CodePoint.valid_char c
  unfold charEscape
  by_cases h : c.toNat < 0x10000
  · rw [if_pos h]
    exact shown_unitEscape h ascii
  · rw [if_neg h, List.forall_mem_append]
    exact ⟨shown_unitEscape (by omega) ascii, shown_unitEscape (by omega) ascii⟩

theorem printable_of_shortEscape? {e c : Char} (h : shortEscape? (.char e) = some c) :
    0x20 ≤ e.toNat ∧ e.toNat ≤ 0x7e := by
  have hmem := mem_of_shortEscape? h
  simp only [List.mem_cons, List.not_mem_nil, or_false] at hmem
  rcases hmem with rfl | rfl | rfl | rfl | rfl | rfl | rfl | rfl
  all_goals decide

/-- One character is written in shown characters, whether by an escape or as it is. -/
theorem shown_writeChar (ascii : Bool) (c : Char) : ∀ d ∈ writeChar ascii c, Shown ascii d := by
  -- Escapes are printable, and what is written as itself was tested for it.
  rcases writeChar_cases ascii c with ⟨e, hwrite, he⟩ | hwrite | ⟨hwrite, -, -, hshown⟩
  · rw [hwrite]
    simp only [List.forall_mem_cons, List.not_mem_nil, false_implies, implies_true, and_true]
    exact ⟨.of_printable (by decide) ascii, .of_printable (printable_of_shortEscape? he) ascii⟩
  · rw [hwrite]
    exact shown_charEscape ascii c
  · rw [hwrite]
    intro d hd
    rw [List.mem_singleton.mp hd]
    exact hshown

theorem shown_writeString (ascii : Bool) (s : Str) : ∀ c ∈ writeString ascii s, Shown ascii c := by
  rw [writeString, List.forall_mem_append, List.forall_mem_cons]
  refine ⟨⟨.of_printable (by decide) ascii, fun d hd => ?_⟩, Shown.of_all (by decide) ascii⟩
  obtain ⟨p, -, hd⟩ := List.mem_flatMap.mp hd
  cases p with
  | char c => exact shown_writeChar ascii c d hd
  | half h => exact shown_unitEscape (Nat.lt_trans h.isSurrogate.2 (by decide)) ascii d hd

theorem shown_writeInt (ascii : Bool) (i : Int) : ∀ c ∈ writeInt i, Shown ascii c := by
  -- Digits lie between the blank and the tilde.
  have hdigits : ∀ c ∈ Nat.toDigits 10 i.natAbs, Shown ascii c := by
    intro c hc
    obtain ⟨hzero, hnine⟩ := Char.isDigit_iff_toNat.mp (isDigit_of_mem_toDigits hc)
    change 0x30 ≤ c.toNat at hzero
    change c.toNat ≤ 0x39 at hnine
    exact .of_printable ⟨by omega, by omega⟩ ascii
  unfold writeInt
  split
  · rw [List.forall_mem_cons]
    exact ⟨.of_printable (by decide) ascii, hdigits⟩
  · exact hdigits

theorem shown_separator {c : Char} (hc : 0x20 ≤ c.toNat ∧ c.toNat ≤ 0x7e) {s : List Char}
    (hs : ∃ n, s = c :: List.replicate n ' ') (ascii : Bool) : ∀ d ∈ s, Shown ascii d := by
  obtain ⟨n, rfl⟩ := hs
  rw [List.forall_mem_cons]
  refine ⟨.of_printable hc ascii, fun d hd => ?_⟩
  rw [(List.mem_replicate.mp hd).2]
  exact .of_printable (by decide) ascii

/-- What sets an element or a member off from the one before it. -/
theorem shown_setOff (hstyle : style.Regular) (first : Bool) :
    ∀ c ∈ (if first then [] else style.itemSeparator.toList), Shown style.ascii c := by
  cases first with
  | true =>
    intro c hc
    cases hc
  | false => exact shown_separator (by decide) hstyle.item _

mutual

/-- **One line.** A document is written in shown characters. -/
theorem shown_writeList (hstyle : style.Regular) : ∀ (j : Json), j.Exact →
    ∀ c ∈ writeList style j, Shown style.ascii c := by
  intro j hj
  -- One case for each kind of document; numbers with a fraction are not exact and do not occur.
  match j, hj with
  | .null, _ =>
    rw [writeList]
    exact Shown.of_all (by decide) _
  | .bool true, _ =>
    rw [writeList]
    exact Shown.of_all (by decide) _
  | .bool false, _ =>
    rw [writeList]
    exact Shown.of_all (by decide) _
  | .int i, _ =>
    rw [writeList]
    exact shown_writeInt style.ascii i
  | .str s, _ =>
    rw [writeList]
    exact shown_writeString style.ascii s
  | .array xs, hj =>
    rw [writeList, List.forall_mem_cons]
    exact ⟨.of_printable (by decide) _, shown_writeElements hstyle xs hj true⟩
  | .object ms, hj =>
    rw [writeList, List.forall_mem_cons]
    exact ⟨.of_printable (by decide) _, shown_writeMembers hstyle ms hj.2 true⟩

theorem shown_writeElements (hstyle : style.Regular) : ∀ (xs : List Json), ExactElements xs →
    ∀ first, ∀ c ∈ writeElements style first xs, Shown style.ascii c := by
  intro xs hxs first
  match xs, hxs with
  | [], _ =>
    rw [writeElements]
    exact Shown.of_all (by decide) _
  | x :: xs, hxs =>
    rw [ExactElements] at hxs
    rw [writeElements, List.forall_mem_append, List.forall_mem_append]
    exact ⟨shown_setOff hstyle first, shown_writeList hstyle x hxs.1,
      shown_writeElements hstyle xs hxs.2 false⟩

theorem shown_writeMembers (hstyle : style.Regular) : ∀ (ms : List (Str × Json)),
    ExactMembers ms → ∀ first, ∀ c ∈ writeMembers style first ms, Shown style.ascii c := by
  intro ms hms first
  match ms, hms with
  | [], _ =>
    rw [writeMembers]
    exact Shown.of_all (by decide) _
  | (name, v) :: ms, hms =>
    rw [ExactMembers] at hms
    rw [writeMembers, List.forall_mem_append, List.forall_mem_append, List.forall_mem_append,
      List.forall_mem_append]
    exact ⟨shown_setOff hstyle first, shown_writeString style.ascii name,
      shown_separator (by decide) hstyle.name _, shown_writeList hstyle v hms.2.1,
      shown_writeMembers hstyle ms hms.2.2 false⟩

end

/-! ### Bytes -/

/-- Only the zero character has a zero byte. -/
theorem ne_zero_of_mem_utf8EncodeChar {c : Char} (h : c.toNat ≠ 0) :
    ∀ b ∈ String.utf8EncodeChar c, b ≠ 0 := by
  have hbyte : ∀ n, n % 256 ≠ 0 → UInt8.ofNat n ≠ 0 := by
    intro n hn heq
    have htoNat := congrArg UInt8.toNat heq
    rw [UInt8.toNat_ofNat'] at htoNat
    exact hn htoNat
  change c.val.toNat ≠ 0 at h
  -- Leads and continuations have a high bit, and a single byte is the character itself.
  fun_cases String.utf8EncodeChar c with
  | case1 v hone =>
    simp only [List.forall_mem_cons, List.not_mem_nil, false_implies, implies_true, and_true]
    change c.val.toNat ≤ 0x7f at hone
    exact hbyte _ (by omega)
  | case2 v =>
    simp only [List.forall_mem_cons, List.not_mem_nil, false_implies, implies_true, and_true]
    exact ⟨hbyte _ (by omega), hbyte _ (by omega)⟩
  | case3 v =>
    simp only [List.forall_mem_cons, List.not_mem_nil, false_implies, implies_true, and_true]
    exact ⟨hbyte _ (by omega), hbyte _ (by omega), hbyte _ (by omega)⟩
  | case4 v =>
    simp only [List.forall_mem_cons, List.not_mem_nil, false_implies, implies_true, and_true]
    exact ⟨hbyte _ (by omega), hbyte _ (by omega), hbyte _ (by omega), hbyte _ (by omega)⟩

/-- A mark begins with a byte that is zero or no ASCII character. -/
theorem head?_byteOrderMarks : ∀ m ∈ byteOrderMarks,
    ∃ b, m.1.head? = some b ∧ (b = 0 ∨ 0x80 ≤ b.toNat) := by
  unfold byteOrderMarks
  simp only [List.forall_mem_cons, List.not_mem_nil, false_implies, implies_true, and_true]
  exact ⟨⟨_, rfl, by decide⟩, ⟨_, rfl, by decide⟩, ⟨_, rfl, by decide⟩, ⟨_, rfl, by decide⟩,
    _, rfl, by decide⟩

theorem encodingOfUnmarked_of_ne_zero {bytes : List UInt8} (hzero : ∀ b ∈ bytes, b ≠ 0) :
    encodingOfUnmarked bytes = .utf8 := by
  unfold encodingOfUnmarked
  split
  · rw [if_neg (hzero _ (by simp)), if_neg (hzero _ (by simp))]
  · rw [if_neg (hzero _ (by simp)), if_neg (hzero _ (by simp))]
  · rfl

/-- Bytes that begin with ASCII and hold no zero are not taken for wider units. -/
theorem pointsOfBytes_eq_decode {bytes : List UInt8} (hascii : ∀ b ∈ bytes.head?, b.toNat < 0x80)
    (hzero : ∀ b ∈ bytes, b ≠ 0) :
    pointsOfBytes bytes = (Text.Utf8.decodePoints bytes).mapError .text := by
  have hunmarked : byteOrderMarks.find? (fun m => m.1.isPrefixOf bytes) = none := by
    -- A mark that fits would put its first byte in front.
    refine List.find?_eq_none.mpr fun m hm hprefix => ?_
    obtain ⟨b, hb, hmark⟩ := head?_byteOrderMarks m hm
    obtain ⟨tail, htail⟩ := List.isPrefixOf_iff_prefix.mp hprefix
    have hhead : bytes.head? = some b := by
      rw [← htail, List.head?_append, hb]
      rfl
    rcases hmark with rfl | hwide
    · exact hzero 0 (List.mem_of_mem_head? hhead) rfl
    · have := hascii b hhead
      omega
  rw [pointsOfBytes, hunmarked]
  dsimp only
  rw [encodingOfUnmarked_of_ne_zero hzero, Encoding.decode]

/-- The bytes of a text that begins with ASCII and holds no zero are read as this text. -/
theorem pointsOfBytes_encode {s : String} {c : Char} {cs : List Char} (hs : s.toList = c :: cs)
    (hascii : c.toNat < 0x80) (hzero : ∀ d ∈ s.toList, d.toNat ≠ 0) :
    pointsOfBytes (Text.Utf8.encode s) = .ok (s.toList.map .char) := by
  rw [pointsOfBytes_eq_decode, Text.Utf8.decodePoints_of_decode (Text.Utf8.decode_encode s)]
  · rfl
  -- The first byte is that of an ASCII character, so it is no mark.
  · have hone : String.utf8EncodeChar c = [UInt8.ofNat c.toNat] := by
      unfold String.utf8EncodeChar
      exact if_pos (show c.toNat ≤ 0x7f by omega)
    rw [Text.Utf8.encode_eq, hs, List.flatMap_cons, hone]
    rintro b ⟨⟩
    rw [UInt8.toNat_ofNat']
    omega
  -- Without a zero byte the bytes are not taken for longer units.
  · intro b hb
    rw [Text.Utf8.encode_eq] at hb
    obtain ⟨d, hd, hb⟩ := List.mem_flatMap.mp hb
    exact ne_zero_of_mem_utf8EncodeChar (hzero d hd) b hb

/-- **Bytes** of a text that is written from a document hold this document. -/
theorem readBytes_write (hstyle : style.Regular) {j : Json} (hj : j.Exact) :
    readBytes (Text.Utf8.encode (write style j)) = .ok j := by
  obtain ⟨c, cs, hcs, -, -, hascii⟩ := writeList_eq_cons style hj
  have hlist : (write style j).toList = writeList style j := String.toList_ofList
  have hpoints : pointsOfBytes (Text.Utf8.encode (write style j))
      = .ok ((write style j).toList.map .char) := by
    -- A document starts with ASCII and shows no zero.
    refine pointsOfBytes_encode (hlist.trans hcs) hascii fun d hd => ?_
    rw [hlist] at hd
    have hshown := (shown_writeList hstyle j hj d hd).1
    omega
  rw [readBytes, hpoints, hlist]
  show (readPoints ((writeList style j).map .char)).mapError ByteFault.json = .ok j
  rw [readPoints_write hstyle hj]
  rfl

/-- No document is read from nothing. -/
theorem isEmpty_of_readBytes {bytes : List UInt8} {j : Json} (h : readBytes bytes = .ok j) :
    bytes.isEmpty = false := by
  cases bytes with
  | nil => cases h
  | cons b bytes => rfl

end Json
end ChatProbe

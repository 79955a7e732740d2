import ChatProbe.Proofs.Outcome
import ChatProbe.Text.Utf8
/-!
# UTF-8 round trip

The bytes of a text decode to the text (`Utf8.decode_encode`). The step is one character:
its bytes in front of any others are read as this character and leave the others
(`Utf8.next_utf8EncodeChar`).

A character of more than one byte is put together from the payload of its bytes. That a lead byte
is told from other bytes, and that it goes with the byte behind it, is checked over all payloads
(`lead_two`, `lead_three`, `lead_four`): the shortest form, no surrogates and no code point past
the last come out of the bounds on the payloads.
-/

namespace ChatProbe.Text.Utf8

/-! ### Payloads -/

/-- The lead byte of two. -/
theorem lead_two : ∀ i : Fin 32, 2 ≤ i.val →
    let a := UInt8.ofNat (i.val + 0xc0)
    ¬a < 0x80 ∧ ¬(a < 0xc2 ∨ 0xf5 ≤ a) ∧ a < 0xe0 ∧ (a &&& 0x1f).toNat = i.val := by
  decide

/-- The lead byte of three. -/
theorem lead_three : ∀ i : Fin 16,
    let a := UInt8.ofNat (i.val + 0xe0)
    ¬a < 0x80 ∧ ¬(a < 0xc2 ∨ 0xf5 ≤ a) ∧ ¬a < 0xe0 ∧ a < 0xf0 ∧ (a &&& 0x0f).toNat = i.val := by
  decide

/-- The lead byte of four. -/
theorem lead_four : ∀ i : Fin 5,
    let a := UInt8.ofNat (i.val + 0xf0)
    ¬a < 0x80 ∧ ¬(a < 0xc2 ∨ 0xf5 ≤ a) ∧ ¬a < 0xe0 ∧ ¬a < 0xf0
      ∧ (a &&& 0x07).toNat = i.val := by
  decide

/-- The bytes behind a lead byte. -/
theorem continuation : ∀ j : Fin 64,
    let b := UInt8.ofNat (j.val + 0x80)
    isContinuation b = true ∧ payload b = j.val := by
  decide

theorem badSecond_two : ∀ i : Fin 32, ∀ j : Fin 64,
    badSecond (UInt8.ofNat (i.val + 0xc0)) (UInt8.ofNat (j.val + 0x80)) = false := by
  decide +kernel

/-- Behind three, the second byte tells over-long forms and surrogates. -/
theorem badSecond_three : ∀ i : Fin 16, ∀ j : Fin 64, (i.val = 0 → 32 ≤ j.val) →
    (i.val = 13 → j.val < 32) →
      badSecond (UInt8.ofNat (i.val + 0xe0)) (UInt8.ofNat (j.val + 0x80)) = false := by
  decide +kernel

/-- Behind four, the second byte tells over-long forms and what is past the last code point. -/
theorem badSecond_four : ∀ i : Fin 5, ∀ j : Fin 64, (i.val = 0 → 16 ≤ j.val) →
    (i.val = 4 → j.val < 16) →
      badSecond (UInt8.ofNat (i.val + 0xf0)) (UInt8.ofNat (j.val + 0x80)) = false := by
  decide +kernel

/-! ### One character -/

theorem next_one {n : Nat} (h : n ≤ 0x7f) (rest : List UInt8) :
    next (UInt8.ofNat n :: rest) = .char (Char.ofNat n) 1 rest := by
  have htoNat : (UInt8.ofNat n).toNat = n := by
    rw [UInt8.toNat_ofNat']
    omega
  have hlt : UInt8.ofNat n < 0x80 := by
    rw [UInt8.lt_iff_toNat_lt, htoNat]
    show n < 128
    omega
  rw [next.eq_def]
  dsimp only
  rw [if_pos hlt, htoNat]

theorem next_two {n : Nat} (h : 0x7f < n) (h' : n ≤ 0x7ff) (rest : List UInt8) :
    next (UInt8.ofNat (n / 64 % 0x20 + 0xc0) :: UInt8.ofNat (n % 0x40 + 0x80) :: rest)
      = .char (Char.ofNat n) 2 rest := by
  have hi : n / 64 % 0x20 < 32 := by omega
  have hj : n % 0x40 < 64 := by omega
  obtain ⟨ha, ha', ha'', hlead⟩ := lead_two ⟨_, hi⟩ (by dsimp only; omega)
  obtain ⟨-, hpayload⟩ := continuation ⟨_, hj⟩
  have hgood := badSecond_two ⟨_, hi⟩ ⟨_, hj⟩
  dsimp only at ha ha' ha'' hlead hpayload hgood
  have hn : n / 64 % 0x20 * 64 + n % 0x40 = n := by omega
  simp only [next, if_neg ha, if_neg ha', if_pos ha'', hgood, Bool.false_eq_true, if_false, hlead,
    hpayload, hn]

theorem next_three {n : Nat} (h : 0x7ff < n) (h' : n ≤ 0xffff) (hn : n < 0xd800 ∨ 0xdfff < n)
    (rest : List UInt8) :
    next (UInt8.ofNat (n / 4096 % 0x10 + 0xe0) :: UInt8.ofNat (n / 64 % 0x40 + 0x80)
        :: UInt8.ofNat (n % 0x40 + 0x80) :: rest)
      = .char (Char.ofNat n) 3 rest := by
  have hi : n / 4096 % 0x10 < 16 := by omega
  have hj : n / 64 % 0x40 < 64 := by omega
  have hk : n % 0x40 < 64 := by omega
  -- Each byte is looked up in a table over its few bits, and the three payloads add up again.
  obtain ⟨ha, ha', ha'', ha''', hlead⟩ := lead_three ⟨_, hi⟩
  obtain ⟨-, hpayload⟩ := continuation ⟨_, hj⟩
  obtain ⟨hcontinues, hpayload'⟩ := continuation ⟨_, hk⟩
  have hgood := badSecond_three ⟨_, hi⟩ ⟨_, hj⟩ (by dsimp only; omega) (by dsimp only; omega)
  dsimp only at ha ha' ha'' ha''' hlead hpayload hcontinues hpayload' hgood
  have hsum : (n / 4096 % 0x10 * 64 + n / 64 % 0x40) * 64 + n % 0x40 = n := by omega
  simp only [next, if_neg ha, if_neg ha', if_neg ha'', if_pos ha''', hgood, hcontinues,
    Bool.not_true, Bool.false_eq_true, if_false, hlead, hpayload, hpayload', hsum]

theorem next_four {n : Nat} (h : 0xffff < n) (h' : n < 0x110000) (rest : List UInt8) :
    next (UInt8.ofNat (n / 262144 % 0x08 + 0xf0) :: UInt8.ofNat (n / 4096 % 0x40 + 0x80)
        :: UInt8.ofNat (n / 64 % 0x40 + 0x80) :: UInt8.ofNat (n % 0x40 + 0x80) :: rest)
      = .char (Char.ofNat n) 4 rest := by
  have hi : n / 262144 % 0x08 < 5 := by omega
  have hj : n / 4096 % 0x40 < 64 := by omega
  have hk : n / 64 % 0x40 < 64 := by omega
  have hl : n % 0x40 < 64 := by omega
  obtain ⟨ha, ha', ha'', ha''', hlead⟩ := lead_four ⟨_, hi⟩
  obtain ⟨-, hpayload⟩ := continuation ⟨_, hj⟩
  obtain ⟨hcontinues, hpayload'⟩ := continuation ⟨_, hk⟩
  obtain ⟨hcontinues', hpayload''⟩ := continuation ⟨_, hl⟩
  -- The bounds keep the second byte from being refused behind this lead.
  have hgood := badSecond_four ⟨_, hi⟩ ⟨_, hj⟩ (by dsimp only; omega) (by dsimp only; omega)
  dsimp only at ha ha' ha'' ha''' hlead hpayload hcontinues hpayload' hcontinues' hpayload'' hgood
  have hsum : ((n / 262144 % 0x08 * 64 + n / 4096 % 0x40) * 64 + n / 64 % 0x40) * 64 + n % 0x40
      = n := by omega
  simp only [next, if_neg ha, if_neg ha', if_neg ha'', if_neg ha''', hgood, hcontinues, hcontinues',
    Bool.not_true, Bool.false_eq_true, if_false, hlead, hpayload, hpayload', hpayload'', hsum]

/-- **One character** in front of any bytes is read as it is. -/
theorem next_utf8EncodeChar (c : Char) (rest : List UInt8) :
    next (String.utf8EncodeChar c ++ rest)
      = .char c (String.utf8EncodeChar c).length rest := by
  have hc : Char.ofNat c.val.toNat = c := Char.ofNat_toNat c
  have hvalid : c.val.toNat < 0xd800 ∨ 0xdfff < c.val.toNat ∧ c.val.toNat < 0x110000 := c.valid
  -- The cases are the four lengths.
  fun_cases String.utf8EncodeChar c with
  | case1 v h =>
    have hone := next_one h rest
    rw [hc] at hone
    exact hone
  | case2 v h h' =>
    have htwo := next_two (Nat.lt_of_not_le h) h' rest
    rw [hc] at htwo
    exact htwo
  | case3 v h h' h'' =>
    have hthree := next_three (Nat.lt_of_not_le h') h'' (hvalid.imp_right And.left) rest
    rw [hc] at hthree
    exact hthree
  | case4 v h h' h'' =>
    have hbound : c.val.toNat < 0x110000 := by omega
    have hfour := next_four (Nat.lt_of_not_le h'') hbound rest
    rw [hc] at hfour
    exact hfour

/-! ### Texts -/

/-- A text in which each element is written as something is as long as the list, at least. -/
theorem length_le_length_flatMap {α β : Type} {f : α → List β} (hf : ∀ a, f a ≠ []) (as : List α) :
    as.length ≤ (as.flatMap f).length := by
  induction as with
  | nil => exact Nat.le_refl 0
  | cons a as ih =>
    have hpos := List.length_pos_iff.mpr (hf a)
    rw [List.flatMap_cons, List.length_append, List.length_cons]
    omega

/-- The bytes of characters are read as these characters, with enough fuel. -/
theorem decodeFrom_flatMap (cs : List Char) {fuel : Nat} (h : cs.length ≤ fuel) (position : Nat) :
    decodeFrom fuel position (cs.flatMap String.utf8EncodeChar) = .ok cs := by
  induction cs generalizing fuel position with
  | nil =>
    -- Every character takes one step, so as many steps as characters are enough.
    cases fuel with
    | zero => rfl
    | succ fuel => rfl
  | cons c cs ih =>
    cases fuel with
    | zero => cases h
    | succ fuel =>
      rw [List.flatMap_cons, decodeFrom, next_utf8EncodeChar]
      dsimp only
      rw [ih (Nat.le_of_succ_le_succ h)]
      rfl

/-- The walk of `ByteArray.toList` from a position puts the bytes from there on behind what it has. -/
theorem toList_loop_eq (bytes : ByteArray) (i : Nat) (walked : List UInt8) :
    ByteArray.toList.loop bytes i walked = walked.reverse ++ bytes.data.toList.drop i := by
  fun_induction ByteArray.toList.loop bytes i walked with
  | case1 i walked hlt ih =>
    have hi : i < bytes.data.toList.length := hlt
    have hget : bytes.get! i = bytes.data.toList[i] := getElem!_pos bytes.data i hlt
    rw [ih, List.drop_eq_getElem_cons hi, hget, List.reverse_cons, List.append_assoc]
    rfl
  | case2 i walked hle =>
    have hlength : bytes.data.toList.length ≤ i := Nat.le_of_not_lt hle
    rw [List.drop_eq_nil_of_le hlength, List.append_nil]

/-- The bytes of a text are those of its characters. -/
theorem encode_eq (s : String) : encode s = s.toList.flatMap String.utf8EncodeChar := by
  have hs : s.toByteArray = s.toList.utf8Encode := by
    rw [← String.toByteArray_ofList, String.ofList_toList]
  rw [encode, String.toUTF8_eq_toByteArray, hs, List.utf8Encode, ByteArray.toList, toList_loop_eq,
    List.toList_data_toByteArray]
  rfl

/-- **Round trip.** The bytes of a text decode to the text. -/
theorem decode_encode (s : String) : decode (encode s) = .ok s := by
  -- The fuel is the number of bytes, and every character takes one at least.
  have hfuel : s.toList.length ≤ (s.toList.flatMap String.utf8EncodeChar).length :=
    length_le_length_flatMap (fun _ => String.utf8EncodeChar_ne_nil) _
  rw [decode, encode_eq, decodeFrom_flatMap _ hfuel]
  exact congrArg Except.ok String.ofList_toList

/-- Bytes that decode strictly decode to the same characters where halves are taken. -/
theorem pointsFrom_of_decodeFrom {fuel position : Nat} {bytes : List UInt8} {cs : List Char}
    (h : decodeFrom fuel position bytes = .ok cs) :
    pointsFrom fuel position bytes = .ok (cs.map .char) := by
  induction fuel generalizing position bytes cs with
  | zero =>
    cases h
    rfl
  | succ fuel ih =>
    rw [decodeFrom] at h
    rw [pointsFrom]
    cases hnext : next bytes with
    | done =>
      rw [hnext] at h
      cases h
      rfl
    | char c size rest =>
      rw [hnext] at h
      obtain ⟨ds, hds, rfl⟩ := Outcome.map_eq_ok.mp h
      dsimp only
      rw [ih hds]
      rfl
    -- Bytes that the strict decoder refuses are out of question here.
    | bad problem count =>
      rw [hnext] at h
      cases h

theorem decodePoints_of_decode {bytes : List UInt8} {s : String} (h : decode bytes = .ok s) :
    decodePoints bytes = .ok (s.toList.map .char) := by
  obtain ⟨cs, hcs, rfl⟩ := Outcome.map_eq_ok.mp h
  rw [decodePoints, pointsFrom_of_decodeFrom hcs, String.toList_ofList]

end ChatProbe.Text.Utf8

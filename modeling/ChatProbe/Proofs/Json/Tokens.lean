import Mathlib
import ChatProbe.Json.Reader
import ChatProbe.Json.Writer
/-!
# Strings and integers read back

The reader takes back what the writer makes of one point (`stringTail_writePoint`), in both styles, and so
of a whole string (`stringTail_writePoints`). The one thing that is not taken back is a pair of halves: the
escapes of a first and a second half side by side are the escapes of one character. So a first half comes
back where what follows does not begin with the escape of a second one (`NoLow`), and a text where its
halves stand apart (`Str.Apart`).

What the writer makes of an integer is taken back where the integer is not too long and nothing follows
that could belong to a number (`number_toDigits`); in a document what follows is a separator, a bracket
or the end (`Closes`).
-/

namespace ChatProbe

/-! ### Halves that stand apart -/

/-- A first half of a pair is not followed by a second one. -/
def CodePoint.Apart (p q : CodePoint) : Prop := ¬(isHigh p.value = true ∧ isLow q.value = true)

instance (p q : CodePoint) : Decidable (p.Apart q) := inferInstanceAs (Decidable (¬_))

/-- The numbers of characters leave out those of halves. -/
theorem CodePoint.valid_char (c : Char) :
    c.toNat < 0xd800 ∨ 0xdfff < c.toNat ∧ c.toNat < 0x110000 := c.valid

theorem CodePoint.isHigh_char (c : Char) : isHigh (char c).value = false := by
  have h := valid_char c
  rw [isHigh, value, Bool.and_eq_false_iff, decide_eq_false_iff_not, decide_eq_false_iff_not]
  omega

theorem CodePoint.isLow_char (c : Char) : isLow (char c).value = false := by
  have h := valid_char c
  rw [isLow, value, Bool.and_eq_false_iff, decide_eq_false_iff_not, decide_eq_false_iff_not]
  omega

/-- A point is that of its number. -/
theorem CodePoint.ofNat_value (p : CodePoint) : ofNat p.value = p := by
  cases p with
  | char c =>
    have h := valid_char c
    rw [value, ofNat, dif_neg (by omega), Char.ofNat_toNat]
  | half h => rw [value, ofNat, dif_pos h.isSurrogate]

/-- A text has no pair of halves side by side. -/
def Str.Apart (s : Str) : Prop := s.points.IsChain CodePoint.Apart

instance (s : Str) : Decidable s.Apart := inferInstanceAs (Decidable (List.IsChain _ _))

/-- Characters are no halves, so texts without halves have none side by side. -/
@[simp] theorem Str.apart_whole (s : String) : (whole s).Apart := by
  rw [Apart, points_whole, List.isChain_map]
  refine List.Pairwise.isChain (List.pairwise_of_forall fun c d => ?_)
  rw [CodePoint.Apart, CodePoint.isHigh_char]
  exact fun h => Bool.false_ne_true h.1

namespace Json

/-! ### Hexadecimal digits -/

theorem hex?_digitChar : ∀ d : Fin 16, Digits.hex? (Nat.digitChar d.val) = some d.val := by
  decide

/-- Four digits hold a sixteen-bit unit. -/
theorem hexDigits_four {n : Nat} (h : n < 0x10000) :
    Text.hexDigits 4 n = [Nat.digitChar (n / 4096), Nat.digitChar (n / 256 % 16),
      Nat.digitChar (n / 16 % 16), Nat.digitChar (n % 16)] := by
  have hdigits : ∀ m, Nat.toDigits 16 m =
      if m < 16 then [Nat.digitChar m] else Nat.toDigits 16 (m / 16) ++ [Nat.digitChar (m % 16)] :=
    fun m => Nat.toDigits_eq_if (by decide)
  unfold Text.hexDigits
  -- The cases are the numbers of digits, which zeros in front bring up to four.
  by_cases h1 : n < 16
  · have e1 : n / 4096 = 0 := by omega
    have e2 : n / 256 % 16 = 0 := by omega
    have e3 : n / 16 % 16 = 0 := by omega
    have e4 : n % 16 = n := by omega
    rw [hdigits, if_pos h1, e1, e2, e3, e4]
    rfl
  by_cases h2 : n < 256
  · have e1 : n / 4096 = 0 := by omega
    have e2 : n / 256 % 16 = 0 := by omega
    have e3 : n / 16 % 16 = n / 16 := by omega
    rw [hdigits, if_neg h1, hdigits, if_pos (by omega), e1, e2, e3]
    rfl
  by_cases h3 : n < 4096
  · have e1 : n / 4096 = 0 := by omega
    have e2 : n / 256 % 16 = n / 16 / 16 := by omega
    rw [hdigits, if_neg h1, hdigits, if_neg (by omega), hdigits, if_pos (by omega), e1, e2]
    rfl
  · have e1 : n / 4096 = n / 16 / 16 / 16 := by omega
    have e2 : n / 256 % 16 = n / 16 / 16 % 16 := by omega
    rw [hdigits, if_neg h1, hdigits, if_neg (by omega), hdigits, if_neg (by omega), hdigits,
      if_pos (by omega), e1, e2]
    rfl

theorem hex4?_digits {n : Nat} (h : n < 0x10000) :
    hex4? (.char (Nat.digitChar (n / 4096))) (.char (Nat.digitChar (n / 256 % 16)))
      (.char (Nat.digitChar (n / 16 % 16))) (.char (Nat.digitChar (n % 16))) = some n := by
  have h1 := hex?_digitChar ⟨n / 4096, by omega⟩
  have h2 := hex?_digitChar ⟨n / 256 % 16, by omega⟩
  have h3 := hex?_digitChar ⟨n / 16 % 16, by omega⟩
  have h4 := hex?_digitChar ⟨n % 16, by omega⟩
  dsimp only at h1 h2 h3 h4
  -- The four digits write the number in base sixteen.
  have hsum : ((n / 4096 * 16 + n / 256 % 16) * 16 + n / 16 % 16) * 16 + n % 16 = n := by omega
  unfold hex4?
  rw [Digits.hexPoint?, Digits.hexPoint?, Digits.hexPoint?, Digits.hexPoint?, h1, h2, h3, h4]
  exact congrArg some hsum

/-! ### Strings -/

variable {start tail : List CodePoint} {fuel : Nat}

theorem stringTail_plain {p : CodePoint} (hquote : p ≠ .char '"') (hescape : p ≠ .char '\\')
    (hcontrol : 0x20 ≤ p.value) :
    stringTail start (fuel + 1) (p :: tail)
      = (stringTail start fuel tail).map fun (s, r) => (p :: s, r) := by
  rw [stringTail.eq_def]
  dsimp only
  rw [if_neg hquote, if_neg hescape, if_neg (Nat.not_lt.mpr hcontrol)]

/-- A one-letter escape. -/
theorem stringTail_short {e : CodePoint} {x : Char} (h : shortEscape? e = some x) :
    stringTail start (fuel + 1) (.char '\\' :: e :: tail)
      = (stringTail start fuel tail).map fun (s, r) => (.char x :: s, r) := by
  -- The escape of a unit has no short form, so the reader is not in that case.
  have hu : e ≠ .char 'u' := by
    rintro rfl
    cases h
  rw [stringTail.eq_def]
  dsimp only
  rw [if_neg (by decide), if_pos rfl]
  split
  · next heq => cases heq
  · next heq => exact absurd (List.cons.inj heq).1 hu
  · next heq =>
    obtain ⟨rfl, rfl⟩ := List.cons.inj heq
    rw [h]

/-- What follows does not begin with the escape of a second half. -/
def NoLow (tail : List CodePoint) : Prop :=
  ∀ l1 l2 l3 l4 behind, tail = .char '\\' :: .char 'u' :: l1 :: l2 :: l3 :: l4 :: behind →
    ∃ low, hex4? l1 l2 l3 l4 = some low ∧ CodePoint.isLow low = false

/-- The escape of a unit, which starts no pair. -/
theorem stringTail_unit {n : Nat} (h : n < 0x10000) (hlone : CodePoint.isHigh n = true → NoLow tail)
    (htail : tail ≠ []) :
    stringTail start (fuel + 1) ((unitEscape n).map .char ++ tail)
      = (stringTail start fuel tail).map fun (s, r) => (.ofNat n :: s, r) := by
  have hmore : tail.isEmpty = false := by simpa using htail
  unfold unitEscape
  rw [hexDigits_four h]
  simp only [List.map_cons, List.map_nil, List.cons_append, List.nil_append]
  rw [stringTail, if_neg (by decide), if_pos rfl]
  dsimp only
  rw [hmore, if_neg Bool.false_ne_true, hex4?_digits h]
  dsimp only
  -- Another escape may stand behind, but not that of a second half if this unit is a first one.
  split
  · next l1 l2 l3 l4 behind =>
    split
    · next hpair =>
      obtain ⟨low, hlow, hnot⟩ := hlone (Bool.and_eq_true_iff.mp hpair).1 l1 l2 l3 l4 behind rfl
      rw [hlow]
      dsimp only
      rw [hnot, if_neg Bool.false_ne_true]
    · rfl
  · rfl

/-- The escapes of two units that make a pair. -/
theorem stringTail_pair {high low : Nat} (hhigh : CodePoint.isHigh high = true)
    (hlow : CodePoint.isLow low = true) (htail : tail ≠ []) :
    stringTail start (fuel + 1) ((unitEscape high).map .char ++ ((unitEscape low).map .char ++ tail))
      = (stringTail start fuel tail).map fun (s, r) => (.paired high low :: s, r) := by
  have hmore : tail.isEmpty = false := by simpa using htail
  have hhigh' := hhigh
  have hlow' := hlow
  simp only [CodePoint.isHigh, Bool.and_eq_true, decide_eq_true_eq] at hhigh'
  simp only [CodePoint.isLow, Bool.and_eq_true, decide_eq_true_eq] at hlow'
  unfold unitEscape
  rw [hexDigits_four (by omega), hexDigits_four (by omega)]
  simp only [List.map_cons, List.map_nil, List.cons_append, List.nil_append]
  rw [stringTail, if_neg (by decide), if_pos rfl]
  dsimp only
  rw [List.isEmpty_cons, if_neg Bool.false_ne_true, hex4?_digits (by omega)]
  dsimp only
  -- The reader looks for a low unit behind a high one, and here it finds one.
  split
  · next heq =>
    simp only [List.cons.injEq, true_and] at heq
    obtain ⟨rfl, rfl, rfl, rfl, rfl⟩ := heq
    rw [hhigh, hmore, if_pos (by rfl), hex4?_digits (by omega)]
    dsimp only
    rw [hlow, if_pos rfl]
  · next hother => exact absurd rfl (hother _ _ _ _ _)

/-- The escape of a character by its units. -/
theorem stringTail_charEscape (c : Char) (htail : tail ≠ []) :
    stringTail start (fuel + 1) ((charEscape c).map .char ++ tail)
      = (stringTail start fuel tail).map fun (s, r) => (.char c :: s, r) := by
  have hbound := CodePoint.valid_char c
  unfold charEscape
  -- A character of one unit is no half; one past these is written as a pair and joined again.
  by_cases h : c.toNat < 0x10000
  · have hlone : CodePoint.isHigh c.toNat = true → NoLow tail := fun hhigh =>
      absurd ((CodePoint.isHigh_char c).symm.trans hhigh) Bool.false_ne_true
    have hunit : CodePoint.ofNat c.toNat = .char c := CodePoint.ofNat_value (.char c)
    rw [if_pos h, stringTail_unit h hlone htail, hunit]
  · have hhigh : CodePoint.isHigh (0xd800 + (c.toNat - 0x10000) / 0x400) = true := by
      simp only [CodePoint.isHigh, Bool.and_eq_true, decide_eq_true_eq]
      omega
    have hlow : CodePoint.isLow (0xdc00 + (c.toNat - 0x10000) % 0x400) = true := by
      simp only [CodePoint.isLow, Bool.and_eq_true, decide_eq_true_eq]
      omega
    have hpair : CodePoint.paired (0xd800 + (c.toNat - 0x10000) / 0x400)
        (0xdc00 + (c.toNat - 0x10000) % 0x400) = .char c := by
      have hsum : 0x10000 + (0xd800 + (c.toNat - 0x10000) / 0x400 - 0xd800) * 0x400
          + (0xdc00 + (c.toNat - 0x10000) % 0x400 - 0xdc00) = c.toNat := by omega
      rw [CodePoint.paired, hsum, Char.ofNat_toNat]
    rw [if_neg h, List.map_append, List.append_assoc, stringTail_pair hhigh hlow htail, hpair]

/-- The letters of the one-letter escapes. -/
theorem mem_of_shortEscape? {e c : Char} (h : shortEscape? (.char e) = some c) :
    e ∈ ['"', '\\', '/', 'b', 'f', 'n', 'r', 't'] := by
  unfold shortEscape? at h
  split at h
  all_goals first
    | cases h
      done
    | next heq =>
        cases heq
        decide

/-- **What a character is written as**: a one-letter escape, an escape by units, or itself. -/
theorem writeChar_cases (ascii : Bool) (c : Char) :
    (∃ e, writeChar ascii c = ['\\', e] ∧ shortEscape? (.char e) = some c)
      ∨ writeChar ascii c = charEscape c
      ∨ (writeChar ascii c = [c] ∧ c ≠ '"' ∧ c ≠ '\\' ∧ 0x20 ≤ c.toNat
          ∧ (ascii = true → c.toNat ≤ 0x7e)) := by
  unfold writeChar
  -- In the order of the writer: seven short escapes, the long one, and the character itself.
  split_ifs with hquote hescape hn hr ht hf hb hunits
  · exact .inl ⟨_, rfl, by rw [hquote]; rfl⟩
  · exact .inl ⟨_, rfl, by rw [hescape]; rfl⟩
  · exact .inl ⟨_, rfl, by rw [hn]; rfl⟩
  · exact .inl ⟨_, rfl, by rw [hr]; rfl⟩
  · exact .inl ⟨_, rfl, by rw [ht]; rfl⟩
  · exact .inl ⟨_, rfl, by rw [hf]; rfl⟩
  · exact .inl ⟨_, rfl, by rw [hb]; rfl⟩
  · exact .inr (.inl rfl)
  · rw [not_or, not_and, Nat.not_lt, Nat.not_lt] at hunits
    exact .inr (.inr ⟨rfl, hquote, hescape, hunits⟩)

/-- One character is read as it was written. -/
theorem stringTail_writeChar (ascii : Bool) (c : Char) (htail : tail ≠ []) :
    stringTail start (fuel + 1) ((writeChar ascii c).map .char ++ tail)
      = (stringTail start fuel tail).map fun (s, r) => (.char c :: s, r) := by
  rcases writeChar_cases ascii c with ⟨e, hwrite, he⟩ | hwrite | ⟨hwrite, hquote, hescape, hcontrol, -⟩
  · rw [hwrite]
    exact stringTail_short he
  · rw [hwrite]
    exact stringTail_charEscape c htail
  · rw [hwrite]
    exact stringTail_plain (fun h => hquote (CodePoint.char.inj h))
      (fun h => hescape (CodePoint.char.inj h)) hcontrol

/-- **One point** is read as it was written, a first half where no second one follows. -/
theorem stringTail_writePoint (ascii : Bool) (p : CodePoint)
    (hlone : CodePoint.isHigh p.value = true → NoLow tail) (htail : tail ≠ []) :
    stringTail start (fuel + 1) ((writePoint ascii p).map .char ++ tail)
      = (stringTail start fuel tail).map fun (s, r) => (p :: s, r) := by
  cases p with
  | char c => exact stringTail_writeChar ascii c htail
  | half h =>
    have hbound : (CodePoint.half h).value < 0x10000 := Nat.lt_trans h.isSurrogate.2 (by decide)
    exact (stringTail_unit hbound hlone htail).trans (by rw [CodePoint.ofNat_value])

theorem noLow_of_ne {p : CodePoint} (h : p ≠ .char '\\') (rest : List CodePoint) :
    NoLow (p :: rest) := by
  intro l1 l2 l3 l4 behind heq
  exact absurd (List.cons.inj heq).1 h

theorem noLow_unitEscape {n : Nat} (h : n < 0x10000) (hlow : CodePoint.isLow n = false)
    (rest : List CodePoint) : NoLow ((unitEscape n).map .char ++ rest) := by
  intro l1 l2 l3 l4 behind heq
  unfold unitEscape at heq
  rw [hexDigits_four h] at heq
  simp only [List.map_cons, List.map_nil, List.cons_append, List.nil_append, List.cons.injEq,
    true_and] at heq
  obtain ⟨rfl, rfl, rfl, rfl, -⟩ := heq
  exact ⟨n, hex4?_digits h, hlow⟩

/-- What is written of a character begins with the escape of no second half. -/
theorem noLow_writeChar (ascii : Bool) (c : Char) (rest : List CodePoint) :
    NoLow ((writeChar ascii c).map .char ++ rest) := by
  -- No character is written so that a low unit stands in front: not as a short escape, not as itself, and
  -- a pair starts with its high unit.
  rcases writeChar_cases ascii c with ⟨e, hwrite, he⟩ | hwrite | ⟨hwrite, -, hescape, -⟩
  · rw [hwrite]
    intro l1 l2 l3 l4 behind heq
    obtain rfl : e = 'u' := by
      simp only [List.map_cons, List.cons_append, List.cons.injEq, CodePoint.char.injEq] at heq
      exact heq.2.1
    cases he
  · have hbound := CodePoint.valid_char c
    rw [hwrite, charEscape]
    split
    · next h => exact noLow_unitEscape h (CodePoint.isLow_char c) rest
    · have hlow : CodePoint.isLow (0xd800 + (c.toNat - 0x10000) / 0x400) = false := by
        simp only [CodePoint.isLow, Bool.and_eq_false_iff, decide_eq_false_iff_not]
        omega
      rw [List.map_append, List.append_assoc]
      exact noLow_unitEscape (by omega) hlow _
  · rw [hwrite]
    exact noLow_of_ne (fun h => hescape (CodePoint.char.inj h)) rest

/-- What is written of a point is not the escape of a second half, unless the point is one. -/
theorem noLow_writePoint (ascii : Bool) {p : CodePoint} (hlow : CodePoint.isLow p.value = false)
    (rest : List CodePoint) : NoLow ((writePoint ascii p).map .char ++ rest) := by
  cases p with
  | char c => exact noLow_writeChar ascii c rest
  | half h =>
    have hbound : (CodePoint.half h).value < 0x10000 := Nat.lt_trans h.isSurrogate.2 (by decide)
    exact noLow_unitEscape hbound hlow rest

theorem writePoint_ne_nil (ascii : Bool) (p : CodePoint) : writePoint ascii p ≠ [] := by
  cases p with
  | half h => exact List.cons_ne_nil _ _
  | char c =>
    rw [writePoint]
    -- Each of the three ways has at least one character.
    rcases writeChar_cases ascii c with ⟨e, hwrite, -⟩ | hwrite | ⟨hwrite, -⟩
    · rw [hwrite]
      exact List.cons_ne_nil _ _
    · rw [hwrite, charEscape]
      split
      · exact List.cons_ne_nil _ _
      · exact List.cons_ne_nil _ _
    · rw [hwrite]
      exact List.cons_ne_nil _ _

/-- **Strings** are read as they were written, up to the closing quote. -/
theorem stringTail_writePoints (ascii : Bool) {ps : List CodePoint} (hps : ps.IsChain CodePoint.Apart)
    (rest : List CodePoint) (h : ps.length < fuel) :
    stringTail start fuel ((ps.flatMap (writePoint ascii)).map .char ++ .char '"' :: rest)
      = .ok (ps, rest) := by
  induction ps generalizing fuel with
  | nil =>
    cases fuel with
    | zero => cases h
    | succ fuel =>
      rw [List.flatMap_nil, List.map_nil, List.nil_append, stringTail.eq_def]
      dsimp only
      rw [if_pos rfl]
  | cons p ps ih =>
    cases fuel with
    | zero => cases h
    | succ fuel =>
      -- What follows is the closing quote, or a point that is no second half if this one is a first.
      have hlone : CodePoint.isHigh p.value = true →
          NoLow ((ps.flatMap (writePoint ascii)).map .char ++ .char '"' :: rest) := by
        intro hhigh
        cases ps with
        | nil => exact noLow_of_ne (by decide) rest
        | cons q ps =>
          have hlow : CodePoint.isLow q.value = false := by
            rw [← Bool.not_eq_true]
            exact fun hlow => (List.isChain_cons_cons.mp hps).1 ⟨hhigh, hlow⟩
          rw [List.flatMap_cons, List.map_append, List.append_assoc]
          exact noLow_writePoint ascii hlow _
      rw [List.flatMap_cons, List.map_append, List.append_assoc,
        stringTail_writePoint ascii p hlone (by simp), ih hps.tail (Nat.lt_of_succ_lt_succ h)]
      rfl

/-! ### Integers -/

/-- What cannot belong to a number: the end, or a character that is no digit, point or exponent. -/
def Closes (rest : List CodePoint) : Prop :=
  ∀ p ∈ rest.head?, ∃ c, p = .char c ∧ c.isDigit = false ∧ c ≠ '.' ∧ c ≠ 'e' ∧ c ≠ 'E'

theorem closes_nil : Closes [] := by
  intro p hp
  cases hp

/-- A text that begins with a separator or a closing bracket, which stays so with more behind it. -/
theorem Closes.of_cons {text : List Char}
    (h : ∃ c cs, text = c :: cs ∧ c ∈ [',', ']', '\x7d']) (rest : List CodePoint) :
    Closes (text.map .char ++ rest) := by
  obtain ⟨c, cs, rfl, hc⟩ := h
  intro p hp
  obtain rfl : .char c = p := Option.some.inj hp
  refine ⟨c, rfl, ?_⟩
  simp only [List.mem_cons, List.not_mem_nil, or_false] at hc
  rcases hc with rfl | rfl | rfl <;> decide

variable {rest : List CodePoint}

theorem value_toDigits (n : Nat) : Digits.value (Nat.toDigits 10 n) = n := by
  have h := Nat.ofDigitChars_ten_toDigits (n := n)
  rw [Nat.ofDigitChars_eq_foldl] at h
  simp only [Nat.mul_comm 10] at h
  exact h

theorem isDigit_of_mem_toDigits {n : Nat} {c : Char} (h : c ∈ Nat.toDigits 10 n) :
    c.isDigit = true :=
  Nat.isDigit_of_mem_toDigits (by decide) (by decide) h

/-- The digits of a number other than zero do not begin with a zero. -/
theorem toDigits_eq_cons {n : Nat} (h : 0 < n) : ∃ d ds, Nat.toDigits 10 n = d :: ds ∧ d ≠ '0' := by
  induction n using Nat.strongRecOn with
  | ind n ih =>
    rw [Nat.toDigits_eq_if (by decide)]
    -- Digits are added at the end, so the first one is that of the number without its last digit.
    by_cases hlt : n < 10
    · have hdigit : ∀ d : Fin 10, 0 < d.val → Nat.digitChar d.val ≠ '0' := by decide
      rw [if_pos hlt]
      exact ⟨_, [], rfl, hdigit ⟨n, hlt⟩ h⟩
    · obtain ⟨d, ds, hds, hd⟩ := ih (n / 10) (by omega) (by omega)
      rw [if_neg hlt, hds]
      exact ⟨d, _, rfl, hd⟩

theorem span_of_closes (hrest : Closes rest) : Digits.span rest = ([], rest) := by
  unfold Digits.span
  split
  · next c rest =>
    obtain ⟨d, heq, hdigit, -⟩ := hrest _ rfl
    obtain rfl := CodePoint.char.inj heq
    rw [hdigit, if_neg Bool.false_ne_true]
  · rfl

theorem span_append {ds : List Char} (hds : ∀ d ∈ ds, d.isDigit = true) (hrest : Closes rest) :
    Digits.span (ds.map .char ++ rest) = (ds, rest) := by
  induction ds with
  | nil => exact span_of_closes hrest
  | cons d ds ih =>
    rw [List.forall_mem_cons] at hds
    rw [List.map_cons, List.cons_append, Digits.span, hds.1, if_pos rfl, ih hds.2]

theorem fraction_of_closes (hrest : Closes rest) : fraction rest = ([], rest) := by
  unfold fraction
  split
  · obtain ⟨c, heq, -, hpoint, -⟩ := hrest _ rfl
    exact absurd (CodePoint.char.inj heq).symm hpoint
  · rfl

theorem exponent_of_closes (hrest : Closes rest) : exponent rest = (none, rest) := by
  unfold exponent
  split
  · next e rest =>
    -- What closes a number is not the mark of an exponent.
    obtain ⟨c, rfl, -, -, he, hE⟩ := hrest e rfl
    have hno : ¬(CodePoint.char c = .char 'e' ∨ CodePoint.char c = .char 'E') := by
      rw [CodePoint.char.injEq, CodePoint.char.injEq, not_or]
      exact ⟨he, hE⟩
    rw [if_neg hno]
  · rfl

/-- **Integers** are read as they were written. -/
theorem number_toDigits {n : Nat} (hlength : (Nat.toDigits 10 n).length ≤ 4300)
    (hrest : Closes rest) (negative : Bool) :
    number start negative ((Nat.toDigits 10 n).map .char ++ rest)
      = .ok (.int (if negative then -(n : Int) else n), rest) := by
  have hsome : (Nat.toDigits 10 n).isEmpty = false := by
    simp
  unfold number
  split
  next whole behind hsplit =>
    -- The digits are split off the rest, also where the only one is a zero.
    have hwhole : (Nat.toDigits 10 n, rest) = (whole, behind) := by
      rw [← hsplit]
      by_cases h : 0 < n
      · obtain ⟨d, ds, hds, hd⟩ := toDigits_eq_cons h
        split
        · next r heq =>
          rw [hds] at heq
          exact absurd (CodePoint.char.inj (List.cons.inj heq).1) hd
        · rw [span_append (fun d hd => isDigit_of_mem_toDigits hd) hrest]
      · obtain rfl : n = 0 := by omega
        rw [Nat.toDigits_zero]
        rfl
    obtain ⟨rfl, rfl⟩ := Prod.mk.inj hwhole
    rw [hsome, if_neg Bool.false_ne_true, fraction_of_closes hrest]
    dsimp only
    rw [exponent_of_closes hrest]
    dsimp only
    rw [if_pos ⟨rfl, rfl⟩, if_neg (Nat.not_lt.mpr hlength), value_toDigits]

end Json
end ChatProbe

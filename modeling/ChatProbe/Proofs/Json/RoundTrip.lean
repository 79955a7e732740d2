import ChatProbe.Proofs.Json.Tokens
import ChatProbe.Proofs.Table
import ChatProbe.Proofs.Text.Utf8
/-!
# Documents read back

A document that is written reads back as it was (`read_write`), in every style
whose separators are the marks of JSON with spaces behind them (`JsonStyle.Regular`). This is so of
an `Exact` document: its numbers are integers that are not too long to read, every object names
each member once, and halves stand apart in all texts and names.

The induction is on the document and carries what follows it in the text, which must not extend a
number (`value_writeList`, `elements_writeElements`, `members_writeMembers`). The fuel of a reader is
enough where it is no less than the length of what is still to be read.
-/

namespace ChatProbe

/-- Separators are the marks of JSON with spaces behind them. -/
structure JsonStyle.Regular (style : JsonStyle) : Prop where
  item : ∃ n, style.itemSeparator.toList = ',' :: List.replicate n ' '
  name : ∃ n, style.nameSeparator.toList = ':' :: List.replicate n ' '

theorem JsonStyle.regular_spaced : JsonStyle.spaced.Regular := ⟨⟨1, by decide⟩, ⟨1, by decide⟩⟩

theorem JsonStyle.regular_compact : JsonStyle.compact.Regular := ⟨⟨0, by decide⟩, ⟨0, by decide⟩⟩

namespace Json

mutual

/-- Documents without binary numbers, with integers of a readable length, with halves that stand apart,
and with distinct names. -/
def Exact : Json → Prop
  | .null | .bool _ => True
  | .str s => s.Apart
  | .int i => (Nat.toDigits 10 i.natAbs).length ≤ 4300
  | .float _ => False
  | .array xs => ExactElements xs
  | .object ms => (ms.map (·.1)).Nodup ∧ ExactMembers ms

/-- `Exact` of every element. -/
def ExactElements : List Json → Prop
  | [] => True
  | x :: xs => Exact x ∧ ExactElements xs

/-- `Exact` of every member. -/
def ExactMembers : List (Str × Json) → Prop
  | [] => True
  | (name, v) :: ms => name.Apart ∧ Exact v ∧ ExactMembers ms

end

variable {style : JsonStyle} {fuel : Nat} {rest : List CodePoint}

/-- The points of two passages, one behind the other, in front of a rest. -/
theorem points_append (cs ds : List Char) (rest : List CodePoint) :
    (cs ++ ds).map .char ++ rest = cs.map .char ++ (ds.map .char ++ rest) := by
  rw [List.map_append, List.append_assoc]

/-! ### Blanks -/

theorem skipBlanks_cons {p : CodePoint} (h : isJsonBlank p = false) (cs : List CodePoint) :
    skipBlanks (p :: cs) = p :: cs :=
  List.dropWhile_cons_of_neg (by rw [h]; exact Bool.false_ne_true)

theorem skipBlanks_replicate (n : Nat) (cs : List CodePoint) :
    skipBlanks (List.replicate n (.char ' ') ++ cs) = skipBlanks cs := by
  induction n with
  | zero => rfl
  | succ n ih =>
    rw [List.replicate_succ, List.cons_append, skipBlanks, List.dropWhile_cons_of_pos rfl]
    exact ih

/-! ### Values without parts -/

/-- A word stands behind no letter but its first. -/
theorem behind?_of_ne {c d : Char} (h : d ≠ c) (ws : List Char) (cs : List CodePoint) :
    behind? (c :: ws) (.char d :: cs) = none := by
  rw [behind?, if_neg h]

theorem word?_of_isDigit {c : Char} (h : c.isDigit = true) (cs : List CodePoint) :
    word? (.char c :: cs) = none := by
  refine List.findSome?_eq_none_iff.mpr fun w hw => ?_
  -- No word begins with a digit.
  have hfirst : ∀ w ∈ words, ∃ d ds, w.1 = d :: ds ∧ d.isDigit = false := by
    simp only [words, List.forall_mem_cons, List.not_mem_nil, false_implies, implies_true, and_true]
    exact ⟨⟨_, _, rfl, rfl⟩, ⟨_, _, rfl, rfl⟩, ⟨_, _, rfl, rfl⟩, ⟨_, _, rfl, rfl⟩, ⟨_, _, rfl, rfl⟩,
      _, _, rfl, rfl⟩
  obtain ⟨d, ds, hds, hd⟩ := hfirst w hw
  have hne : c ≠ d := by
    rintro rfl
    exact Bool.false_ne_true (hd.symm.trans h)
  rw [hds, behind?_of_ne hne]
  rfl

/-- A value that begins with a digit is a number. -/
theorem value_of_isDigit {c : Char} (h : c.isDigit = true) (cs : List CodePoint) :
    value (fuel + 1) (.char c :: cs) = number (.char c :: cs) false (.char c :: cs) := by
  rw [value.eq_def]
  dsimp only
  rw [word?_of_isDigit h]
  dsimp only
  split
  all_goals first | rfl | (next heq => cases (List.cons.inj heq).1; cases h)

/-- A value that begins with a minus and a digit is a number. -/
theorem value_of_minus {c : Char} (h : c.isDigit = true) (cs : List CodePoint) :
    value (fuel + 1) (.char '-' :: .char c :: cs)
      = number (.char '-' :: .char c :: cs) true (.char c :: cs) := by
  have hne : c ≠ 'I' := by
    rintro rfl
    cases h
  have hword : word? (.char '-' :: .char c :: cs) = none := by
    -- Behind the minus of a word stands a letter.
    simp [word?, words, behind?, hne]
  rw [value, hword]

theorem isDigit_of_toDigits_eq_cons {n : Nat} {d : Char} {ds : List Char}
    (h : Nat.toDigits 10 n = d :: ds) : d.isDigit = true := by
  refine isDigit_of_mem_toDigits (n := n) ?_
  rw [h]
  exact List.mem_cons_self ..

theorem isJsonBlank_of_isDigit {c : Char} (h : c.isDigit = true) : isJsonBlank (.char c) = false := by
  cases hblank : isJsonBlank (.char c) with
  | false => rfl
  | true =>
    simp only [isJsonBlank, Bool.or_eq_true, beq_iff_eq] at hblank
    rcases hblank with ((rfl | rfl) | rfl) | rfl
    all_goals cases h

theorem value_writeInt {i : Int} (hlength : (Nat.toDigits 10 i.natAbs).length ≤ 4300)
    (hrest : Closes rest) : value (fuel + 1) ((writeInt i).map .char ++ rest) = .ok (.int i, rest) := by
  obtain ⟨d, ds, hds⟩ := List.exists_cons_of_ne_nil (Nat.toDigits_ne_nil (n := i.natAbs) (b := 10))
  have hd := isDigit_of_toDigits_eq_cons hds
  unfold writeInt
  -- The sign is read first; what is left are the digits of the absolute value.
  by_cases hneg : i < 0
  · have habs : -(i.natAbs : Int) = i := by omega
    rw [if_pos hneg, List.map_cons, List.cons_append, hds, List.map_cons, List.cons_append,
      value_of_minus hd, ← List.cons_append, ← List.map_cons, ← hds, number_toDigits hlength hrest,
      if_pos rfl, habs]
  · have habs : (i.natAbs : Int) = i := by omega
    rw [if_neg hneg, hds, List.map_cons, List.cons_append, value_of_isDigit hd, ← List.cons_append,
      ← List.map_cons, ← hds, number_toDigits hlength hrest, if_neg Bool.false_ne_true, habs]

/-- A string behind its opening quote is read up to the closing one. -/
theorem stringTail_writeString (ascii : Bool) {s : Str} (hs : s.Apart) (start : List CodePoint) :
    stringTail start
        (((s.points.flatMap (writePoint ascii)).map CodePoint.char ++ .char '"' :: rest).length + 1)
        ((s.points.flatMap (writePoint ascii)).map .char ++ .char '"' :: rest)
      = .ok (s.points, rest) := by
  have hlength := Text.Utf8.length_le_length_flatMap (writePoint_ne_nil ascii) s.points
  refine stringTail_writePoints ascii hs rest ?_
  rw [List.length_append, List.length_map]
  omega

theorem writeString_append (ascii : Bool) (s : Str) (rest : List Char) :
    writeString ascii s ++ rest = '"' :: (s.points.flatMap (writePoint ascii) ++ '"' :: rest) := by
  simp [writeString]

theorem points_writeString_append (ascii : Bool) (s : Str) (rest : List CodePoint) :
    (writeString ascii s).map .char ++ rest
      = .char '"' :: ((s.points.flatMap (writePoint ascii)).map .char ++ .char '"' :: rest) := by
  simp [writeString]

theorem value_writeString (ascii : Bool) {s : Str} (hs : s.Apart) :
    value (fuel + 1) ((writeString ascii s).map .char ++ rest) = .ok (.str s, rest) := by
  have hword : ∀ cs, word? (.char '"' :: cs) = none := fun cs => rfl
  rw [points_writeString_append, value, hword]
  dsimp only
  rw [stringTail_writeString ascii hs]
  show Except.ok (Json.str (.ofPoints s.points), rest) = _
  rw [Str.ofPoints_points]

/-! ### Elements and members -/

/-- A written document begins with an ASCII character that no reader skips or takes for an end. -/
theorem writeList_eq_cons (style : JsonStyle) {j : Json} (hj : j.Exact) :
    ∃ c cs, writeList style j = c :: cs ∧ isJsonBlank (.char c) = false ∧ c ≠ ']' ∧ c.toNat < 0x80 := by
  cases j with
  | null => exact ⟨_, _, rfl, by decide, by decide, by decide⟩
  | bool b =>
    cases b with
    | false => exact ⟨_, _, rfl, by decide, by decide, by decide⟩
    | true => exact ⟨_, _, rfl, by decide, by decide, by decide⟩
  | int i =>
    rw [writeList, writeInt]
    by_cases hneg : i < 0
    · rw [if_pos hneg]
      exact ⟨_, _, rfl, by decide, by decide, by decide⟩
    · rw [if_neg hneg]
      obtain ⟨d, ds, hds⟩ :=
        List.exists_cons_of_ne_nil (Nat.toDigits_ne_nil (n := i.natAbs) (b := 10))
      have hd := isDigit_of_toDigits_eq_cons hds
      refine ⟨d, ds, hds, isJsonBlank_of_isDigit hd, ?_, ?_⟩
      · rintro rfl
        cases hd
      -- The bracket comes behind all digits.
      · have hnine : d.toNat ≤ 0x39 := (Char.isDigit_iff_toNat.mp hd).2
        omega
  | float x => cases hj
  | str s => exact ⟨_, _, rfl, by decide, by decide, by decide⟩
  | array xs => exact ⟨_, _, rfl, by decide, by decide, by decide⟩
  | object ms => exact ⟨_, _, rfl, by decide, by decide, by decide⟩

theorem skipBlanks_writeList (style : JsonStyle) {j : Json} (hj : j.Exact)
    (tail : List CodePoint) :
    skipBlanks ((writeList style j).map .char ++ tail) = (writeList style j).map .char ++ tail := by
  obtain ⟨c, cs, hcs, hblank, -⟩ := writeList_eq_cons style hj
  rw [hcs, List.map_cons, List.cons_append, skipBlanks_cons hblank]

theorem writeElements_eq (x : Json) (xs : List Json) :
    writeElements style false (x :: xs)
      = style.itemSeparator.toList ++ writeElements style true (x :: xs) := rfl

theorem writeMembers_eq (m : Str × Json) (ms : List (Str × Json)) :
    writeMembers style false (m :: ms)
      = style.itemSeparator.toList ++ writeMembers style true (m :: ms) := rfl

/-- Behind a value in an array stands a comma or the closing bracket. -/
theorem writeElements_eq_cons (hstyle : style.Regular) (xs : List Json) :
    ∃ c cs, writeElements style false xs = c :: cs ∧ c ∈ [',', ']', '\x7d'] := by
  cases xs with
  | nil => exact ⟨']', [], rfl, by decide⟩
  | cons x xs =>
    obtain ⟨n, hn⟩ := hstyle.item
    rw [writeElements_eq, hn]
    exact ⟨',', _, rfl, by decide⟩

/-- Behind a member of an object stands a comma or the closing brace. -/
theorem writeMembers_eq_cons (hstyle : style.Regular) (ms : List (Str × Json)) :
    ∃ c cs, writeMembers style false ms = c :: cs ∧ c ∈ [',', ']', '\x7d'] := by
  cases ms with
  | nil => exact ⟨'\x7d', [], rfl, by decide⟩
  | cons m ms =>
    obtain ⟨n, hn⟩ := hstyle.item
    rw [writeMembers_eq, hn]
    exact ⟨',', _, rfl, by decide⟩

/-- The mark of a separator is read with the spaces behind it. -/
theorem separator_append {c : Char} {separator : List Char} {tail : List CodePoint}
    (hseparator : ∃ n, separator = c :: List.replicate n ' ') (htail : skipBlanks tail = tail) :
    ∃ r, separator.map .char ++ tail = .char c :: r ∧ skipBlanks r = tail := by
  obtain ⟨n, rfl⟩ := hseparator
  refine ⟨List.replicate n (.char ' ') ++ tail, ?_, by rw [skipBlanks_replicate, htail]⟩
  rw [List.map_cons, List.map_replicate, List.cons_append]

/-! ### Documents -/

theorem length_writeList_pos (style : JsonStyle) {j : Json} (hj : j.Exact) :
    0 < (writeList style j).length := by
  obtain ⟨c, cs, hcs, -⟩ := writeList_eq_cons style hj
  rw [hcs]
  exact Nat.succ_pos _

theorem length_writeString_pos (ascii : Bool) (s : Str) : 0 < (writeString ascii s).length :=
  Nat.succ_pos _

theorem skipBlanks_writeElements (style : JsonStyle) {x : Json} {xs : List Json}
    (hxs : ExactElements (x :: xs)) (tail : List CodePoint) :
    skipBlanks ((writeElements style true (x :: xs)).map .char ++ tail)
      = (writeElements style true (x :: xs)).map .char ++ tail := by
  rw [ExactElements] at hxs
  have htext : writeElements style true (x :: xs)
      = writeList style x ++ writeElements style false xs := rfl
  rw [htext, points_append, skipBlanks_writeList style hxs.1]

theorem skipBlanks_writeMembers (style : JsonStyle) (m : Str × Json) (ms : List (Str × Json))
    (tail : List CodePoint) :
    skipBlanks ((writeMembers style true (m :: ms)).map .char ++ tail)
      = (writeMembers style true (m :: ms)).map .char ++ tail :=
  skipBlanks_cons (by decide) _

/-- A bracket opens an array; what follows its blanks is no closing bracket where it has elements. -/
theorem value_of_bracket {c : Char} {cs : List CodePoint} (hblank : isJsonBlank (.char c) = false)
    (hbracket : c ≠ ']') :
    value (fuel + 1) (.char '[' :: .char c :: cs)
      = (elements fuel (.char c :: cs)).map fun (xs, r) => (.array xs, r) := by
  have hword : word? (.char '[' :: .char c :: cs) = none := rfl
  rw [value, hword]
  dsimp only
  rw [skipBlanks_cons hblank]
  split
  · next heq => exact absurd (CodePoint.char.inj (List.cons.inj heq).1) hbracket
  · rfl

/-- A brace opens an object, which has members where a quote follows. -/
theorem value_of_brace (cs : List CodePoint) :
    value (fuel + 1) (.char '\x7b' :: .char '"' :: cs)
      = (members fuel [] (.char '"' :: cs)).map fun (ms, r) => (.object ms, r) := rfl

/-- One element is read. What follows it says whether it is the last one. -/
theorem elements_of_value {cs after : List CodePoint} {x : Json}
    (hx : value fuel cs = .ok (x, after)) :
    elements (fuel + 1) cs
      = match skipBlanks after with
        | .char ']' :: r => .ok ([x], r)
        | .char ',' :: r => (elements fuel (skipBlanks r)).map fun (xs, r) => (x :: xs, r)
        | r => .error ⟨.expectedComma, r⟩ := by
  rewrite [elements, hx]
  rfl

/-- One member is read as it was written. What follows its value says whether it is the last one. -/
theorem members_of_name (ascii : Bool) {name : Str} {before : List (Str × Json)}
    {tail r after : List CodePoint} {v : Json} (hapart : name.Apart) (hname : name ∉ before.map (·.1))
    (htail : skipBlanks tail = .char ':' :: r) (hv : value fuel (skipBlanks r) = .ok (v, after)) :
    members (fuel + 1) before ((writeString ascii name).map .char ++ tail)
      = match skipBlanks after with
        | .char '\x7d' :: r => .ok (before ++ [(name, v)], r)
        | .char ',' :: r => members fuel (before ++ [(name, v)]) (skipBlanks r)
        | r => .error ⟨.expectedComma, r⟩ := by
  rw [points_writeString_append, members, stringTail_writeString ascii hapart]
  dsimp only
  split
  case h_1 r' heq =>
    obtain rfl := (List.cons.inj (htail.symm.trans heq)).2
    rw [hv, Str.ofPoints_points]
    dsimp only
    -- The name is new, so the member goes to the end.
    rewrite [Table.write_of_not_mem hname]
    rfl
  case h_2 hcolon => exact absurd htail (hcolon r)

mutual

/-- **A document** is read as it was written. -/
theorem value_writeList (hstyle : style.Regular) :
    ∀ (j : Json) (fuel : Nat) (rest : List CodePoint), j.Exact →
      (writeList style j).length ≤ fuel → Closes rest →
        value fuel ((writeList style j).map .char ++ rest) = .ok (j, rest) := by
  intro j fuel rest hj hfuel hrest
  -- Something was written, so there is fuel for a step, and the parts take less than the whole.
  obtain ⟨fuel, rfl⟩ : ∃ f, fuel = f + 1 := by
    obtain ⟨c, cs, hcs, -⟩ := writeList_eq_cons style hj
    rw [hcs, List.length_cons] at hfuel
    exact ⟨fuel - 1, by omega⟩
  match j, hj with
  | .null, _ => rfl
  | .bool true, _ => rfl
  | .bool false, _ => rfl
  | .int i, hj =>
    rw [Exact] at hj
    rw [writeList]
    exact value_writeInt hj hrest
  | .str s, hj =>
    rw [writeList]
    exact value_writeString style.ascii hj
  | .array [], _ => rfl
  | .array (x :: xs), hj =>
    rw [Exact] at hj
    rw [writeList, List.length_cons] at hfuel
    have helements := elements_writeElements hstyle (x :: xs) fuel rest (List.cons_ne_nil x xs) hj
      (Nat.le_of_succ_le_succ hfuel)
    -- The text goes on with the first element, which is not the closing bracket.
    obtain ⟨c, cs, hcs, hblank, hbracket, -⟩ := writeList_eq_cons style hj.1
    have htext : (writeElements style true (x :: xs)).map .char ++ rest
        = .char c :: (cs.map .char ++ ((writeElements style false xs).map .char ++ rest)) := by
      rw [writeElements, hcs]
      simp
    rw [htext] at helements
    rw [writeList, List.map_cons, List.cons_append, htext, value_of_bracket hblank hbracket, helements]
    rfl
  | .object [], _ => rfl
  | .object (m :: ms), hj =>
    rw [Exact] at hj
    rw [writeList, List.length_cons] at hfuel
    have hmembers := members_writeMembers hstyle (m :: ms) [] fuel rest (List.cons_ne_nil m ms)
      hj.1 hj.2 (Nat.le_of_succ_le_succ hfuel)
    obtain ⟨cs, hcs⟩ :
        ∃ cs, (writeMembers style true (m :: ms)).map .char ++ rest = .char '"' :: cs := by
      rw [writeMembers]
      exact ⟨_, rfl⟩
    rw [hcs] at hmembers
    rw [writeList, List.map_cons, List.cons_append, hcs, value_of_brace, hmembers]
    rfl

/-- The elements of an array are read as they were written, up to the closing bracket. -/
theorem elements_writeElements (hstyle : style.Regular) :
    ∀ (xs : List Json) (fuel : Nat) (rest : List CodePoint), xs ≠ [] → ExactElements xs →
      (writeElements style true xs).length ≤ fuel →
        elements fuel ((writeElements style true xs).map .char ++ rest) = .ok (xs, rest) := by
  intro xs fuel rest hne hxs hfuel
  match xs, hne with
  | x :: xs, _ =>
    rw [ExactElements] at hxs
    have htext : writeElements style true (x :: xs)
        = writeList style x ++ writeElements style false xs := rfl
    have hfirst := length_writeList_pos style hxs.1
    have hends := writeElements_eq_cons hstyle xs
    have hlast : 0 < (writeElements style false xs).length := by
      obtain ⟨c, cs, hcs, -⟩ := hends
      rw [hcs]
      exact Nat.succ_pos _
    rw [htext, List.length_append] at hfuel
    -- The text has a character at least, so there is fuel for one step.
    obtain ⟨fuel, rfl⟩ : ∃ f, fuel = f + 1 := ⟨fuel - 1, by omega⟩
    have hx := value_writeList hstyle x fuel ((writeElements style false xs).map .char ++ rest) hxs.1
      (by omega) (.of_cons hends rest)
    rw [htext, points_append, elements_of_value hx]
    match xs with
    | [] => rfl
    | y :: ys =>
      rw [writeElements_eq] at hfuel ⊢
      rw [List.length_append] at hfuel
      -- The rest is shorter than the whole, so the fuel that is left is enough for it.
      have hys := elements_writeElements hstyle (y :: ys) fuel rest (List.cons_ne_nil y ys) hxs.2
        (by omega)
      obtain ⟨r, hr, hblanks⟩ := separator_append hstyle.item
        (skipBlanks_writeElements style hxs.2 rest)
      rw [points_append, hr, skipBlanks_cons (by decide)]
      show (elements fuel (skipBlanks r)).map _ = _
      rw [hblanks, hys]
      rfl

/-- The members of an object are read as they were written, up to the closing brace. -/
theorem members_writeMembers (hstyle : style.Regular) :
    ∀ (ms before : List (Str × Json)) (fuel : Nat) (rest : List CodePoint), ms ≠ [] →
      ((before ++ ms).map (·.1)).Nodup → ExactMembers ms →
      (writeMembers style true ms).length ≤ fuel →
        members fuel before ((writeMembers style true ms).map .char ++ rest)
          = .ok (before ++ ms, rest) := by
  intro ms before fuel rest hne hnames hms hfuel
  match ms, hne with
  | (name, v) :: ms, _ =>
    rw [ExactMembers] at hms
    have htext : writeMembers style true ((name, v) :: ms)
        = writeString style.ascii name ++ (style.nameSeparator.toList
          ++ (writeList style v ++ writeMembers style false ms)) := rfl
    have hname := length_writeString_pos style.ascii name
    rw [htext, List.length_append, List.length_append, List.length_append] at hfuel
    obtain ⟨fuel, rfl⟩ : ∃ f, fuel = f + 1 := ⟨fuel - 1, by omega⟩
    have hv := value_writeList hstyle v fuel ((writeMembers style false ms).map .char ++ rest) hms.2.1
      (by omega) (.of_cons (writeMembers_eq_cons hstyle ms) rest)
    -- A name that was not read before is added behind the others.
    have hnew : name ∉ before.map (·.1) := by
      rw [List.map_append, List.nodup_append] at hnames
      exact fun hmem => hnames.2.2 _ hmem _ (List.mem_cons_self ..) rfl
    obtain ⟨r, hr, hblanks⟩ := separator_append hstyle.name
      (skipBlanks_writeList style hms.2.1 ((writeMembers style false ms).map .char ++ rest))
    rw [← hblanks] at hv
    have htail : skipBlanks (style.nameSeparator.toList.map .char
        ++ ((writeList style v).map .char ++ ((writeMembers style false ms).map .char ++ rest)))
          = .char ':' :: r := by
      rw [hr, skipBlanks_cons (by decide)]
    rw [htext, points_append, points_append, points_append,
      members_of_name style.ascii hms.1 hnew htail hv]
    match ms with
    | [] => rfl
    | m :: ms =>
      rw [writeMembers_eq] at hfuel ⊢
      rw [List.length_append] at hfuel
      have hnames' : ((before ++ [(name, v)] ++ (m :: ms)).map (·.1)).Nodup := by
        rw [List.append_assoc]
        exact hnames
      have hrest := members_writeMembers hstyle (m :: ms) (before ++ [(name, v)]) fuel rest
        (List.cons_ne_nil m ms) hnames' hms.2.2 (by omega)
      obtain ⟨r, hr, hblanks⟩ := separator_append hstyle.item
        (skipBlanks_writeMembers style m ms rest)
      rw [points_append, hr, skipBlanks_cons (by decide)]
      show members fuel (before ++ [(name, v)]) (skipBlanks r) = _
      rw [hblanks, hrest, List.append_assoc]
      rfl

end

/-- The points of a text that is written from a document hold this document. -/
theorem readPoints_write (hstyle : style.Regular) {j : Json} (hj : j.Exact) :
    readPoints ((writeList style j).map .char) = .ok j := by
  obtain ⟨c, cs, hcs, -, -, hascii⟩ := writeList_eq_cons style hj
  -- No document begins with a byte order mark, since its first character is ASCII.
  have hmark : ((writeList style j).map CodePoint.char).head? ≠ some (.char '\uFEFF') := by
    rw [hcs]
    rintro heq
    rw [CodePoint.char.inj (Option.some.inj heq)] at hascii
    exact absurd hascii (by decide)
  have hvalue := value_writeList hstyle j (2 * ((writeList style j).map CodePoint.char).length + 2) []
    hj (by rw [List.length_map]; omega) closes_nil
  rw [List.append_nil] at hvalue
  have hskip := skipBlanks_writeList style hj []
  rw [List.append_nil] at hskip
  rw [readPoints, readList, if_neg hmark, hskip, hvalue]
  rfl

end Json
end ChatProbe

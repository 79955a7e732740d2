import ChatProbe.Proofs.Json.Numerals
import ChatProbe.Proofs.Json.RoundTrip
/-!
# Which documents are written in the grammar

The writer has a word for each infinity and for NaN, and the grammar has none. So what is written of a
document is a text of the grammar just where none of the three stands in the document, at whatever depth
(`document_write_iff`).

Without special numbers the text is derived rule by rule, by induction on the document
(`Grammar.Value.writeList`). With one of them there is no derivation to be looked for: up to the first of
them the text is as the grammar has it, and so the letter that its word begins with stands outside the
strings (`Grammar.Shows.writeList`), where the grammar has no such letter.
-/

namespace ChatProbe
namespace Json
namespace Grammar

variable {style : JsonStyle} {cs rest : List Char}

/-! ### Strings -/

theorem isHexDigit_digitChar : ∀ d : Fin 16, IsHexDigit (Nat.digitChar d.val) := by
  unfold IsHexDigit IsDigit
  decide

theorem Quoted.unitEscape {n : Nat} (h : n < 0x10000) (hcs : Quoted cs rest) :
    Quoted (unitEscape n ++ cs) rest := by
  have hdigit : ∀ d < 16, IsHexDigit (Nat.digitChar d) := by
    intro d hd
    exact isHexDigit_digitChar ⟨d, hd⟩
  rw [Json.unitEscape, hexDigits_four h]
  refine .unit ?_ hcs
  simp only [List.forall_mem_cons, List.not_mem_nil, false_implies, implies_true, and_true]
  exact ⟨hdigit _ (by omega), hdigit _ (by omega), hdigit _ (by omega), hdigit _ (by omega)⟩

theorem Quoted.charEscape (c : Char) (hcs : Quoted cs rest) : Quoted (charEscape c ++ cs) rest := by
  have hbound := CodePoint.valid_char c
  rw [Json.charEscape]
  by_cases h : c.toNat < 0x10000
  · rw [if_pos h]
    exact .unitEscape h hcs
  · rw [if_neg h, List.append_assoc]
    exact .unitEscape (by omega) (.unitEscape (by omega) hcs)

/-- One character, in each of the ways it is written. -/
theorem Quoted.writeChar (ascii : Bool) (c : Char) (hcs : Quoted cs rest) :
    Quoted (writeChar ascii c ++ cs) rest := by
  rcases writeChar_cases ascii c with ⟨e, hwrite, he⟩ | hwrite | ⟨hwrite, hquote, hescape, hshown, -⟩
  · rw [hwrite]
    exact .short (mem_of_shortEscape? he) hcs
  · rw [hwrite]
    exact .charEscape c hcs
  · rw [hwrite]
    exact .plain hshown hquote hescape hcs

/-- One point: halves of pairs are escaped as units. -/
theorem Quoted.writePoint (ascii : Bool) (p : CodePoint) (hcs : Quoted cs rest) :
    Quoted (writePoint ascii p ++ cs) rest := by
  cases p with
  | char c => exact .writeChar ascii c hcs
  | half h => exact .unitEscape (Nat.lt_trans h.isSurrogate.2 (by decide)) hcs

/-- **Strings** are strings of the grammar, behind the opening quote. -/
theorem Quoted.writePoints (ascii : Bool) (ps : List CodePoint) (rest : List Char) :
    Quoted (ps.flatMap (Json.writePoint ascii) ++ '"' :: rest) rest := by
  induction ps with
  | nil => exact .close
  | cons p ps ih =>
    rw [List.flatMap_cons, List.append_assoc]
    exact .writePoint ascii p ih

/-! ### Documents without special numbers -/

theorem Blanks.replicate (n : Nat) (rest : List Char) : Blanks (List.replicate n ' ' ++ rest) rest := by
  refine .append (fun c hc => ?_) rest
  obtain rfl := List.eq_of_mem_replicate hc
  exact .inl rfl

/-- A separator is its mark with blanks behind it. -/
theorem exists_blanks_of_separator {c : Char} {separator : List Char}
    (hseparator : ∃ n, separator = c :: List.replicate n ' ') (rest : List Char) :
    ∃ behind, separator ++ rest = c :: behind ∧ Blanks behind rest := by
  obtain ⟨n, rfl⟩ := hseparator
  exact ⟨List.replicate n ' ' ++ rest, rfl, .replicate n rest⟩

mutual

/-- **A document** without special numbers is a value of the grammar. -/
theorem Value.writeList (hstyle : style.Regular) : ∀ (j : Json) (rest : List Char),
    j.hasSpecialFloat = false → Value (writeList style j ++ rest) rest := by
  intro j rest hj
  match j, hj with
  | .null, _ => exact .null
  | .bool true, _ => exact .true
  | .bool false, _ => exact .false
  | .int i, _ =>
    rw [Json.writeList]
    exact .number (.writeInt i rest)
  | .float (.finite negative m e), _ =>
    rw [Json.writeList]
    exact .number (.text negative m e rest)
  | .str s, _ =>
    rw [Json.writeList, writeString_append]
    exact .string (.writePoints style.ascii s.points rest)
  -- The grammar has rules of their own for what is empty.
  | .array [], _ => exact .emptyArray .none
  | .array (x :: xs), hj =>
    rw [hasSpecialFloat] at hj
    rw [Json.writeList]
    exact .array (Elements.writeElements hstyle (x :: xs) rest (List.cons_ne_nil x xs) hj)
  | .object [], _ => exact .emptyObject .none
  | .object (m :: ms), hj =>
    rw [hasSpecialFloat] at hj
    rw [Json.writeList]
    exact .object (Members.writeMembers hstyle (m :: ms) rest (List.cons_ne_nil m ms) hj)

/-- The elements of an array, up to its closing bracket. -/
theorem Elements.writeElements (hstyle : style.Regular) : ∀ (xs : List Json) (rest : List Char),
    xs ≠ [] → anySpecialFloat xs = false → Elements (writeElements style true xs ++ rest) rest := by
  intro xs rest hne hxs
  match xs, hne with
  | x :: xs, _ =>
    obtain ⟨hx, hxs⟩ := Bool.or_eq_false_iff.mp hxs
    have htext : Json.writeElements style true (x :: xs)
        = Json.writeList style x ++ Json.writeElements style false xs := rfl
    have hvalue := Value.writeList hstyle x (Json.writeElements style false xs ++ rest) hx
    rw [htext, List.append_assoc]
    match xs with
    | [] => exact .last .none hvalue .none
    | y :: ys =>
      have hmore := Elements.writeElements hstyle (y :: ys) rest (List.cons_ne_nil y ys) hxs
      -- The separator is a comma and blanks, and the rule for more elements takes the blanks in front of
      -- the next one.
      obtain ⟨behind, hmark, hblanks⟩ := exists_blanks_of_separator hstyle.item
        (Json.writeElements style true (y :: ys) ++ rest)
      rw [writeElements_eq, List.append_assoc, hmark] at hvalue ⊢
      exact .more .none hvalue .none (.of_blanks hblanks hmore)

/-- The members of an object, up to its closing brace. -/
theorem Members.writeMembers (hstyle : style.Regular) : ∀ (ms : List (Str × Json))
    (rest : List Char), ms ≠ [] → anyMemberSpecialFloat ms = false →
      Members (writeMembers style true ms ++ rest) rest := by
  intro ms rest hne hms
  match ms, hne with
  | (name, v) :: ms, _ =>
    obtain ⟨hv, hms⟩ := Bool.or_eq_false_iff.mp hms
    have htext : Json.writeMembers style true ((name, v) :: ms)
        = writeString style.ascii name ++ (style.nameSeparator.toList
          ++ (Json.writeList style v ++ Json.writeMembers style false ms)) := rfl
    have hvalue := Value.writeList hstyle v (Json.writeMembers style false ms ++ rest) hv
    -- The same for the colon behind a name.
    obtain ⟨behindName, hcolon, hblanksName⟩ := exists_blanks_of_separator hstyle.name
      (Json.writeList style v ++ (Json.writeMembers style false ms ++ rest))
    have hname := Quoted.writePoints style.ascii name.points (':' :: behindName)
    rw [htext, List.append_assoc, List.append_assoc, List.append_assoc, hcolon, writeString_append]
    match ms with
    | [] => exact .last .none hname .none hblanksName hvalue .none
    | m :: ms =>
      have hmore := Members.writeMembers hstyle (m :: ms) rest (List.cons_ne_nil m ms) hms
      obtain ⟨behind, hmark, hblanks⟩ := exists_blanks_of_separator hstyle.item
        (Json.writeMembers style true (m :: ms) ++ rest)
      rw [writeMembers_eq, List.append_assoc, hmark] at hvalue hblanksName
      exact .more .none hname .none hblanksName hvalue .none (.of_blanks hblanks hmore)

end

/-! ### Documents with special numbers -/

/-- Something foreign stands outside the strings. -/
def Shows (cs : List Char) : Prop := ∃ c ∈ bare .outside cs, IsForeign c

theorem Shows.cons {c : Char} (hc : IsForeign c) (cs : List Char) : Shows (c :: cs) := by
  have hquote : c ≠ '"' := by
    rintro rfl
    exact absurd hc (by decide)
  refine ⟨c, ?_, hc⟩
  rw [bare, if_neg hquote]
  exact List.mem_cons_self ..

/-- What shows behind a passage shows in front of it. -/
theorem Shows.of_passes (h : Passes cs rest) (hrest : Shows rest) : Shows cs := by
  obtain ⟨before, heq, -⟩ := h
  obtain ⟨c, hmem, hc⟩ := hrest
  exact ⟨c, by rw [heq]; exact List.mem_append_right _ hmem, hc⟩

/-- A separator of any style is passed. -/
theorem Passes.separator {c : Char} {separator : List Char} (hc : ¬IsForeign c ∧ c ≠ '"')
    (hseparator : ∃ n, separator = c :: List.replicate n ' ') (rest : List Char) :
    Passes (separator ++ rest) rest := by
  obtain ⟨behind, hmark, hblanks⟩ := exists_blanks_of_separator hseparator rest
  rw [hmark]
  exact .cons hc (.blanks hblanks)

/-- What sets an element or a member off from the one before it. -/
theorem Passes.setOff (hstyle : style.Regular) (first : Bool) (rest : List Char) :
    Passes ((if first then [] else style.itemSeparator.toList) ++ rest) rest := by
  cases first with
  | true => exact .refl rest
  | false => exact .separator (by decide) hstyle.item rest

/-- An infinity and a NaN are written with their words. -/
theorem Shows.text {x : Binary64} (h : (Json.float x).hasSpecialFloat = true) (rest : List Char) :
    Shows ((FloatLayout.json.text x).toList ++ rest) := by
  match x, h with
  | .nan, _ => exact .cons (.inl rfl) _
  | .infinite false, _ => exact .cons (.inr rfl) _
  | .infinite true, _ =>
    have hsign : Passes ('-' :: ('I' :: ("nfinity".toList ++ rest))) ('I' :: ("nfinity".toList ++ rest)) :=
      .cons (by decide) (.refl _)
    exact .of_passes hsign (.cons (.inr rfl) _)

mutual

/-- **A document** with a special number shows the letter that the word of the first one begins with. -/
theorem Shows.writeList (hstyle : style.Regular) : ∀ (j : Json) (rest : List Char),
    j.hasSpecialFloat = true → Shows (writeList style j ++ rest) := by
  intro j rest hj
  match j, hj with
  | .float x, hj =>
    rw [Json.writeList]
    exact .text hj rest
  | .array xs, hj =>
    rw [hasSpecialFloat] at hj
    -- The bracket is passed over, and the word stands somewhere behind it.
    have hopen : Passes ('[' :: (Json.writeElements style true xs ++ rest))
        (Json.writeElements style true xs ++ rest) := .cons (by decide) (.refl _)
    rw [Json.writeList]
    exact .of_passes hopen (Shows.writeElements hstyle true xs rest hj)
  | .object ms, hj =>
    rw [hasSpecialFloat] at hj
    have hopen : Passes ('\x7b' :: (Json.writeMembers style true ms ++ rest))
        (Json.writeMembers style true ms ++ rest) := .cons (by decide) (.refl _)
    rw [Json.writeList]
    exact .of_passes hopen (Shows.writeMembers hstyle true ms rest hj)

theorem Shows.writeElements (hstyle : style.Regular) : ∀ (first : Bool) (xs : List Json)
    (rest : List Char), anySpecialFloat xs = true → Shows (writeElements style first xs ++ rest) := by
  intro first xs rest hxs
  match xs, hxs with
  | x :: xs, hxs =>
    rw [Json.writeElements, List.append_assoc, List.append_assoc]
    refine .of_passes (.setOff hstyle first _) ?_
    -- The first special number is in this element, or this element is passed.
    cases hx : x.hasSpecialFloat with
    | true => exact Shows.writeList hstyle x _ hx
    | false =>
      rw [anySpecialFloat, hx, Bool.false_or] at hxs
      exact .of_passes (.value (.writeList hstyle x _ hx)) (Shows.writeElements hstyle false xs rest hxs)

theorem Shows.writeMembers (hstyle : style.Regular) : ∀ (first : Bool) (ms : List (Str × Json))
    (rest : List Char), anyMemberSpecialFloat ms = true →
      Shows (writeMembers style first ms ++ rest) := by
  intro first ms rest hms
  match ms, hms with
  | (name, v) :: ms, hms =>
    rw [Json.writeMembers, List.append_assoc, List.append_assoc, List.append_assoc, List.append_assoc,
      writeString_append]
    have hname := Quoted.writePoints style.ascii name.points (style.nameSeparator.toList
      ++ (Json.writeList style v ++ (Json.writeMembers style false ms ++ rest)))
    refine .of_passes (.setOff hstyle first _) (.of_passes (.quoted hname) ?_)
    refine .of_passes (.separator (by decide) hstyle.name _) ?_
    -- The word stands in this member, or it is passed over and the word stands in a later one.
    cases hv : v.hasSpecialFloat with
    | true => exact Shows.writeList hstyle v _ hv
    | false =>
      rw [anyMemberSpecialFloat, hv, Bool.false_or] at hms
      exact .of_passes (.value (.writeList hstyle v _ hv)) (Shows.writeMembers hstyle false ms rest hms)

end

end Grammar

/-- **What is written** of a document is a text of the grammar just where no infinity and no NaN stands in
it. -/
theorem document_write_iff {style : JsonStyle} (hstyle : style.Regular) (j : Json) :
    Grammar.Document (write style j).toList ↔ j.hasSpecialFloat = false := by
  rw [write, String.toList_ofList]
  constructor
  · intro hdocument
    rw [← Bool.not_eq_true]
    intro hspecial
    -- An infinity or a NaN shows a letter that no document has outside of its strings.
    obtain ⟨c, hmem, hc⟩ := Grammar.Shows.writeList hstyle j [] hspecial
    rw [List.append_nil] at hmem
    exact hdocument.plain c hmem hc
  · intro hj
    have hvalue := Grammar.Value.writeList hstyle j [] hj
    rw [List.append_nil] at hvalue
    exact ⟨_, [], .none, hvalue, .none⟩

end Json
end ChatProbe

import Mathlib.Data.List.Basic
/-!
# The grammar of JSON

`Json.Grammar.Document` says which texts belong to the JSON standard. It is no reader: neither the
reader nor the writer of this library is used in it, and the three words that both of them know beyond
the standard have no rule.

Every rule relates the characters in front of what it is about to those behind it, so that rules are put
one behind the other without cutting a text into pieces.

A text of the grammar is hard to refute rule by rule, since blanks and digits may be divided in many
ways. What refutes it here is a look at the characters outside its strings (`bare`): the grammar has
few of them, and no capital `N` or `I` is among them (`Document.plain`).
-/

namespace ChatProbe
namespace Json
namespace Grammar

/-! ### The rules -/

/-- Any number of characters of a class. -/
inductive Many (p : Char → Prop) : List Char → List Char → Prop
  | none {cs : List Char} : Many p cs cs
  | one {c : Char} {cs rest : List Char} (hc : p c) (hcs : Many p cs rest) : Many p (c :: cs) rest

/-- A blank. -/
def IsBlank (c : Char) : Prop := c = ' ' ∨ c = '\t' ∨ c = '\n' ∨ c = '\r'

/-- A decimal digit. -/
def IsDigit (c : Char) : Prop := '0' ≤ c ∧ c ≤ '9'

/-- A hexadecimal digit. -/
def IsHexDigit (c : Char) : Prop := IsDigit c ∨ ('a' ≤ c ∧ c ≤ 'f') ∨ ('A' ≤ c ∧ c ≤ 'F')

/-- Any number of blanks. -/
abbrev Blanks : List Char → List Char → Prop := Many IsBlank

/-- One or more digits. -/
inductive Digits : List Char → List Char → Prop
  | mk {c : Char} {cs rest : List Char} (hc : IsDigit c) (hcs : Many IsDigit cs rest) :
    Digits (c :: cs) rest

/-- The digits in front of a point: a zero alone, or no zero in front. -/
inductive Whole : List Char → List Char → Prop
  | zero {rest : List Char} : Whole ('0' :: rest) rest
  | digits {c : Char} {cs rest : List Char} (hc : IsDigit c) (hzero : c ≠ '0')
    (hcs : Many IsDigit cs rest) : Whole (c :: cs) rest

/-- A fraction, which may be left out. -/
inductive Fraction : List Char → List Char → Prop
  | absent {cs : List Char} : Fraction cs cs
  | present {cs rest : List Char} (hcs : Digits cs rest) : Fraction ('.' :: cs) rest

/-- An exponent, which may be left out. -/
inductive Exponent : List Char → List Char → Prop
  | absent {cs : List Char} : Exponent cs cs
  | unsigned {e : Char} {cs rest : List Char} (he : e = 'e' ∨ e = 'E') (hcs : Digits cs rest) :
    Exponent (e :: cs) rest
  | signed {e sign : Char} {cs rest : List Char} (he : e = 'e' ∨ e = 'E')
    (hsign : sign = '+' ∨ sign = '-') (hcs : Digits cs rest) : Exponent (e :: sign :: cs) rest

/-- A number without its sign. -/
inductive Unsigned : List Char → List Char → Prop
  | mk {as bs cs rest : List Char} (hwhole : Whole as bs) (hfraction : Fraction bs cs)
    (hexponent : Exponent cs rest) : Unsigned as rest

/-- A number. -/
inductive Number : List Char → List Char → Prop
  | positive {cs rest : List Char} (hcs : Unsigned cs rest) : Number cs rest
  | negative {cs rest : List Char} (hcs : Unsigned cs rest) : Number ('-' :: cs) rest

/-- A string behind its opening quote. -/
inductive Quoted : List Char → List Char → Prop
  | close {rest : List Char} : Quoted ('"' :: rest) rest
  | plain {c : Char} {cs rest : List Char} (hshown : 0x20 ≤ c.toNat) (hquote : c ≠ '"')
    (hescape : c ≠ '\\') (hcs : Quoted cs rest) : Quoted (c :: cs) rest
  | short {c : Char} {cs rest : List Char} (hc : c ∈ ['"', '\\', '/', 'b', 'f', 'n', 'r', 't'])
    (hcs : Quoted cs rest) : Quoted ('\\' :: c :: cs) rest
  | unit {h₁ h₂ h₃ h₄ : Char} {cs rest : List Char} (hhex : ∀ h ∈ [h₁, h₂, h₃, h₄], IsHexDigit h)
    (hcs : Quoted cs rest) : Quoted ('\\' :: 'u' :: h₁ :: h₂ :: h₃ :: h₄ :: cs) rest

mutual

/-- A value. -/
inductive Value : List Char → List Char → Prop
  | null {rest : List Char} : Value ('n' :: 'u' :: 'l' :: 'l' :: rest) rest
  | true {rest : List Char} : Value ('t' :: 'r' :: 'u' :: 'e' :: rest) rest
  | false {rest : List Char} : Value ('f' :: 'a' :: 'l' :: 's' :: 'e' :: rest) rest
  | number {cs rest : List Char} (hcs : Number cs rest) : Value cs rest
  | string {cs rest : List Char} (hcs : Quoted cs rest) : Value ('"' :: cs) rest
  | emptyArray {cs rest : List Char} (hcs : Blanks cs (']' :: rest)) : Value ('[' :: cs) rest
  | array {cs rest : List Char} (hcs : Elements cs rest) : Value ('[' :: cs) rest
  | emptyObject {cs rest : List Char} (hcs : Blanks cs ('\x7d' :: rest)) : Value ('\x7b' :: cs) rest
  | object {cs rest : List Char} (hcs : Members cs rest) : Value ('\x7b' :: cs) rest

/-- One or more elements, up to the closing bracket. -/
inductive Elements : List Char → List Char → Prop
  | last {as bs cs rest : List Char} (hbefore : Blanks as bs) (hvalue : Value bs cs)
    (hafter : Blanks cs (']' :: rest)) : Elements as rest
  | more {as bs cs ds rest : List Char} (hbefore : Blanks as bs) (hvalue : Value bs cs)
    (hafter : Blanks cs (',' :: ds)) (hds : Elements ds rest) : Elements as rest

/-- One or more members, up to the closing brace. -/
inductive Members : List Char → List Char → Prop
  | last {as bs cs ds es fs rest : List Char} (hbefore : Blanks as ('"' :: bs)) (hname : Quoted bs cs)
    (hcolon : Blanks cs (':' :: ds)) (hbehind : Blanks ds es) (hvalue : Value es fs)
    (hafter : Blanks fs ('\x7d' :: rest)) : Members as rest
  | more {as bs cs ds es fs gs rest : List Char} (hbefore : Blanks as ('"' :: bs))
    (hname : Quoted bs cs) (hcolon : Blanks cs (':' :: ds)) (hbehind : Blanks ds es)
    (hvalue : Value es fs) (hafter : Blanks fs (',' :: gs)) (hgs : Members gs rest) :
    Members as rest

end

/-- A text that is one JSON document: a value, with blanks around it. -/
def Document (text : List Char) : Prop := ∃ cs rest, Blanks text cs ∧ Value cs rest ∧ Blanks rest []

variable {p : Char → Prop} {as bs cs rest : List Char}

theorem Many.append {ds : List Char} (h : ∀ c ∈ ds, p c) (rest : List Char) :
    Many p (ds ++ rest) rest := by
  induction ds with
  | nil => exact .none
  | cons c ds ih =>
    rw [List.forall_mem_cons] at h
    exact .one h.1 (ih h.2)

theorem Many.trans (h : Many p as bs) (h' : Many p bs cs) : Many p as cs := by
  induction h with
  | none => exact h'
  | one hc _ ih => exact .one hc (ih h')

/-- Blanks may stand in front of elements. -/
theorem Elements.of_blanks (h : Blanks as bs) (hbs : Elements bs rest) : Elements as rest := by
  cases hbs with
  | last hbefore hvalue hafter => exact .last (h.trans hbefore) hvalue hafter
  | more hbefore hvalue hafter hds => exact .more (h.trans hbefore) hvalue hafter hds

/-- Blanks may stand in front of members. -/
theorem Members.of_blanks (h : Blanks as bs) (hbs : Members bs rest) : Members as rest := by
  cases hbs with
  | last hbefore hname hcolon hbehind hvalue hafter =>
    exact .last (h.trans hbefore) hname hcolon hbehind hvalue hafter
  | more hbefore hname hcolon hbehind hvalue hafter hgs =>
    exact .more (h.trans hbefore) hname hcolon hbehind hvalue hafter hgs

/-! ### Outside the strings -/

/-- Where a character of a text stands: outside the strings, in a string, or behind a backslash there. -/
inductive Place where
  | outside
  | inside
  | escaped

/-- The characters of a text that stand outside its strings. -/
def bare : Place → List Char → List Char
  | _, [] => []
  | .outside, c :: cs => if c = '"' then bare .inside cs else c :: bare .outside cs
  | .inside, c :: cs =>
    if c = '"' then bare .outside cs else if c = '\\' then bare .escaped cs else bare .inside cs
  | .escaped, _ :: cs => bare .inside cs

/-- A letter that the words beyond the standard have, and the grammar has in strings only. -/
def IsForeign (c : Char) : Prop := c = 'N' ∨ c = 'I'

instance (c : Char) : Decidable (IsForeign c) := inferInstanceAs (Decidable (c = 'N' ∨ c = 'I'))

/-- On the way through the first text to the second one, which ends it, nothing foreign is met outside
the strings. -/
def Passes (cs rest : List Char) : Prop :=
  ∃ before, bare .outside cs = before ++ bare .outside rest ∧ ∀ c ∈ before, ¬IsForeign c

theorem Passes.refl (cs : List Char) : Passes cs cs := ⟨[], rfl, fun _ h => by cases h⟩

theorem Passes.trans (h : Passes as bs) (h' : Passes bs cs) : Passes as cs := by
  obtain ⟨before, heq, hplain⟩ := h
  obtain ⟨before', heq', hplain'⟩ := h'
  refine ⟨before ++ before', by rw [heq, heq', List.append_assoc], ?_⟩
  rw [List.forall_mem_append]
  exact ⟨hplain, hplain'⟩

/-- A character that is neither a quote nor foreign is passed. -/
theorem Passes.cons {c : Char} (hc : ¬IsForeign c ∧ c ≠ '"') (h : Passes cs rest) :
    Passes (c :: cs) rest := by
  obtain ⟨before, heq, hplain⟩ := h
  refine ⟨c :: before, ?_, ?_⟩
  · rw [bare, if_neg hc.2, heq, List.cons_append]
  · rw [List.forall_mem_cons]
    exact ⟨hc.1, hplain⟩

theorem Passes.many (hp : ∀ c, p c → ¬IsForeign c ∧ c ≠ '"') (h : Many p cs rest) :
    Passes cs rest := by
  induction h with
  | none => exact .refl _
  | one hc _ ih => exact .cons (hp _ hc) ih

theorem not_foreign_of_isBlank {c : Char} (h : IsBlank c) : ¬IsForeign c ∧ c ≠ '"' := by
  rcases h with rfl | rfl | rfl | rfl <;> decide

theorem toNat_of_isDigit {c : Char} (h : IsDigit c) : 0x30 ≤ c.toNat ∧ c.toNat ≤ 0x39 := h

theorem not_foreign_of_isDigit {c : Char} (h : IsDigit c) : ¬IsForeign c ∧ c ≠ '"' := by
  have hbounds := toNat_of_isDigit h
  refine ⟨?_, ?_⟩
  · rintro (rfl | rfl)
    · exact absurd hbounds (by decide)
    · exact absurd hbounds (by decide)
  · rintro rfl
    exact absurd hbounds (by decide)

theorem Passes.blanks (h : Blanks cs rest) : Passes cs rest :=
  .many (fun _ => not_foreign_of_isBlank) h

theorem Passes.digits (h : Digits cs rest) : Passes cs rest := by
  cases h with
  | mk hc hcs => exact .cons (not_foreign_of_isDigit hc) (.many (fun _ => not_foreign_of_isDigit) hcs)

theorem Passes.number (h : Number cs rest) : Passes cs rest := by
  -- Part by part: whole number, fraction, exponent, sign. None of them has a letter but the mark of the
  -- exponent.
  have hwhole {as bs : List Char} (h : Whole as bs) : Passes as bs := by
    cases h with
    | zero => exact .cons (by decide) (.refl _)
    | digits hc _ hcs =>
      exact .cons (not_foreign_of_isDigit hc) (.many (fun _ => not_foreign_of_isDigit) hcs)
  have hfraction {as bs : List Char} (h : Fraction as bs) : Passes as bs := by
    cases h with
    | absent => exact .refl _
    | present hcs => exact .cons (by decide) (.digits hcs)
  have hmark {e : Char} (he : e = 'e' ∨ e = 'E') : ¬IsForeign e ∧ e ≠ '"' := by
    rcases he with rfl | rfl <;> decide
  have hexponent {as bs : List Char} (h : Exponent as bs) : Passes as bs := by
    cases h with
    | absent => exact .refl _
    | unsigned he hcs => exact .cons (hmark he) (.digits hcs)
    | signed he hsign hcs =>
      exact .cons (hmark he) (.cons (by rcases hsign with rfl | rfl <;> decide) (.digits hcs))
  have hunsigned {as bs : List Char} (h : Unsigned as bs) : Passes as bs := by
    cases h with
    | mk h₁ h₂ h₃ => exact ((hwhole h₁).trans (hfraction h₂)).trans (hexponent h₃)
  cases h with
  | positive hcs => exact hunsigned hcs
  | negative hcs => exact .cons (by decide) (hunsigned hcs)

/-- What stands behind an opening quote is inside a string up to the closing one. -/
theorem bare_inside (h : Quoted cs rest) : bare .inside cs = bare .outside rest := by
  have hhex {c : Char} (hc : IsHexDigit c) : c ≠ '"' ∧ c ≠ '\\' := by
    refine ⟨?_, ?_⟩
    all_goals
      rintro rfl
      exact absurd hc (by rw [IsHexDigit, IsDigit]; decide)
  -- The rules of a string take one character or one escape each, and inside a string all of these stay
  -- inside.
  induction h with
  | close => rw [bare, if_pos rfl]
  | plain _ hquote hescape _ ih => rw [bare, if_neg hquote, if_neg hescape, ih]
  | short _ _ ih =>
    rw [bare, if_neg (by decide), if_pos rfl, bare, ih]
  | unit hdigits _ ih =>
    simp only [List.forall_mem_cons, List.not_mem_nil, false_implies, implies_true, and_true]
      at hdigits
    obtain ⟨h₁, h₂, h₃, h₄⟩ := hdigits
    rw [bare, if_neg (by decide), if_pos rfl, bare, bare, if_neg (hhex h₁).1, if_neg (hhex h₁).2,
      bare, if_neg (hhex h₂).1, if_neg (hhex h₂).2, bare, if_neg (hhex h₃).1, if_neg (hhex h₃).2,
      bare, if_neg (hhex h₄).1, if_neg (hhex h₄).2, ih]

theorem Passes.quoted (h : Quoted cs rest) : Passes ('"' :: cs) rest :=
  ⟨[], by rw [bare, if_pos rfl, bare_inside h, List.nil_append], fun _ h => by cases h⟩

/-- A value with blanks around it, up to the mark behind it. -/
theorem Passes.element {c : Char} (hc : ¬IsForeign c ∧ c ≠ '"') (hbefore : Blanks as bs)
    (hvalue : Passes bs cs) (hafter : Blanks cs (c :: rest)) : Passes as rest := by
  have hmark : Passes (c :: rest) rest := .cons hc (.refl rest)
  exact ((Passes.blanks hbefore).trans hvalue).trans ((Passes.blanks hafter).trans hmark)

/-- A member with blanks around its name and its value, up to the mark behind it. -/
theorem Passes.member {c : Char} {ds es fs : List Char} (hc : ¬IsForeign c ∧ c ≠ '"')
    (hbefore : Blanks as ('"' :: bs)) (hname : Quoted bs cs) (hcolon : Blanks cs (':' :: ds))
    (hbehind : Blanks ds es) (hvalue : Passes es fs) (hafter : Blanks fs (c :: rest)) :
    Passes as rest := by
  have hnamed : Passes as cs := (Passes.blanks hbefore).trans (.quoted hname)
  have hmark : Passes (':' :: ds) ds := .cons (by decide) (.refl ds)
  exact hnamed.trans ((Passes.blanks hcolon).trans (hmark.trans (.element hc hbehind hvalue hafter)))

mutual

/-- **A value** of the grammar has nothing foreign outside its strings. -/
theorem Passes.value {cs rest : List Char} (h : Value cs rest) : Passes cs rest := by
  -- The words are passed over letter by letter, everything else by what it is made of.
  match h with
  | .null =>
    exact .cons (by decide) (.cons (by decide) (.cons (by decide) (.cons (by decide) (.refl rest))))
  | .true =>
    exact .cons (by decide) (.cons (by decide) (.cons (by decide) (.cons (by decide) (.refl rest))))
  | .false =>
    have hse : Passes ('s' :: 'e' :: rest) rest := .cons (by decide) (.cons (by decide) (.refl rest))
    exact .cons (by decide) (.cons (by decide) (.cons (by decide) hse))
  | .number hcs => exact .number hcs
  | .string hcs => exact .quoted hcs
  | .emptyArray hcs => exact .cons (by decide) (.element (by decide) .none (.refl _) hcs)
  | .array hcs => exact .cons (by decide) (Passes.elements hcs)
  | .emptyObject hcs => exact .cons (by decide) (.element (by decide) .none (.refl _) hcs)
  | .object hcs => exact .cons (by decide) (Passes.members hcs)

theorem Passes.elements {cs rest : List Char} (h : Elements cs rest) : Passes cs rest := by
  match h with
  | .last hbefore hvalue hafter =>
    exact .element (by decide) hbefore (Passes.value hvalue) hafter
  | .more hbefore hvalue hafter hds =>
    have hone := Passes.element (by decide) hbefore (Passes.value hvalue) hafter
    exact hone.trans (Passes.elements hds)

theorem Passes.members {cs rest : List Char} (h : Members cs rest) : Passes cs rest := by
  match h with
  | .last hbefore hname hcolon hbehind hvalue hafter =>
    exact .member (by decide) hbefore hname hcolon hbehind (Passes.value hvalue) hafter
  | .more hbefore hname hcolon hbehind hvalue hafter hgs =>
    have hone := Passes.member (by decide) hbefore hname hcolon hbehind (Passes.value hvalue) hafter
    exact hone.trans (Passes.members hgs)

end

/-- **A document** of the grammar has nothing foreign outside its strings. -/
theorem Document.plain {text : List Char} (h : Document text) :
    ∀ c ∈ bare .outside text, ¬IsForeign c := by
  obtain ⟨cs, rest, hbefore, hvalue, hafter⟩ := h
  obtain ⟨before, heq, hplain⟩ :=
    ((Passes.blanks hbefore).trans (Passes.value hvalue)).trans (Passes.blanks hafter)
  rw [heq, bare, List.append_nil]
  exact hplain

end Grammar
end Json
end ChatProbe

import ChatProbe.Proofs.Json.Grammar
import ChatProbe.Proofs.Json.Tokens
/-!
# Numbers in the grammar

What is written of an integer is a number of the grammar (`Grammar.Number.writeInt`), and so is what is
written of a binary number, except for the three that have a word (`Grammar.Number.text`).

The grammar allows no zero in front of other digits. So the point of the argument is that the digits found
for a binary number other than zero do not write zero (`Binary64.digits_shortestDigits_pos`): they read back
as the number, and zero reads back as zero only.
-/

namespace ChatProbe

/-! ### Digits that write no zero -/

theorem Decimal.digits_trimmed_pos (fuel : Nat) {d : Decimal} (h : 0 < d.digits) :
    0 < (trimmed fuel d).digits := by
  induction fuel generalizing d with
  | zero => exact h
  | succ fuel ih =>
    rw [trimmed]
    split
    · next hzero =>
      refine ih ?_
      -- Digits that end in zero and are not zero are ten at least.
      show 0 < d.digits / 10
      omega
    · exact h

namespace Binary64

variable {m count : Nat} {e k : Int}

/-- Zero reads back as no other number. -/
theorem pos_of_readsBack {digits : Nat} (hm : m ≠ 0)
    (h : (ofDecimal false digits k == .finite false m e) = true) : 0 < digits := by
  refine Nat.pos_of_ne_zero ?_
  rintro rfl
  rw [ofDecimal, if_pos rfl, beq_iff_eq, Binary64.finite.injEq] at h
  exact hm h.2.1.symm

theorem digits_onGrid?_pos (hm : m ≠ 0) {d : Decimal} (h : onGrid? m e count = some d) :
    0 < d.digits := by
  rw [onGrid?] at h
  dsimp only at h
  -- Up to four candidates are looked at; each one that is taken reads back, or comes behind another.
  split at h
  · next hlow hhigh =>
    cases h
    dsimp only
    have hpos := pos_of_readsBack hm hlow
    split <;> omega
  · next hlow hhigh =>
    cases h
    exact pos_of_readsBack hm hlow
  · cases h
    exact Nat.succ_pos _
  · cases h

/-- **The shortest digits** of a number other than zero do not write zero. -/
theorem digits_shortestDigits_pos (hm : m ≠ 0) : 0 < (shortestDigits m e).digits := by
  refine Decimal.digits_trimmed_pos 20 ?_
  cases hfound : (List.range 17).findSome? fun i => onGrid? m e (i + 1) with
  | none => exact Nat.pos_of_ne_zero hm
  | some d =>
    obtain ⟨i, -, hi⟩ := List.exists_of_findSome?_eq_some hfound
    exact digits_onGrid?_pos hm hi

end Binary64

namespace Json
namespace Grammar

/-! ### Runs of digits -/

variable {c : Char} {cs ds : List Char}

theorem isDigit_of_mem_toDigits {n : Nat} : ∀ c ∈ Nat.toDigits 10 n, IsDigit c := by
  intro c hc
  exact Char.isDigit_iff_toNat.mp (Json.isDigit_of_mem_toDigits hc)

theorem isDigit_of_mem_zeros (count : Nat) : ∀ c ∈ FloatLayout.zeros count, IsDigit c := by
  intro c hc
  obtain rfl := List.eq_of_mem_replicate hc
  rw [IsDigit]
  decide

theorem Digits.append (h : ∀ d ∈ ds, IsDigit d) (hne : ds ≠ []) (rest : List Char) :
    Digits (ds ++ rest) rest := by
  obtain ⟨c, cs, rfl⟩ := List.exists_cons_of_ne_nil hne
  rw [List.forall_mem_cons] at h
  exact .mk h.1 (.append h.2 rest)

theorem Whole.append (h : ∀ d ∈ c :: cs, IsDigit d) (hzero : c ≠ '0') (rest : List Char) :
    Whole (c :: cs ++ rest) rest := by
  rw [List.forall_mem_cons] at h
  exact .digits h.1 hzero (.append h.2 rest)

/-! ### Integers -/

theorem Unsigned.toDigits (n : Nat) (rest : List Char) : Unsigned (Nat.toDigits 10 n ++ rest) rest := by
  refine .mk ?_ .absent .absent
  -- Zero is a digit of its own, and all other numbers start with another digit.
  by_cases h : 0 < n
  · obtain ⟨d, ds, hds, hd⟩ := toDigits_eq_cons h
    have hdigits := isDigit_of_mem_toDigits (n := n)
    rw [hds] at hdigits ⊢
    exact .append hdigits hd rest
  · obtain rfl : n = 0 := by omega
    rw [Nat.toDigits_zero]
    exact .zero

/-- **Integers** are numbers of the grammar. -/
theorem Number.writeInt (i : Int) (rest : List Char) : Number (writeInt i ++ rest) rest := by
  rw [Json.writeInt]
  split
  · exact .negative (.toDigits _ rest)
  · exact .positive (.toDigits _ rest)

/-! ### Binary numbers -/

theorem Exponent.exponentText (width : Nat) (x : Int) (rest : List Char) :
    Exponent ('e' :: FloatLayout.exponentText width x ++ rest) rest := by
  have hdigits : ∀ d ∈ FloatLayout.zeros (width - (Nat.toDigits 10 x.natAbs).length)
      ++ Nat.toDigits 10 x.natAbs, IsDigit d := by
    rw [List.forall_mem_append]
    exact ⟨isDigit_of_mem_zeros _, isDigit_of_mem_toDigits⟩
  refine .signed (.inl rfl) ?_ (.append hdigits ?_ rest)
  · split
    · exact .inr rfl
    · exact .inl rfl
  -- Zeros may stand in front, but the digits themselves are never missing.
  · exact List.append_ne_nil_of_right_ne_nil _ Nat.toDigits_ne_nil

/-- Digits in front of a point and digits behind it. -/
theorem Unsigned.pointed {rest : List Char} (hwhole : Whole cs ('.' :: (ds ++ rest)))
    (hds : ∀ d ∈ ds, IsDigit d) (hne : ds ≠ []) : Unsigned cs rest :=
  .mk hwhole (.present (.append hds hne rest)) .absent

/-- A number that is laid out in any of the four ways, by where its point stands. -/
theorem Unsigned.decimalText {d : Decimal} (hd : 0 < d.digits) (rest : List Char) :
    Unsigned (FloatLayout.json.decimalText d ++ rest) rest := by
  obtain ⟨c, cs, hcs, hzero⟩ := toDigits_eq_cons hd
  have hdigits := isDigit_of_mem_toDigits (n := d.digits)
  unfold FloatLayout.decimalText
  rw [hcs] at hdigits ⊢
  dsimp only
  generalize ((c :: cs).length : Int) + d.exponent = point
  split
  · split
    · -- The point stands in front of the digits.
      have hall : ∀ d ∈ FloatLayout.zeros (-point).toNat ++ c :: cs, IsDigit d := by
        rw [List.forall_mem_append]
        exact ⟨isDigit_of_mem_zeros _, hdigits⟩
      have hne : FloatLayout.zeros (-point).toNat ++ c :: cs ≠ [] :=
        List.append_ne_nil_of_right_ne_nil _ (List.cons_ne_nil c cs)
      exact .pointed .zero hall hne
    · split
      · -- The point stands behind the digits.
        have hall : ∀ d ∈ c :: (cs ++ FloatLayout.zeros (point.toNat - (c :: cs).length)),
            IsDigit d := by
          rw [← List.cons_append, List.forall_mem_append]
          exact ⟨hdigits, isDigit_of_mem_zeros _⟩
        rw [List.append_assoc, List.cons_append]
        exact .pointed (.append hall hzero _) (isDigit_of_mem_zeros 1) (by decide)
      · -- The point stands between two digits.
        next hleft hright =>
        obtain ⟨k, hk⟩ : ∃ k, point.toNat = k + 1 := ⟨point.toNat - 1, by omega⟩
        have hbound : k < cs.length := by
          rw [List.length_cons] at hright
          omega
        have hbefore : ∀ d ∈ c :: cs.take k, IsDigit d := by
          intro d hd
          exact hdigits d (List.mem_of_mem_take (i := k + 1) (by rwa [List.take_succ_cons]))
        have hbehind : ∀ d ∈ cs.drop k, IsDigit d := by
          intro d hd
          exact hdigits d (List.mem_cons_of_mem c (List.mem_of_mem_drop hd))
        have hne : cs.drop k ≠ [] := by
          rw [Ne, List.drop_eq_nil_iff]
          omega
        rw [hk, List.take_succ_cons, List.drop_succ_cons, List.append_assoc]
        exact .pointed (.append hbefore hzero _) hbehind hne
  · -- There is an exponent, and a point where there is more than one digit.
    have hexponent := Exponent.exponentText FloatLayout.json.exponentWidth (point - 1) rest
    have hfirst : ∀ tail, Whole (c :: tail) tail := by
      intro tail
      exact .digits (hdigits c (List.mem_cons_self ..)) hzero .none
    rw [List.append_assoc]
    cases cs with
    | nil => exact .mk (hfirst _) .absent hexponent
    | cons d ds =>
      have hbehind : ∀ x ∈ d :: ds, IsDigit x := by
        intro x hx
        exact hdigits x (List.mem_cons_of_mem c hx)
      exact .mk (hfirst _) (.present (.append hbehind (List.cons_ne_nil d ds) _)) hexponent

/-- **Binary numbers** other than infinities and NaN are numbers of the grammar. -/
theorem Number.text (negative : Bool) (m : Nat) (e : Int) (rest : List Char) :
    Number ((FloatLayout.json.text (.finite negative m e)).toList ++ rest) rest := by
  -- The sign is written in front of what is written of the absolute value.
  have hunsigned : Unsigned ((if m = 0 then "0" ++ FloatLayout.json.integerTail else
      String.ofList (FloatLayout.json.decimalText (Binary64.shortestDigits m e))).toList ++ rest)
      rest := by
    split
    · exact .pointed .zero (isDigit_of_mem_zeros 1) (by decide)
    · next hm =>
      rw [String.toList_ofList]
      exact .decimalText (Binary64.digits_shortestDigits_pos hm) rest
  rw [FloatLayout.text, String.toList_append]
  cases negative with
  | false => exact .positive hunsigned
  | true => exact .negative hunsigned

end Grammar
end Json
end ChatProbe

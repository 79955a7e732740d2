import Mathlib
import ChatProbe.Value.Text
/-!
# How long integers are

An integer has a text as long as its digits are not too many. This is so for a number that digits were read
for, since no more digits than these are written for it (`Digits.isLong_of_natAbs`), and for every number of
the machine (`Digits.isLong_toNat`).
-/

namespace ChatProbe

namespace Digits

theorem isDigit_of_mem_span {cs : List CodePoint} {d : Char} (h : d ∈ (span cs).1) :
    d.isDigit = true := by
  induction cs with
  | nil => cases h
  | cons p cs ih =>
    cases p with
    | half x => cases h
    | char c =>
      rw [span] at h
      split at h
      -- A digit goes on, and anything else ends the run.
      · next hc =>
        rcases List.mem_cons.mp h with rfl | h
        · exact hc
        · exact ih h
      · cases h

/-- A number that `n` digits write is below `10 ^ n`. -/
theorem value_lt {ds : List Char} (h : ∀ d ∈ ds, d.isDigit = true) : value ds < 10 ^ ds.length := by
  -- The fold starts from any number, since this is where the digits read so far are.
  have hfold : ∀ (ds : List Char) (n : Nat), (∀ d ∈ ds, d.isDigit = true) →
      ds.foldl (fun n d => n * 10 + (d.toNat - 0x30)) n < (n + 1) * 10 ^ ds.length := by
    intro ds
    induction ds with
    | nil => intro n _; simp
    | cons d ds ih =>
      intro n h
      rw [List.forall_mem_cons] at h
      have hd : d.toNat - 0x30 ≤ 9 := by
        have hbounds := h.1
        rw [Char.isDigit, Bool.and_eq_true, decide_eq_true_iff, decide_eq_true_iff] at hbounds
        have hupper : d.toNat ≤ 0x39 := hbounds.2
        omega
      calc (d :: ds).foldl (fun n d => n * 10 + (d.toNat - 0x30)) n
          < (n * 10 + (d.toNat - 0x30) + 1) * 10 ^ ds.length := ih _ h.2
        _ ≤ ((n + 1) * 10) * 10 ^ ds.length := Nat.mul_le_mul_right _ (by omega)
        _ = (n + 1) * 10 ^ (d :: ds).length := by
          rw [List.length_cons, Nat.pow_succ', Nat.mul_assoc]
  have hvalue := hfold ds 0 h
  rwa [Nat.zero_add, Nat.one_mul] at hvalue

theorem isLong_of_lt {i : Int} (h : i.natAbs < 10 ^ lengthLimit) : isLong i = false := by
  rwa [isLong_eq_false, Nat.length_toDigits_le_iff (by decide) (by decide)]

/-- An integer that few digits write is not too long. -/
theorem isLong_of_natAbs {i : Int} {ds : List Char} (hi : i.natAbs = value ds)
    (h : ∀ d ∈ ds, d.isDigit = true) (hlength : ds.length ≤ lengthLimit) : isLong i = false := by
  refine isLong_of_lt ?_
  rw [hi]
  exact Nat.lt_of_lt_of_le (value_lt h) (Nat.pow_le_pow_right (by decide) hlength)

/-- No number of the machine is too long. -/
theorem isLong_toNat (n : UInt64) : isLong n.toNat = false := by
  refine isLong_of_lt ?_
  -- Twenty digits would do; the limit is far above.
  calc (n.toNat : Int).natAbs = n.toNat := Int.natAbs_natCast _
    _ < 2 ^ 64 := n.toNat_lt
    _ ≤ 10 ^ 64 := Nat.pow_le_pow_left (by decide) 64
    _ ≤ 10 ^ lengthLimit := Nat.pow_le_pow_right (by decide) (by decide)

end Digits

/-- A number of the machine has a text. -/
theorem Value.text?_toNat (n : UInt64) : (Value.int n.toNat).text?.isSome = true := by
  have hprint : (Value.int n.toNat).print = .ok (.whole (toString (n.toNat : Int))) := by
    show (Value.intText n.toNat).map Str.whole = _
    rw [Value.intText_eq_ok (Digits.isLong_toNat n)]
    rfl
  rw [Value.text?_eq_some.mpr hprint]
  rfl

end ChatProbe

import ChatProbe.Json.Reader
import ChatProbe.Proofs.Digits
import ChatProbe.Proofs.Outcome
import ChatProbe.Proofs.Table
/-!
# Members and integers of documents that were read

Where a text gives a name to several members of an object, the last of them counts. So every object
that is read has each name once, to any depth, and no integer has too many digits to be written again
(`Json.WellFormed`, `Json.wellFormed_read`).

The reader adds members to those that it has read so far, and this is what the induction carries: the
members before are well-formed, and so are those behind.
-/

namespace ChatProbe

namespace Json

mutual

/-- Every object has each of its names once, and no integer has too many digits. -/
def WellFormed : Json → Prop
  | .int i => Digits.isLong i = false
  | .array xs => WellFormedElements xs
  | .object ms => (ms.map (·.1)).Nodup ∧ WellFormedMembers ms
  | _ => True

/-- `WellFormed` of every element. -/
def WellFormedElements : List Json → Prop
  | [] => True
  | x :: xs => WellFormed x ∧ WellFormedElements xs

/-- `WellFormed` of every member. -/
def WellFormedMembers : List (Str × Json) → Prop
  | [] => True
  | (_, v) :: ms => WellFormed v ∧ WellFormedMembers ms

end

variable {name : Str} {v : Json} {ms : List (Str × Json)}

/-! ### Adding a member -/

theorem wellFormed_write (name : Str) (hv : v.WellFormed) (h : WellFormedMembers ms) :
    WellFormedMembers (Table.write name v ms) := by
  induction ms with
  | nil => exact ⟨hv, trivial⟩
  | cons m ms ih =>
    obtain ⟨name', v'⟩ := m
    rw [Table.write]
    split
    · exact ⟨hv, h.2⟩
    · exact ⟨h.1, ih h.2⟩

/-- The value of a member of a well-formed object is well-formed. -/
theorem wellFormed_of_mem (h : WellFormedMembers ms) (hmem : (name, v) ∈ ms) : v.WellFormed := by
  induction ms with
  | nil => cases hmem
  | cons m ms ih =>
    rcases List.mem_cons.mp hmem with rfl | hmem
    · exact h.1
    · exact ih h.2 hmem

theorem wellFormed_of_lookup (h : WellFormedMembers ms) (hlook : ms.lookup name = some v) :
    v.WellFormed := by
  obtain ⟨before, behind, rfl, -⟩ := List.lookup_eq_some_iff.mp hlook
  exact wellFormed_of_mem h (List.mem_append_right _ List.mem_cons_self)

theorem wellFormed_member? {j : Json} (h : j.WellFormed) (hmember : j.member? name = some v) :
    v.WellFormed := by
  cases j with
  | object ms => exact wellFormed_of_lookup h.2 hmember
  | null | bool | int | float | str | array => cases hmember

/-! ### Reading -/

/-- A word stands for something without parts. -/
theorem wellFormed_of_word? {cs rest : List CodePoint} (h : word? cs = some (v, rest)) :
    v.WellFormed := by
  obtain ⟨w, hw, hbehind⟩ := List.exists_of_findSome?_eq_some h
  obtain ⟨behind, -, heq⟩ := Option.map_eq_some_iff.mp hbehind
  obtain ⟨rfl, -⟩ := Prod.mk.inj heq
  have hwords : ∀ w ∈ words, w.2.WellFormed := by
    simp only [words, List.forall_mem_cons, WellFormed, true_and, List.not_mem_nil, false_implies,
      implies_true]
  exact hwords w hw

/-- What is made of digits and of what stands behind them: an integer, or a float. -/
theorem wellFormed_of_scanned {start rest behind : List CodePoint} {negative : Bool} {whole : List Char}
    (hwhole : ∀ d ∈ whole, d.isDigit = true)
    (h : (if whole.isEmpty then Except.error (Stop.mk .expectedValue start)
      else if (fraction behind).1.isEmpty ∧ (exponent (fraction behind).2).1.isNone then
        if 4300 < whole.length then .error ⟨.longInteger whole.length, start⟩
        else .ok (.int (if negative then -(Digits.value whole : Int) else Digits.value whole),
          (exponent (fraction behind).2).2)
      else
        .ok (.float (.ofDecimal negative (Digits.value (whole ++ (fraction behind).1))
          ((exponent (fraction behind).2).1.getD 0 - (fraction behind).1.length)),
          (exponent (fraction behind).2).2)) = Except.ok (v, rest)) : v.WellFormed := by
  split at h
  · cases h
  · split at h
    · split at h
      · cases h
      · next hlength =>
        cases h
        -- Only an integer is bounded, and the reader has counted its digits.
        refine Digits.isLong_of_natAbs ?_ hwhole (Nat.not_lt.mp hlength)
        cases negative with
        | false => rfl
        | true => exact Int.natAbs_neg _
    · cases h
      trivial

/-- A number has no parts, and an integer that is too long is refused. -/
theorem wellFormed_of_number {start cs rest : List CodePoint} {negative : Bool}
    (h : number start negative cs = .ok (v, rest)) : v.WellFormed := by
  unfold number at h
  dsimp only at h
  split at h
  · refine wellFormed_of_scanned (fun d hd => ?_) h
    cases List.mem_singleton.mp hd
    rfl
  · exact wellFormed_of_scanned (fun d hd => Digits.isDigit_of_mem_span hd) h

mutual

/-- A value that is read is well-formed. -/
theorem wellFormed_of_value : ∀ (fuel : Nat) {cs rest : List CodePoint} {j : Json},
    value fuel cs = .ok (j, rest) → j.WellFormed
  | 0, cs, rest, j, h => by
    rw [value.eq_def] at h
    cases h
  | fuel + 1, cs, rest, j, h => by
    rw [value.eq_def] at h
    dsimp only at h
    -- In the order in which the reader decides: a word, a string, an array, an object, a number.
    split at h
    · next found hword =>
      cases h
      exact wellFormed_of_word? hword
    · split at h
      · obtain ⟨⟨text, behind⟩, -, heq⟩ := Outcome.map_eq_ok.mp h
        cases heq
        trivial
      · split at h
        · cases h
          trivial
        · obtain ⟨⟨xs, behind⟩, hxs, heq⟩ := Outcome.map_eq_ok.mp h
          cases heq
          exact wellFormed_of_elements fuel hxs
      · split at h
        · cases h
          exact ⟨List.nodup_nil, trivial⟩
        · obtain ⟨⟨ms, behind⟩, hms, heq⟩ := Outcome.map_eq_ok.mp h
          cases heq
          -- An object starts without members, and this is where the invariant of `members` holds
          -- trivially.
          have hnone : (([] : List (Str × Json)).map (·.1)).Nodup := List.nodup_nil
          exact wellFormed_of_members fuel hnone trivial hms
      · exact wellFormed_of_number h
      · exact wellFormed_of_number h

/-- The elements of an array that is read are well-formed. -/
theorem wellFormed_of_elements : ∀ (fuel : Nat) {cs rest : List CodePoint} {xs : List Json},
    elements fuel cs = .ok (xs, rest) → WellFormedElements xs
  | 0, cs, rest, xs, h => by
    rw [elements] at h
    cases h
  | fuel + 1, cs, rest, xs, h => by
    rw [elements] at h
    split at h
    · cases h
    · next x r hx =>
      split at h
      · cases h
        exact ⟨wellFormed_of_value fuel hx, trivial⟩
      · obtain ⟨⟨ys, behind⟩, hys, heq⟩ := Outcome.map_eq_ok.mp h
        cases heq
        -- A comma: the rest is read with less fuel.
        exact ⟨wellFormed_of_value fuel hx, wellFormed_of_elements fuel hys⟩
      · cases h

/-- Members are well-formed where those before them are. -/
theorem wellFormed_of_members : ∀ (fuel : Nat) {before ms : List (Str × Json)}
    {cs rest : List CodePoint}, (before.map (·.1)).Nodup → WellFormedMembers before →
    members fuel before cs = .ok (ms, rest) → (ms.map (·.1)).Nodup ∧ WellFormedMembers ms
  | 0, before, ms, cs, rest, _, _, h => by
    rw [members.eq_def] at h
    cases h
  | fuel + 1, before, ms, cs, rest, hnames, hbefore, h => by
    rw [members.eq_def] at h
    dsimp only at h
    split at h
    · split at h
      · cases h
      · next name r hname =>
        split at h
        · split at h
          · cases h
          · next v r' hv =>
            -- The new member joins those before it, and these are what comes out or goes on.
            have hnow := Table.nodup_write (.ofPoints name) v hnames
            have hwell := wellFormed_write (.ofPoints name)
              (wellFormed_of_value fuel hv) hbefore
            split at h
            · cases h
              exact ⟨hnow, hwell⟩
            · exact wellFormed_of_members fuel hnow hwell h
            · cases h
        · cases h
    · cases h

end

/-- **A document that is read** names each member of an object once and holds no integer that is too
long. -/
theorem wellFormed_readPoints {points : List CodePoint} {j : Json} (h : readPoints points = .ok j) :
    j.WellFormed := by
  rw [readPoints, Outcome.mapError_eq_ok, readList] at h
  split at h
  · cases h
  · obtain ⟨⟨j', rest⟩, hvalue, h⟩ := Outcome.bind_eq_ok.mp h
    dsimp only at h
    split at h
    · cases h
      -- Only blanks were left behind the document.
      exact wellFormed_of_value _ hvalue
    · cases h

theorem wellFormed_read {text : String} {j : Json} (h : read text = .ok j) : j.WellFormed :=
  wellFormed_readPoints h

theorem wellFormed_readBytes {bytes : List UInt8} {j : Json} (h : readBytes bytes = .ok j) :
    j.WellFormed := by
  obtain ⟨points, -, h⟩ := Outcome.bind_eq_ok.mp h
  exact wellFormed_readPoints (Outcome.mapError_eq_ok.mp h)

end Json
end ChatProbe

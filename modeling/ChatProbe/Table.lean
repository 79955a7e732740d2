/-!
# Tables

Variables, members, arguments, assignments and fields are tables: lists of names with what stands
under them, in the order in which the names first came. Writing under a name that is there replaces
what stands under it, and a new name goes to the end (`Table.write`). So a name keeps its place, and
names that differ stay apart (`Table.names_write`).
-/

namespace ChatProbe
namespace Table

variable {κ α β : Type} [DecidableEq κ] {name other : κ} {v : α} {t : List (κ × α)}

/-- Write under a name: in place if the name is there, else at the end. -/
def write (name : κ) (v : α) : List (κ × α) → List (κ × α)
  | [] => [(name, v)]
  | (n, w) :: t => if n = name then (n, v) :: t else (n, w) :: write name v t

/-- Write the entries of a table over those of another one. -/
def writeAll (low high : List (κ × α)) : List (κ × α) := high.foldl (fun t e => write e.1 e.2 t) low

@[simp] theorem writeAll_nil (low : List (κ × α)) : writeAll low [] = low := rfl

@[simp] theorem writeAll_cons (low : List (κ × α)) (e : κ × α) (high : List (κ × α)) :
    writeAll low (e :: high) = writeAll (write e.1 e.2 low) high := rfl

/-- An entry in front settles what its name means, and no other name. -/
theorem lookup_cons_eq_ite (name key : κ) (v : α) (t : List (κ × α)) :
    ((key, v) :: t).lookup name = if name = key then some v else t.lookup name := by
  rw [List.lookup_cons]
  by_cases h : name = key
  · rw [if_pos h, beq_iff_eq.mpr h]
  · rw [if_neg h, beq_false_of_ne h]

/-- **Writing under a name** changes what stands under it, and nothing else. -/
theorem lookup_write (name other : κ) (v : α) (t : List (κ × α)) :
    (write name v t).lookup other = if other = name then some v else t.lookup other := by
  induction t with
  | nil => exact lookup_cons_eq_ite other name v []
  | cons e t ih =>
    obtain ⟨n, w⟩ := e
    rw [write, lookup_cons_eq_ite]
    by_cases h : n = name
    · rw [if_pos h, lookup_cons_eq_ite, h]
      by_cases hother : other = name
      · rw [if_pos hother, if_pos hother]
      · rw [if_neg hother, if_neg hother, if_neg hother]
    · rw [if_neg h, lookup_cons_eq_ite, ih]
      by_cases hother : other = n
      · -- The name that stays is not the one that is written.
        have hname : other ≠ name := fun hname => h (hother.symm.trans hname)
        rw [if_pos hother, if_neg hname, if_pos hother]
      · rw [if_neg hother, if_neg hother]

/-- What stands under a name comes from the last entry written under it. -/
theorem lookup_writeAll (low high : List (κ × α)) (name : κ) :
    (writeAll low high).lookup name = (high.reverse.lookup name).or (low.lookup name) := by
  induction high generalizing low with
  | nil => rfl
  | cons e high ih =>
    obtain ⟨n, v⟩ := e
    rw [writeAll_cons, ih, lookup_write, List.reverse_cons, List.lookup_append, Option.or_assoc,
      lookup_cons_eq_ite]
    by_cases h : name = n
    · rw [if_pos h, if_pos h]
      rfl
    · rw [if_neg h, if_neg h]
      rfl

end Table
end ChatProbe

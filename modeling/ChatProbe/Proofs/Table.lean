import Mathlib.Data.List.Nodup
import ChatProbe.Environment
/-!
# What tables keep

Writing under a name keeps every other entry where it is, and a table in which each name stands once
stays one (`Table.nodup_write`, `Table.nodup_writeAll`). Writing goes with whatever is done to every
entry alike: with a change of what stands under the names (`Table.map_write`), and with leaving out the
names that fail a test (`Table.filter_write_of_pos`, `Table.filter_write_of_neg`).

Taking a name out leaves every other name what it was (`Table.lookup_filter_ne`). Of variables this
means that two environments that agree apart from one variable answer alike about all others
(`Environment.get?_eq_of_unset`).
-/

namespace ChatProbe
namespace Table

variable {κ α β : Type} [DecidableEq κ] {name other : κ} {v : α} {low t : List (κ × α)}

/-! ### Writing under one name -/

/-- A name that is not there goes to the end. -/
theorem write_of_not_mem (h : name ∉ t.map (·.1)) : write name v t = t ++ [(name, v)] := by
  -- The name is met nowhere, so the walk comes to the end.
  induction t with
  | nil => rfl
  | cons e t ih =>
    obtain ⟨n, w⟩ := e
    rw [List.map_cons, List.mem_cons, not_or] at h
    rw [write, if_neg (Ne.symm h.1), ih h.2]
    rfl

theorem not_mem_of_lookup_eq_none (h : t.lookup name = none) : name ∉ t.map (·.1) := by
  intro hmem
  obtain ⟨e, he, hname⟩ := List.mem_map.mp hmem
  exact bne_iff_ne.mp (List.lookup_eq_none_iff.mp h e he) hname.symm

/-- The names behind a write: those that were there, and the one that is written. -/
theorem names_write (name : κ) (v : α) (t : List (κ × α)) :
    (write name v t).map (·.1)
      = if name ∈ t.map (·.1) then t.map (·.1) else t.map (·.1) ++ [name] := by
  induction t with
  | nil => rfl
  | cons e t ih =>
    obtain ⟨n, w⟩ := e
    rw [write, List.map_cons]
    by_cases h : n = name
    · -- The value is replaced where the name stands.
      rw [if_pos h, if_pos (h ▸ List.mem_cons_self)]
      rfl
    · rw [if_neg h, List.map_cons, ih]
      have hiff : name ∈ n :: t.map (·.1) ↔ name ∈ t.map (·.1) := by
        rw [List.mem_cons]
        exact ⟨fun hmem => hmem.resolve_left fun heq => h heq.symm, .inr⟩
      by_cases hthere : name ∈ t.map (·.1)
      · rw [if_pos hthere, if_pos (hiff.mpr hthere)]
      · rw [if_neg hthere, if_neg (mt hiff.mp hthere), List.cons_append]

/-- Names that stand once still do. -/
theorem nodup_write (name : κ) (v : α) (h : (t.map (·.1)).Nodup) :
    ((write name v t).map (·.1)).Nodup := by
  rw [names_write]
  split
  · exact h
  · next hnew =>
    rw [← List.concat_eq_append]
    exact List.Nodup.concat hnew h

/-- An entry behind a write is the one that was written or was there before. -/
theorem mem_write {e : κ × α} (h : e ∈ write name v t) : e = (name, v) ∨ e ∈ t := by
  induction t with
  | nil => exact .inl (List.mem_singleton.mp h)
  | cons e' t ih =>
    obtain ⟨n, w⟩ := e'
    rw [write] at h
    -- Either the entry stands in the place of an old one, or it is looked for behind it.
    split at h
    · next hname =>
      subst hname
      exact (List.mem_cons.mp h).imp id (List.mem_cons_of_mem _)
    · rcases List.mem_cons.mp h with rfl | h
      · exact .inr List.mem_cons_self
      · exact (ih h).imp id (List.mem_cons_of_mem _)

/-- **What is done to every value alike** can be done before the write or behind it. -/
theorem map_write (f : α → β) (name : κ) (v : α) (t : List (κ × α)) :
    (write name v t).map (fun e => (e.1, f e.2)) = write name (f v) (t.map fun e => (e.1, f e.2)) := by
  induction t with
  | nil => rfl
  | cons e t ih =>
    obtain ⟨n, w⟩ := e
    rw [write, List.map_cons, write]
    split
    · rfl
    · rw [List.map_cons, ih]

/-- Where the name passes a test, so does what is written, and the others are left out as before. -/
theorem filter_write_of_pos {p : κ → Bool} (h : p name = true) (v : α) (t : List (κ × α)) :
    (write name v t).filter (fun e => p e.1) = write name v (t.filter fun e => p e.1) := by
  induction t with
  | nil => exact List.filter_cons_of_pos (p := fun e : κ × α => p e.1) h
  | cons e t ih =>
    obtain ⟨n, w⟩ := e
    rw [write]
    by_cases hn : n = name
    -- Under the name itself the test passes on both sides.
    · have hpass : p n = true := hn ▸ h
      rw [if_pos hn, List.filter_cons_of_pos (by exact hpass), List.filter_cons_of_pos (by exact hpass),
        write, if_pos hn]
    · rw [if_neg hn]
      by_cases hpass : p n = true
      · rw [List.filter_cons_of_pos (by exact hpass), List.filter_cons_of_pos (by exact hpass), ih,
          write, if_neg hn]
      · rw [List.filter_cons_of_neg (by exact hpass), List.filter_cons_of_neg (by exact hpass), ih]

/-- Where the name fails a test, what is written is left out. -/
theorem filter_write_of_neg {p : κ → Bool} (h : ¬p name = true) (v : α) (t : List (κ × α)) :
    (write name v t).filter (fun e => p e.1) = t.filter fun e => p e.1 := by
  induction t with
  | nil => exact List.filter_cons_of_neg (p := fun e : κ × α => p e.1) h
  | cons e t ih =>
    obtain ⟨n, w⟩ := e
    rw [write]
    by_cases hn : n = name
    -- The entry that is replaced did not pass either.
    · have hfail : ¬p n = true := hn ▸ h
      rw [if_pos hn, List.filter_cons_of_neg (by exact hfail), List.filter_cons_of_neg (by exact hfail)]
    · rw [if_neg hn, List.filter_cons, List.filter_cons, ih]

/-! ### Writing a table over another one -/

/-- Names stay distinct where a table is written over. -/
theorem nodup_writeAll (high : List (κ × α)) (h : (low.map (·.1)).Nodup) :
    ((writeAll low high).map (·.1)).Nodup := by
  induction high generalizing low with
  | nil => exact h
  | cons e high ih => exact ih (nodup_write e.1 e.2 h)

/-- What holds of all values still does where a table is written over. -/
theorem forall_writeAll {P : κ × α → Prop} {high : List (κ × α)} (hlow : ∀ e ∈ low, P e)
    (hhigh : ∀ e ∈ high, P e) : ∀ e ∈ writeAll low high, P e := by
  induction high generalizing low with
  | nil => exact hlow
  | cons e high ih =>
    rw [List.forall_mem_cons] at hhigh
    refine ih (fun e' he' => ?_) hhigh.2
    rcases mem_write he' with rfl | he'
    · exact hhigh.1
    · exact hlow e' he'

/-! ### Looking names up -/

/-- Taking the entries of a name out does not change what stands under another name. -/
theorem lookup_filter_ne (h : other ≠ name) (t : List (κ × α)) :
    (t.filter fun e => e.1 != name).lookup other = t.lookup other := by
  induction t with
  | nil => rfl
  | cons e t ih =>
    obtain ⟨key, v⟩ := e
    by_cases hkey : key = name
    · have hother : (other == key) = false := by rw [hkey]; exact beq_false_of_ne h
      rw [List.filter_cons_of_neg (by simp [hkey]), ih, List.lookup_cons, hother]
    · rw [List.filter_cons_of_pos (by simpa using hkey), List.lookup_cons, List.lookup_cons, ih]

/-- Where every name stands once, an entry is what its name means. -/
theorem lookup_eq_some_of_mem (hnames : (t.map (·.1)).Nodup) (h : (name, v) ∈ t) :
    t.lookup name = some v := by
  induction t with
  | nil => cases h
  | cons e t ih =>
    obtain ⟨key, w⟩ := e
    obtain ⟨hkey, hnames⟩ := List.nodup_cons.mp hnames
    rcases List.mem_cons.mp h with heq | h
    · cases heq
      rw [List.lookup_cons_self]
    -- An entry in front with the same name would repeat it.
    · have hne : (name == key) = false := by
        refine beq_false_of_ne fun heq => hkey ?_
        exact List.mem_map.mpr ⟨(name, v), h, heq⟩
      rw [List.lookup_cons, hne]
      exact ih hnames h

/-- **What stands under a name** is looked up in the table written over, and then below. -/
theorem lookup_writeAll_of_nodup {high : List (κ × α)} (hnames : (high.map (·.1)).Nodup)
    (low : List (κ × α)) (name : κ) :
    (writeAll low high).lookup name = (high.lookup name).or (low.lookup name) := by
  -- Where each name stands once, the last entry under a name is the first one.
  have hreverse : high.reverse.lookup name = high.lookup name := by
    cases hlookup : high.lookup name with
    | none =>
      rw [List.lookup_eq_none_iff] at hlookup ⊢
      exact fun e he => hlookup e (List.mem_reverse.mp he)
    | some v =>
      obtain ⟨front, back, hsplit, -⟩ := List.lookup_eq_some_iff.mp hlookup
      have hnames' : (high.reverse.map (·.1)).Nodup := by
        rw [List.map_reverse]
        exact List.nodup_reverse.mpr hnames
      refine lookup_eq_some_of_mem hnames' (List.mem_reverse.mpr ?_)
      rw [hsplit]
      exact List.mem_append_right _ List.mem_cons_self
  rw [lookup_writeAll, hreverse]

/-- What holds of the values below holds of all values where it holds of those written over them. -/
theorem forall_writeAll_iff {P : κ × α → Prop} {high : List (κ × α)}
    (hnames : (high.map (·.1)).Nodup) (hlow : ∀ e ∈ low, P e) :
    (∀ e ∈ writeAll low high, P e) ↔ ∀ e ∈ high, P e := by
  refine ⟨fun h e he => ?_, forall_writeAll hlow⟩
  -- Names are distinct, so each entry is what its name means in the end.
  have hlookup : (writeAll low high).lookup e.1 = some e.2 := by
    rw [lookup_writeAll_of_nodup hnames low, lookup_eq_some_of_mem hnames he]
    rfl
  obtain ⟨before, after, hsplit, -⟩ := List.lookup_eq_some_iff.mp hlookup
  have hmem : (e.1, e.2) ∈ writeAll low high := by
    rw [hsplit]
    exact List.mem_append_right _ List.mem_cons_self
  exact h _ hmem

end Table

namespace Environment

@[simp] theorem get?_unset_of_ne {name other : String} (h : other ≠ name) (env : Environment) :
    (env.unset name).get? other = env.get? other :=
  Table.lookup_filter_ne h env.bindings

/-- Environments that agree apart from one variable agree on every other variable. -/
theorem get?_eq_of_unset {env env' : Environment} {name other : String}
    (h : env.unset name = env'.unset name) (hother : other ≠ name) :
    env.get? other = env'.get? other := by
  rw [← get?_unset_of_ne hother env, h, get?_unset_of_ne hother]

end Environment
end ChatProbe

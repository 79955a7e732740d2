import ChatProbe.Failure.Basic
/-!
# Results of readers

Readers and builders return a value or what stands in its way. The lemmas here take a result apart
along the way in which it was put together: a reader behind another one succeeds where both do
(`Outcome.bind_eq_ok`), a changed result comes from an unchanged one (`Outcome.map_eq_ok`), and
the first of two failures is the failure of the whole (`Outcome.bind_eq_error`).
-/

namespace ChatProbe
namespace Outcome

variable {ε α β : Type} {x : Except ε α}

theorem isOk_iff : x.isOk = true ↔ ∃ a, x = .ok a := by
  cases x with
  | error e => simp [Except.isOk, Except.toBool]
  | ok a => simp [Except.isOk, Except.toBool]

theorem bind_eq_ok {f : α → Except ε β} {b : β} :
    (x >>= f) = .ok b ↔ ∃ a, x = .ok a ∧ f a = .ok b := by
  cases x with
  | error e => simp [bind, Except.bind]
  | ok a => simp [bind, Except.bind]

theorem map_eq_ok {f : α → β} {b : β} : x.map f = .ok b ↔ ∃ a, x = .ok a ∧ f a = b := by
  cases x with
  | error e => simp [Except.map]
  | ok a => simp [Except.map]

theorem bind_eq_error {f : α → Except ε β} {e : ε} :
    (x >>= f) = .error e ↔ x = .error e ∨ ∃ a, x = .ok a ∧ f a = .error e := by
  cases x with
  | error e => simp [bind, Except.bind]
  | ok a => simp [bind, Except.bind]

theorem map_eq_error {f : α → β} {e : ε} : x.map f = .error e ↔ x = .error e := by
  cases x with
  | error e => simp [Except.map]
  | ok a => simp [Except.map]

theorem mapError_eq_ok {f : ε → β} {a : α} : x.mapError f = .ok a ↔ x = .ok a := by
  cases x with
  | error e => exact ⟨fun h => (by cases h), fun h => (by cases h)⟩
  | ok a => exact ⟨fun h => (by cases h; rfl), fun h => (by cases h; rfl)⟩

@[simp] theorem isOk_map (f : α → β) : (x.map f).isOk = x.isOk := by
  cases x with
  | error e => rfl
  | ok a => rfl

@[simp] theorem isOk_mapError (f : ε → β) : (x.mapError f).isOk = x.isOk := by
  cases x <;> rfl

@[simp] theorem isOk_ok (a : α) : (Except.ok a : Except ε α).isOk = true := rfl

@[simp] theorem isOk_error (e : ε) : (Except.error e : Except ε α).isOk = false := rfl

/-! ### Lists -/

theorem isOk_cons {x : Except ε α} {y : Except ε (List α)} :
    (do let a ← x; return a :: (← y) : Except ε (List α)).isOk = (x.isOk && y.isOk) := by
  cases x with
  | error e => rfl
  | ok a =>
    cases y with
    | error e => rfl
    | ok as => rfl

theorem isOk_mapM (f : β → Except ε α) (bs : List β) :
    (bs.mapM f).isOk = bs.all fun b => (f b).isOk := by
  induction bs with
  | nil => rfl
  | cons b bs ih => rw [List.mapM_cons, isOk_cons, ih, List.all_cons]

/-- What a list was read as comes from its elements. -/
theorem mem_of_mapM {f : β → Except ε α} {bs : List β} {as : List α} (h : bs.mapM f = .ok as) :
    ∀ a ∈ as, ∃ b ∈ bs, f b = .ok a := by
  induction bs generalizing as with
  | nil =>
    cases h
    exact fun a ha => by cases ha
  | cons b bs ih =>
    rw [List.mapM_cons] at h
    -- The first value comes of the first element, and the others of the rest.
    obtain ⟨a, ha, h⟩ := bind_eq_ok.mp h
    obtain ⟨rest, hrest, h⟩ := bind_eq_ok.mp h
    cases h
    intro a' ha'
    rcases List.mem_cons.mp ha' with rfl | hmem
    · exact ⟨b, List.mem_cons_self, ha⟩
    · obtain ⟨b', hb', hf⟩ := ih hrest a' hmem
      exact ⟨b', List.mem_cons_of_mem _ hb', hf⟩

end Outcome
end ChatProbe

import Mathlib.Tactic.SplitIfs
import ChatProbe.Proofs.Dotenv.Loading
/-!
# Files that can be loaded

A load of a `.env` file comes to its end where the file is `Loadable`: its bytes are text, and the
environment can hold what it lacks of the assignments (`load_failure_eq_none_iff`). What an environment
can hold is said by `Environment.Storable`; what is there already is not looked at, so an assignment to
it may be as odd as it likes.
-/

namespace ChatProbe

/-- A variable that an environment can hold: it has a name, this has no equals sign, and neither the name
nor the value has a zero character. -/
def Environment.Storable (name value : String) : Prop :=
  name ≠ "" ∧ (∀ c ∈ name.toList, c ≠ '=' ∧ c ≠ '\x00') ∧ ∀ c ∈ value.toList, c ≠ '\x00'

namespace Dotenv

open Environment (Storable)

variable {env : Environment} {bytes : List UInt8}

theorem checkVariable_eq_ok_iff {name value : String} :
    checkVariable name value = .ok () ↔ Storable name value := by
  have hmem (s : String) (c : Char) : s.toList.contains c = true ↔ c ∈ s.toList :=
    List.contains_iff_mem
  rw [checkVariable, Storable]
  -- The checks are made in this order; a variable that passes all three is one that can be stored.
  split_ifs with hzero hequals hempty
  · rw [Bool.or_eq_true, hmem, hmem] at hzero
    refine ⟨fun h => (by cases h), fun ⟨_, hname, hvalue⟩ => ?_⟩
    rcases hzero with hzero | hzero
    · exact absurd rfl (hname _ hzero).2
    · exact absurd rfl (hvalue _ hzero)
  · rw [hmem] at hequals
    exact ⟨fun h => (by cases h), fun ⟨_, hname, _⟩ => absurd rfl (hname _ hequals).1⟩
  · rw [String.isEmpty_iff] at hempty
    exact ⟨fun h => (by cases h), fun ⟨hname, _⟩ => absurd hempty hname⟩
  · rw [Bool.or_eq_true, hmem, hmem, not_or] at hzero
    rw [hmem] at hequals
    rw [String.isEmpty_iff] at hempty
    refine ⟨fun _ => ⟨hempty, fun c hc => ⟨?_, ?_⟩, fun c hc => ?_⟩, fun _ => rfl⟩
    · rintro rfl
      exact hequals hc
    · rintro rfl
      exact hzero.1 hc
    · rintro rfl
      exact hzero.2 hc

/-- **Gaps can be filled** where the environment can hold what it lacks. -/
theorem fillGaps_snd_eq_none_iff {as : List Assignment} (hnames : (as.map (·.1)).Nodup) :
    (fillGaps env as).2 = none
      ↔ ∀ name value, (name, some value) ∈ as → env.get? name = none → Storable name value := by
  induction as generalizing env with
  | nil => exact ⟨fun _ name value h => (by cases h), fun _ => rfl⟩
  | cons a as ih =>
    obtain ⟨n, v⟩ := a
    obtain ⟨hnew, hothers⟩ := List.nodup_cons.mp hnames
    have hrest := @ih env hothers
    cases v with
    | none =>
      rw [fillGaps, hrest]
      simp only [List.mem_cons, Prod.mk.injEq, reduceCtorEq, and_false, false_or]
    | some v =>
      rw [fillGaps]
      cases hget : env.get? n with
      | some old =>
        -- A name that is there already is passed over, whatever the file gives to it.
        rw [Option.isSome_some, if_pos rfl, hrest]
        refine ⟨fun h name value hmem hname => ?_, fun h name value hmem => ?_⟩
        · rcases List.mem_cons.mp hmem with heq | hmem
          · cases heq
            rw [hget] at hname
            cases hname
          · exact h name value hmem hname
        · exact h name value (List.mem_cons_of_mem _ hmem)
      | none =>
        rw [Option.isSome_none, if_neg Bool.false_ne_true]
        cases hcheck : checkVariable n v with
        | error e =>
          have hrefused : ¬Storable n v := by
            rw [← checkVariable_eq_ok_iff, hcheck]
            exact fun h => (by cases h)
          exact ⟨fun h => (by cases h), fun h => absurd (h n v (List.mem_cons_self ..) hget) hrefused⟩
        | ok u =>
          -- Setting this name leaves the gaps of the others as they are.
          have hgap : ∀ name value, (name, some value) ∈ as →
              (env.set n v).get? name = env.get? name := by
            intro name value hmem
            have hne : name ≠ n := by
              rintro rfl
              exact hnew (List.mem_map.mpr ⟨_, hmem, rfl⟩)
            rw [Environment.get?_set, if_neg hne]
          show (fillGaps (env.set n v) as).2 = none ↔ _
          rw [ih hothers]
          refine ⟨fun h name value hmem hname => ?_, fun h name value hmem hname => ?_⟩
          · rcases List.mem_cons.mp hmem with heq | hmem
            · cases heq
              exact checkVariable_eq_ok_iff.mp hcheck
            · rw [← hgap name value hmem] at hname
              exact h name value hmem hname
          · rw [hgap name value hmem] at hname
            exact h name value (List.mem_cons_of_mem _ hmem) hname

/-- A file that can be loaded: its bytes are text, and what it gives to the names that the environment
lacks can be held there. -/
def Loadable (env : Environment) (bytes : List UInt8) : Prop :=
  ∃ text, Text.Utf8.decode bytes = .ok text
    ∧ ∀ name value, (name, some value) ∈ assignmentsOf .environmentFirst env (statements text) →
        env.get? name = none → Storable name value

/-- What a load is refused for is no fault of settings. -/
theorem fillGaps_ne_faults {as : List Assignment} {title : String} {faults : List Settings.Fault} :
    (fillGaps env as).2 ≠ some (.settings title faults) := by
  induction as generalizing env with
  | nil => exact fun h => (by cases h)
  | cons a as ih =>
    obtain ⟨name, value⟩ := a
    cases value with
    | none => exact ih
    | some value =>
      rw [fillGaps]
      split
      · exact ih
      · split
        · next e hcheck =>
          rintro ⟨⟩
          -- Whatever the check says, it does not speak of faults.
          rw [checkVariable] at hcheck
          split_ifs at hcheck
          all_goals cases hcheck
        · exact ih

theorem load_ne_faults {file : Option (List UInt8)} {title : String} {faults : List Settings.Fault} :
    (load env file).failure ≠ some (.settings title faults) := by
  by_cases hdisabled : isDisabled env = true
  · rw [load_of_disabled hdisabled]
    exact fun h => (by cases h)
  cases file with
  | none =>
    rw [load_none hdisabled]
    exact fun h => (by cases h)
  | some bytes =>
    -- Bytes that have no text fail in a way of their own.
    cases hdecode : Text.Utf8.decode bytes with
    | error e =>
      rw [load_of_decode_error hdisabled hdecode]
      exact fun h => (by cases h)
    | ok text =>
      rw [load_of_decode hdisabled hdecode]
      exact fillGaps_ne_faults

theorem load_failure_eq_none_iff :
    (load env (some bytes)).failure = none ↔ isDisabled env = true ∨ Loadable env bytes := by
  by_cases hdisabled : isDisabled env = true
  · rw [load_of_disabled hdisabled]
    exact ⟨fun _ => .inl hdisabled, fun _ => rfl⟩
  · rw [or_iff_right hdisabled, Loadable]
    cases hdecode : Text.Utf8.decode bytes with
    | error e =>
      rw [load_of_decode_error hdisabled hdecode]
      exact ⟨fun h => (by cases h), fun ⟨text, h, _⟩ => (by cases h)⟩
    | ok text =>
      rw [load_of_decode hdisabled hdecode]
      dsimp only
      rw [fillGaps_snd_eq_none_iff (nodup_assignmentsOf _ _ _)]
      -- There is one text that the bytes decode to.
      refine ⟨fun h => ⟨text, rfl, h⟩, fun ⟨text', h, hstorable⟩ => ?_⟩
      cases h
      exact hstorable

end Dotenv
end ChatProbe

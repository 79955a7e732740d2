import ChatProbe.Proofs.Dotenv.Loading
import ChatProbe.Settings.Session
/-!
# What a step of a session does

`Session.Moves` lists, once, what a step can lead to: settings are issued as they were kept, or
built and kept, or refused; the nearest `.env` is loaded; what was kept is dropped; or the
environment, the files or the folder change and nothing else. `Session.moves_step` says that the
list is complete. What is shown of every step is read off this list and carried along a run by
`Session.run_preserves`.
-/

namespace ChatProbe
namespace Settings

/-- The settings that a reply issues. -/
def Reply.issued? (r : Reply) : Option Issued :=
  match r.outcome with
  | .issued i => some i
  | _ => none

namespace Session

/-! ### Loading and getting -/

/-- Loading changes the environment only, which grows. -/
theorem loadNearest_eq (p : Session) :
    p.loadNearest.1 = { p with environment := p.loadNearest.1.environment }
      ∧ p.environment.GrowsTo p.loadNearest.1.environment := by
  rw [loadNearest]
  cases p.nearest? with
  | none => exact ⟨rfl, .refl _⟩
  | some entry => exact ⟨rfl, Dotenv.growsTo_load _ _⟩

@[simp] theorem loadNearest_cached (p : Session) : p.loadNearest.1.cached = p.cached := by
  rw [p.loadNearest_eq.1]

@[simp] theorem loadNearest_builds (p : Session) : p.loadNearest.1.builds = p.builds := by
  rw [p.loadNearest_eq.1]

/-- **Kept settings** are issued as they are. -/
theorem getSettings_of_cached {p : Session} {i : Issued} (h : p.cached = some i) :
    p.getSettings = (p, [], .ok i) := by
  rw [getSettings, h]

/-- Without kept settings, a get loads the nearest `.env` and then builds settings with the number
of builds so far, or fails. -/
theorem getSettings_of_uncached {p : Session} (h : p.cached = none) :
    (∃ warnings e, p.getSettings = (p.loadNearest.1, warnings, .error e))
      ∨ ∃ warnings settings, p.getSettings
          = ({ p.loadNearest.1 with cached := some ⟨p.builds, settings⟩, builds := p.builds + 1 },
            warnings, .ok ⟨p.builds, settings⟩) := by
  have hbuilds := p.loadNearest_builds
  rw [getSettings, h]
  rcases hload : p.loadNearest with ⟨q, warnings, _ | e⟩
  · rw [hload] at hbuilds
    dsimp only at hbuilds ⊢
    -- A load that went through leaves the count as it was, so the number issued is that of before.
    rcases q.buildSettings [] with ⟨more, e | settings⟩
    · exact .inl ⟨warnings ++ more, e, rfl⟩
    · refine .inr ⟨warnings ++ more, settings, ?_⟩
      dsimp only
      rw [hbuilds]
  · exact .inl ⟨warnings, e, rfl⟩

/-! ### Steps -/

/-- What a step can lead to. -/
inductive Moves (p : Session) : Step → Session → Reply → Prop
  | kept {i : Issued} (hcached : p.cached = some i) : Moves p .get p ⟨.issued i, []⟩
  | built {settings : AppSettings} {warnings : List Dotenv.Warning} (hcached : p.cached = none) :
    Moves p .get
      { p.loadNearest.1 with cached := some ⟨p.builds, settings⟩, builds := p.builds + 1 }
      ⟨.issued ⟨p.builds, settings⟩, warnings⟩
  | refused {e : Failure} {warnings : List Dotenv.Warning} (hcached : p.cached = none) :
    Moves p .get p.loadNearest.1 ⟨.failed e, warnings⟩
  | created {group : GroupName} {inputs : Inputs} {reply : Reply} (hreply : reply.issued? = none) :
    Moves p (.create group inputs) p reply
  | loaded {reply : Reply} (hreply : reply.issued? = none) : Moves p .load p.loadNearest.1 reply
  | reset : Moves p .reset p.reset ⟨.done, []⟩
  | setVariable {name value : String} : Moves p (.setVariable name value)
      { p with environment := p.environment.set name value } ⟨.done, []⟩
  | unsetVariable {name : String} : Moves p (.unsetVariable name)
      { p with environment := p.environment.unset name } ⟨.done, []⟩
  | entered {folder : Path} : Moves p (.enter folder) { p with folder := folder } ⟨.done, []⟩
  | written {path : Path} {entry : Entry} : Moves p (.write path entry)
      { p with files := p.files.put path entry } ⟨.done, []⟩
  | removed {path : Path} : Moves p (.remove path)
      { p with files := p.files.remove path } ⟨.done, []⟩

/-- Every step is one of the moves. -/
theorem moves_step (p : Session) (s : Step) : p.Moves s (p.step s).1 (p.step s).2 := by
  cases s with
  | get =>
    rw [step]
    cases hcached : p.cached with
    | some i =>
      rw [getSettings_of_cached hcached]
      exact .kept hcached
    | none =>
      rcases getSettings_of_uncached hcached with ⟨warnings, e, h⟩ | ⟨warnings, settings, h⟩
      · rw [h]
        exact .refused hcached
      · rw [h]
        exact .built hcached
  | create group inputs =>
    rw [step]
    rcases p.create group inputs with ⟨warnings, e | fields⟩
    · exact .created rfl
    · exact .created rfl
  | load =>
    rw [step]
    -- The step is a load whether or not the load failed.
    rcases h : p.loadNearest with ⟨q, warnings, _ | e⟩
    · have hq : p.loadNearest.1 = q := by rw [h]
      subst hq
      exact .loaded rfl
    · have hq : p.loadNearest.1 = q := by rw [h]
      subst hq
      exact .loaded rfl
  | reset => exact .reset
  | setVariable name value => exact .setVariable
  | unsetVariable name => exact .unsetVariable
  | enter folder => exact .entered
  | write path entry => exact .written
  | remove path => exact .removed

/-- A get that issues settings is one of the moves. -/
theorem moves_of_getSettings {p q : Session} {warnings : List Dotenv.Warning} {i : Issued}
    (h : p.getSettings = (q, warnings, .ok i)) : p.Moves .get q ⟨.issued i, warnings⟩ := by
  have hmoves := p.moves_step .get
  rwa [step, h] at hmoves

/-- A get that fails is one of the moves. -/
theorem moves_of_getSettings_error {p q : Session} {warnings : List Dotenv.Warning} {e : Failure}
    (h : p.getSettings = (q, warnings, .error e)) : p.Moves .get q ⟨.failed e, warnings⟩ := by
  have hmoves := p.moves_step .get
  rwa [step, h] at hmoves

/-! ### Runs -/

theorem run_append (p : Session) (ss ts : List Step) :
    (p.run (ss ++ ts)).1 = ((p.run ss).1.run ts).1 := by
  induction ss generalizing p with
  | nil => rfl
  | cons s ss ih => exact ih (p.step s).1

/-- What every step of a run preserves, the run preserves. -/
theorem run_preserves {P : Session → Prop} {ss : List Step}
    (hstep : ∀ p, ∀ s ∈ ss, P p → P (p.step s).1) {p : Session} (hp : P p) : P (p.run ss).1 := by
  induction ss generalizing p with
  | nil => exact hp
  | cons s ss ih =>
    rw [run_cons]
    exact ih (fun p s hs => hstep p s (List.mem_cons_of_mem _ hs))
      (hstep p s (List.mem_cons_self ..) hp)

end Session
end Settings
end ChatProbe

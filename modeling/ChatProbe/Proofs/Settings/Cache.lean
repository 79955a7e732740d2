import ChatProbe.Proofs.Outcome
import ChatProbe.Proofs.Settings.Stepping
/-!
# The kept settings

A session keeps the settings that it built until it is reset (`Session.cached_run`). What it keeps
is told from what it builds later by the serial number, since the number of builds only rises and is
above every number given so far (`Session.Numbered`). A failed get keeps nothing, so what comes
next depends on the environment, the files and the folder of its own time only
(`Session.getSettings_of_start`).

The main statement is `Session.issues_same_iff`, about an arbitrary stretch of steps behind a get
that a session of any past has made.
-/

namespace ChatProbe
namespace Settings
namespace Session

variable {p q : Session} {s : Step} {ss : List Step} {reply : Reply}

/-! ### Until the next reset -/

/-- **Kept settings stay** under every step other than a reset. -/
theorem Moves.cached_eq_some {i : Issued} (hmoves : p.Moves s q reply) (hs : s ≠ .reset)
    (h : p.cached = some i) : q.cached = some i := by
  cases hmoves with
  | kept => exact h
  | built hcached | refused hcached =>
    -- There is nothing to build while settings are kept.
    rw [h] at hcached
    cases hcached
  | loaded => rw [loadNearest_cached, h]
  | reset => exact absurd rfl hs
  | created | setVariable | unsetVariable | entered | written | removed => exact h

theorem cached_run {i : Issued} (hss : Step.reset ∉ ss) (h : p.cached = some i) :
    (p.run ss).1.cached = some i :=
  run_preserves (P := fun p => p.cached = some i)
    (fun p s hs h => (p.moves_step s).cached_eq_some (fun hreset => hss (hreset ▸ hs)) h) h

/-- Nothing kept stays nothing kept where no settings are issued. -/
theorem Moves.cached_eq_none (hmoves : p.Moves s q reply) (hreply : reply.issued? = none)
    (h : p.cached = none) : q.cached = none := by
  cases hmoves with
  | kept | built => cases hreply
  | refused | loaded => rw [loadNearest_cached, h]
  | reset => rfl
  | created | setVariable | unsetVariable | entered | written | removed => exact h

theorem cached_run_of_not_issued (hss : ∀ reply ∈ (p.run ss).2, reply.issued? = none)
    (h : p.cached = none) : (p.run ss).1.cached = none := by
  induction ss generalizing p with
  | nil => exact h
  | cons s ss ih =>
    rw [run_cons] at hss ⊢
    have hstep := (p.moves_step s).cached_eq_none (hss _ (List.mem_cons_self ..)) h
    exact ih (fun reply hreply => hss reply (List.mem_cons_of_mem _ hreply)) hstep

/-! ### Serial numbers -/

/-- Kept settings bear a number below the number of builds. -/
def Numbered (p : Session) : Prop := ∀ i, p.cached = some i → i.serial < p.builds

/-- All settings that the session may still issue were built after those of a number. -/
structure IssuesAbove (n : Nat) (p : Session) : Prop where
  builds : n < p.builds
  cached : ∀ i, p.cached = some i → n < i.serial

theorem numbered_start (env : Environment) (files : Files) (folder : Path) :
    (start env files folder).Numbered := by
  intro i h
  cases h

theorem Moves.numbered (hmoves : p.Moves s q reply) (h : p.Numbered) : q.Numbered := by
  intro i hi
  cases hmoves with
  | kept | created | setVariable | unsetVariable | entered | written | removed => exact h i hi
  | built =>
    obtain rfl := Option.some.inj hi
    -- What is built has the number of builds so far, which is then counted.
    exact Nat.lt_succ_self p.builds
  -- A load touches the environment only.
  | refused | loaded =>
    rw [loadNearest_cached] at hi
    rw [loadNearest_builds]
    exact h i hi
  | reset => cases hi

theorem Moves.builds_le (hmoves : p.Moves s q reply) : p.builds ≤ q.builds := by
  cases hmoves with
  | built => exact Nat.le_succ p.builds
  | refused | loaded => exact Nat.le_of_eq p.loadNearest_builds.symm
  | kept | created | reset | setVariable | unsetVariable | entered | written | removed =>
    exact Nat.le_refl _

theorem builds_le_run (p : Session) (ss : List Step) : p.builds ≤ (p.run ss).1.builds :=
  run_preserves (P := fun q => p.builds ≤ q.builds)
    (fun q s _ h => Nat.le_trans h (q.moves_step s).builds_le) (Nat.le_refl _)

/-- A reset leaves only later numbers to come. -/
theorem issuesAbove_reset {n : Nat} (h : n < p.builds) : IssuesAbove n p.reset :=
  ⟨h, fun _ hi => by cases hi⟩

theorem Moves.issuesAbove {n : Nat} (hmoves : p.Moves s q reply) (h : IssuesAbove n p) :
    IssuesAbove n q := by
  refine ⟨Nat.lt_of_lt_of_le h.builds hmoves.builds_le, fun i hi => ?_⟩
  cases hmoves with
  | kept | created | setVariable | unsetVariable | entered | written | removed =>
    exact h.cached i hi
  | built =>
    -- New settings have the number of builds, and that is past the bound already.
    obtain rfl := Option.some.inj hi
    exact h.builds
  | refused | loaded =>
    rw [loadNearest_cached] at hi
    exact h.cached i hi
  | reset => cases hi

/-- Behind a reset, only numbers are met that are not below the number of builds at the start. -/
theorem issuesAbove_run_of_reset {n : Nat} (hn : n < p.builds) (hss : Step.reset ∈ ss) :
    IssuesAbove n (p.run ss).1 := by
  obtain ⟨before, after, rfl⟩ := List.append_of_mem hss
  rw [run_append, run_cons]
  exact run_preserves (P := IssuesAbove n) (fun q s _ h => (q.moves_step s).issuesAbove h)
    (issuesAbove_reset (Nat.lt_of_lt_of_le hn (p.builds_le_run before)))

/-- What a get issues is kept, under a number below the number of builds. -/
theorem issued_of_getSettings {warnings : List Dotenv.Warning} {i : Issued} (hp : p.Numbered)
    (h : p.getSettings = (q, warnings, .ok i)) : q.cached = some i ∧ i.serial < q.builds := by
  cases moves_of_getSettings h with
  | kept hcached => exact ⟨hcached, hp i hcached⟩
  | built => exact ⟨rfl, Nat.lt_succ_self p.builds⟩

theorem lt_serial_of_getSettings {n : Nat} {warnings : List Dotenv.Warning} {i : Issued}
    (hp : IssuesAbove n p) (h : p.getSettings = (q, warnings, .ok i)) : n < i.serial := by
  cases moves_of_getSettings h with
  | kept hcached => exact hp.cached i hcached
  | built => exact hp.builds

/-! ### Failed gets -/

/-- **A failed get keeps nothing.** -/
theorem cached_of_getSettings_error {warnings : List Dotenv.Warning} {e : Failure}
    (h : p.getSettings = (q, warnings, .error e)) : q.cached = none := by
  cases moves_of_getSettings_error h with
  | refused hcached => rw [loadNearest_cached, hcached]

/-- **No past.** Without kept settings, a get does what it does in a session that begins with the same
environment, files and folder; only the number that new settings bear is another one. -/
theorem getSettings_of_start (h : p.cached = none) :
    let fresh := start p.environment p.files p.folder
    p.getSettings.1.environment = fresh.getSettings.1.environment
      ∧ p.getSettings.2.1 = fresh.getSettings.2.1
      ∧ p.getSettings.2.2.map (·.settings) = fresh.getSettings.2.2.map (·.settings) := by
  obtain ⟨env, files, folder, cached, builds⟩ := p
  cases h
  -- Neither loading nor building looks at the number of builds.
  have hload : loadNearest ⟨env, files, folder, none, builds⟩
      = ({ (start env files folder).loadNearest.1 with builds := builds },
        (start env files folder).loadNearest.2) := by
    have hnearest : nearest? ⟨env, files, folder, none, builds⟩
        = (start env files folder).nearest? := rfl
    rw [loadNearest, loadNearest, hnearest]
    cases (start env files folder).nearest? with
    | none => rfl
    | some entry => rfl
  have hbuild : ∀ q : Session,
      buildSettings ⟨q.environment, q.files, q.folder, q.cached, builds⟩ [] = q.buildSettings [] :=
    fun q => rfl
  have hcached : (start env files folder).cached = none := rfl
  dsimp only
  rw [getSettings, getSettings, hload, hcached]
  rcases (start env files folder).loadNearest with ⟨q, warnings, _ | e⟩
  · dsimp only
    rw [hbuild]
    rcases q.buildSettings [] with ⟨more, e | settings⟩
    · exact ⟨rfl, rfl, rfl⟩
    · exact ⟨rfl, rfl, rfl⟩
  · exact ⟨rfl, rfl, rfl⟩

/-! ### Whole runs -/

/-- **The same settings until the next reset.** Take a session after any steps. Where a get issues
settings, then behind any further steps without a reset a get issues them again, reports nothing and
changes nothing; and settings issued behind any further steps are the same ones exactly where no reset
is among the steps. Where a get fails, nothing is kept, and behind any further steps that issue no
settings a get does the same with and without a reset before it: what it does in a session that
begins with the environment, the files and the folder of that time. -/
theorem issues_same_iff (env : Environment) (files : Files) (folder : Path) (past : List Step) :
    let p := ((start env files folder).run past).1
    (∀ q warnings i, p.getSettings = (q, warnings, .ok i) → ∀ steps,
        let r := (q.run steps).1
        (Step.reset ∉ steps → r.getSettings = (r, [], .ok i))
          ∧ ∀ r' more j, r.getSettings = (r', more, .ok j) →
              (j.serial = i.serial ↔ Step.reset ∉ steps))
      ∧ ∀ q warnings e, p.getSettings = (q, warnings, .error e) →
          q.cached = none ∧ ∀ steps, (∀ reply ∈ (q.run steps).2, reply.issued? = none) →
            let r := (q.run steps).1
            let fresh := start r.environment r.files r.folder
            r.cached = none
              ∧ r.getSettings = r.reset.getSettings
              ∧ r.getSettings.1.environment = fresh.getSettings.1.environment
              ∧ r.getSettings.2.1 = fresh.getSettings.2.1
              ∧ r.getSettings.2.2.map (·.settings) = fresh.getSettings.2.2.map (·.settings) := by
  intro p
  have hp : p.Numbered :=
    run_preserves (P := Numbered) (fun q s _ h => (q.moves_step s).numbered h) (numbered_start env files folder)
  refine ⟨fun q warnings i hget steps => ?_, fun q warnings e hget => ?_⟩
  · obtain ⟨hcached, hserial⟩ := issued_of_getSettings hp hget
    have hsame : Step.reset ∉ steps →
        (q.run steps).1.getSettings = ((q.run steps).1, [], .ok i) :=
      fun hsteps => getSettings_of_cached (cached_run hsteps hcached)
    refine ⟨hsame, fun r' more j hagain => ⟨fun heq hreset => ?_, fun hsteps => ?_⟩⟩
    · have hlt := lt_serial_of_getSettings (issuesAbove_run_of_reset hserial hreset) hagain
      exact absurd heq (Nat.ne_of_gt hlt)
    · rw [hsame hsteps] at hagain
      cases hagain
      rfl
  · have hcached := cached_of_getSettings_error hget
    refine ⟨hcached, fun steps hsteps => ?_⟩
    have hr := cached_run_of_not_issued hsteps hcached
    -- A session that keeps nothing is its own reset.
    have hreset : (q.run steps).1.reset = (q.run steps).1 := by
      rw [reset, ← hr]
    refine ⟨hr, by rw [hreset], getSettings_of_start hr⟩

/-- A level that is changed behind a get is not looked at until a reset; a level that is mended behind
a failed get is. -/
theorem issues_same_of_level :
    (∃ q i, (start ⟨[("LOG_LEVEL", "ERROR")]⟩ .empty []).getSettings = (q, [], .ok i)
        ∧ let r := (q.run [.setVariable "LOG_LEVEL" "LOUD", .load]).1
          r.getSettings = (r, [], .ok i))
      ∧ ∃ q e, (start ⟨[("LOG_LEVEL", "LOUD")]⟩ .empty []).getSettings = (q, [], .error e)
        ∧ let r := (q.run [.setVariable "LOG_LEVEL" "ERROR"]).1
          r.getSettings = r.reset.getSettings ∧ r.getSettings.2.2.isOk = true := by
  -- Both halves start where nothing is cached; a level that is right fills the cache and a wrong one does
  -- not.
  refine ⟨?_, ?_⟩
  · obtain ⟨i, hi⟩ : ∃ i, (start ⟨[("LOG_LEVEL", "ERROR")]⟩ .empty []).getSettings.2.2 = .ok i :=
      Outcome.isOk_iff.mp (by rfl)
    have hget : (start ⟨[("LOG_LEVEL", "ERROR")]⟩ .empty []).getSettings
        = ((start ⟨[("LOG_LEVEL", "ERROR")]⟩ .empty []).getSettings.1, [], .ok i) := by
      rw [← hi]
      rfl
    have hsteps : Step.reset ∉ [Step.setVariable "LOG_LEVEL" "LOUD", .load] := by simp
    have h := issues_same_iff ⟨[("LOG_LEVEL", "ERROR")]⟩ .empty [] []
    exact ⟨_, i, hget, (h.1 _ _ i hget _).1 hsteps⟩
  · have hget : (start ⟨[("LOG_LEVEL", "LOUD")]⟩ .empty []).getSettings
        = (start ⟨[("LOG_LEVEL", "LOUD")]⟩ .empty [], [],
          .error (.settings LoggingSettings.title [⟨["level"], .rule .levelName⟩])) := by rfl
    have hsteps : ∀ (q : Session), ∀ reply ∈ (q.run [.setVariable "LOG_LEVEL" "ERROR"]).2,
        reply.issued? = none := by
      intro q reply hreply
      rw [List.mem_singleton.mp hreply]
      rfl
    have h := issues_same_iff ⟨[("LOG_LEVEL", "LOUD")]⟩ .empty [] []
    obtain ⟨-, hlater⟩ := h.2 _ _ _ hget
    exact ⟨_, _, hget, (hlater _ (hsteps _)).2.1, by rfl⟩

end Session
end Settings
end ChatProbe

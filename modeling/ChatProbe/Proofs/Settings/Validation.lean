import ChatProbe.Proofs.Dotenv.Loadable
import ChatProbe.Proofs.Settings.Sources
import ChatProbe.Proofs.Settings.Stepping
/-!
# What stands in the way of settings

Settings that break a rule are refused with a list of faults. There are other ways in which a get can
fail, and all of them lie before the rules are looked at:

* the load of the nearest `.env` comes upon bytes that are no text, or upon an assignment that no
  environment can hold (`Dotenv.Loadable`, `Session.loadNearest_failure_eq_none_iff`);
* the `.env` in the working folder, which is read once more, is no text;
* the variable of a group, in the environment or in that file, is no JSON (`TextSource.Legible`).

Where none of these happens, whatever is wrong is told as a list of faults
(`AppSettings.validated_build_iff`). The main statement is `Session.validated_getSettings_iff`.
-/

namespace ChatProbe
namespace Settings

/-! ### Faults and other failures -/

/-- A result that is there, or is refused with a list of faults. -/
def Validated {α : Type} (x : Except Failure α) : Prop :=
  (∃ a, x = .ok a) ∨ ∃ title faults, x = .error (.settings title faults)

section Validated

variable {α β : Type} {x : Except Failure α}

theorem validated_ok (a : α) : Validated (.ok a : Except Failure α) := .inl ⟨a, rfl⟩

theorem validated_error_iff {e : Failure} :
    Validated (.error e : Except Failure α) ↔ ∃ title faults, e = .settings title faults := by
  refine ⟨?_, fun ⟨title, faults, h⟩ => .inr ⟨title, faults, congrArg Except.error h⟩⟩
  rintro (⟨a, h⟩ | ⟨title, faults, h⟩)
  · cases h
  · exact ⟨title, faults, Except.error.inj h⟩

theorem Validated.bind (hx : Validated x) {f : α → Except Failure β} (hf : ∀ a, Validated (f a)) :
    Validated (x >>= f) := by
  rcases hx with ⟨a, rfl⟩ | ⟨title, faults, rfl⟩
  · exact hf a
  · exact .inr ⟨title, faults, rfl⟩

theorem Validated.of_bind {f : α → Except Failure β} (h : Validated (x >>= f)) : Validated x := by
  cases x with
  | ok a => exact validated_ok a
  | error e => exact validated_error_iff.mpr (validated_error_iff.mp h)

/-- The faults of a check are told as a list. -/
theorem validated_get (c : Checked α) (title : String) : Validated (c.get (Failure.settings title)) := by
  cases c with
  | ok a => exact validated_ok a
  | faulty faults => exact .inr ⟨title, faults, rfl⟩

theorem validated_map_iff {f : α → β} : Validated (x.map f) ↔ Validated x := by
  cases x with
  | ok a => exact ⟨fun _ => validated_ok a, fun _ => validated_ok (f a)⟩
  | error e => exact validated_error_iff.trans validated_error_iff.symm

theorem validated_groupOf (title name : String) (build : Inputs → Checked α) (v : Option Value) :
    Validated (groupOf title name build v) := by
  cases v with
  | some v => exact validated_ok _
  | none =>
    rcases validated_get (build []) title with ⟨a, h⟩ | ⟨title', faults, h⟩
    · exact .inl ⟨.ok a, by rw [groupOf, h]; rfl⟩
    · exact .inr ⟨title', faults, by rw [groupOf, h]; rfl⟩

end Validated

/-! ### The variables of the groups -/

/-- A source in which the variable of every group is JSON, if it is there. -/
def TextSource.Legible (s : TextSource) : Prop :=
  ∀ g : GroupName, ∀ field ∈ g.fieldName?, ∀ text, s.lookup field = some text →
    (Json.read text).isOk = true

namespace TextSource

variable {s : TextSource}

theorem isOk_group (names : List String) {field : String} :
    (s.group names field).isOk = true
      ↔ ∀ text, s.lookup field = some text → (Json.read text).isOk = true := by
  rw [group]
  cases s.lookup field with
  | none => exact ⟨fun _ text h => (by cases h), fun _ => rfl⟩
  | some text =>
    -- There is one text at most to be read.
    have hone : (∀ text', some text = some text' → (Json.read text').isOk = true)
        ↔ (Json.read text).isOk = true :=
      ⟨fun h => h text rfl, fun h text' heq => Option.some.inj heq ▸ h⟩
    rw [hone]
    dsimp only
    cases Json.read text with
    | error fault => rfl
    -- Any document will do here; what it says is checked later.
    | ok j => cases j <;> exact ⟨fun _ => rfl, fun _ => rfl⟩

/-- A group whose variable cannot be read is a failure of its own kind. -/
theorem group_ne_faults {names : List String} {field title : String} {faults : List Fault} :
    s.group names field ≠ .error (.settings title faults) := by
  intro h
  rw [group] at h
  cases hlookup : s.lookup field with
  | none =>
    rw [hlookup] at h
    cases h
  | some text =>
    rw [hlookup] at h
    dsimp only at h
    -- A text that is no document fails as a source, and a document does not fail here at all.
    cases hread : Json.read text with
    | error fault =>
      rw [hread] at h
      cases h
    | ok j =>
      rw [hread] at h
      cases j <;> cases h

/-- **The groups of a legible source** can all be read. -/
theorem exists_groups (h : s.Legible) : ∃ gs, s.groups = .ok gs := by
  obtain ⟨logging, hlogging⟩ :=
    Outcome.isOk_iff.mp ((isOk_group LoggingSettings.names).mpr (h .logging _ rfl))
  obtain ⟨telemetry, htelemetry⟩ :=
    Outcome.isOk_iff.mp ((isOk_group TelemetrySettings.names).mpr (h .telemetry _ rfl))
  obtain ⟨mockServer, hmockServer⟩ :=
    Outcome.isOk_iff.mp ((isOk_group MockServerSettings.names).mpr (h .mockServer _ rfl))
  refine ⟨⟨logging, telemetry, mockServer⟩, ?_⟩
  rw [groups, hlogging, htelemetry, hmockServer]
  rfl

/-- A source whose groups cannot all be read fails, and for no fault of settings. -/
theorem legible_of_validated (h : Validated s.groups) : s.Legible := by
  rcases h with ⟨gs, h⟩ | ⟨title, faults, h⟩
  · rw [groups] at h
    obtain ⟨logging, hlogging, h⟩ := Outcome.bind_eq_ok.mp h
    obtain ⟨telemetry, htelemetry, h⟩ := Outcome.bind_eq_ok.mp h
    obtain ⟨mockServer, hmockServer, h⟩ := Outcome.bind_eq_ok.mp h
    -- All groups were read, so each of their variables holds a document.
    intro g field hfield
    cases g with
    | app => cases hfield
    | logging =>
      cases hfield
      exact (isOk_group _).mp (Outcome.isOk_iff.mpr ⟨_, hlogging⟩)
    | telemetry =>
      cases hfield
      exact (isOk_group _).mp (Outcome.isOk_iff.mpr ⟨_, htelemetry⟩)
    | mockServer =>
      cases hfield
      exact (isOk_group _).mp (Outcome.isOk_iff.mpr ⟨_, hmockServer⟩)
  · -- Whichever group it is that fails, it does so for another reason.
    rw [groups] at h
    rcases Outcome.bind_eq_error.mp h with h | ⟨logging, -, h⟩
    · exact absurd h group_ne_faults
    rcases Outcome.bind_eq_error.mp h with h | ⟨telemetry, -, h⟩
    · exact absurd h group_ne_faults
    rcases Outcome.bind_eq_error.mp h with h | ⟨mockServer, -, h⟩
    · exact absurd h group_ne_faults
    · cases h

end TextSource

/-! ### All settings -/

/-- **From legible sources** settings are built, or refused with a list of faults; from any other source
they are neither. -/
theorem AppSettings.validated_build_iff {env : Environment} {as : List Dotenv.Assignment}
    {inputs : Inputs} :
    Validated (AppSettings.build env as inputs)
      ↔ (environmentSource env).Legible ∧ (dotenvSource as).Legible := by
  rw [build]
  dsimp only
  constructor
  · intro h
    have hlegible := TextSource.legible_of_validated h.of_bind
    obtain ⟨outer, houter⟩ := TextSource.exists_groups hlegible
    rw [houter] at h
    exact ⟨hlegible, TextSource.legible_of_validated (Validated.of_bind h)⟩
  · rintro ⟨houter, hinner⟩
    obtain ⟨outer, houter⟩ := TextSource.exists_groups houter
    obtain ⟨inner, hinner⟩ := TextSource.exists_groups hinner
    rw [houter, hinner]
    -- What is left looks at the values alone.
    refine Validated.bind (validated_groupOf _ _ _ _) fun logging => ?_
    refine Validated.bind (validated_groupOf _ _ _ _) fun telemetry => ?_
    refine Validated.bind (validated_groupOf _ _ _ _) fun mockServer => ?_
    exact validated_get _ _

namespace Session

/-- A session whose nearest `.env` can be loaded, if loading is not turned off and this is a file. -/
def Loads (p : Session) : Prop :=
  Dotenv.isDisabled p.environment = true
    ∨ ∀ bytes, p.nearest? = some (.file bytes) → Dotenv.Loadable p.environment bytes

/-- A session in which nothing stands in the way of reading settings: the nearest `.env` can be loaded,
the `.env` in the working folder is text, and behind the load the variables of the groups are JSON, in
the environment as well as in that file. -/
structure Readable (p : Session) : Prop where
  loads : p.Loads
  text : ∀ bytes, p.files.read? (p.folder ++ [dotenvName]) = some bytes →
    ∃ text, Text.Utf8.decode bytes = .ok text
  environment : (environmentSource p.loadNearest.1.environment).Legible
  file : ∀ as warnings, p.loadNearest.1.ownAssignments = .ok (as, warnings) → (dotenvSource as).Legible

variable {p : Session}

theorem loadNearest_failure_eq_none_iff : p.loadNearest.2.2 = none ↔ p.Loads := by
  rw [loadNearest, Loads]
  cases p.nearest? with
  | none => exact ⟨fun _ => .inr fun bytes h => (by cases h), fun _ => rfl⟩
  | some entry =>
    cases entry with
    | folder =>
      -- A folder of that name holds nothing.
      refine ⟨fun _ => .inr fun bytes h => (by cases h), fun _ => ?_⟩
      show (Dotenv.load p.environment none).failure = none
      by_cases hdisabled : Dotenv.isDisabled p.environment = true
      · rw [Dotenv.load_of_disabled hdisabled]
      · rw [Dotenv.load_none hdisabled]
    | file bytes =>
      show (Dotenv.load p.environment (some bytes)).failure = none ↔ _
      rw [Dotenv.load_failure_eq_none_iff]
      refine or_congr_right ⟨fun h bytes' heq => ?_, fun h => h bytes rfl⟩
      cases heq
      exact h

theorem loadNearest_ne_faults {title : String} {faults : List Fault} :
    p.loadNearest.2.2 ≠ some (.settings title faults) := by
  rw [loadNearest]
  cases p.nearest? with
  | none => exact fun h => (by cases h)
  | some entry => exact Dotenv.load_ne_faults

/-- The `.env` in the working folder can be read where it is text, if it is there at all. -/
theorem ownAssignments_cases (p : Session) :
    (∃ as warnings, p.ownAssignments = .ok (as, warnings)
        ∧ ∀ bytes, p.files.read? (p.folder ++ [dotenvName]) = some bytes →
            ∃ text, Text.Utf8.decode bytes = .ok text)
      ∨ ∃ fault bytes, p.ownAssignments = .error (.undecodable fault)
        ∧ p.files.read? (p.folder ++ [dotenvName]) = some bytes
        ∧ Text.Utf8.decode bytes = .error fault := by
  rw [ownAssignments]
  cases p.files.read? (p.folder ++ [dotenvName]) with
  | none => exact .inl ⟨[], [], rfl, fun bytes h => (by cases h)⟩
  | some bytes =>
    dsimp only
    -- Once the bytes have a text, reading it cannot fail.
    cases hdecode : Text.Utf8.decode bytes with
    | error fault => exact .inr ⟨fault, bytes, by rw [Dotenv.assignments, hdecode]; rfl, rfl, hdecode⟩
    | ok text =>
      refine .inl ⟨_, _, Dotenv.assignments_of_decode _ _ hdecode, fun bytes' h => ?_⟩
      cases h
      exact ⟨text, hdecode⟩

/-- What a get builds where nothing is kept. -/
theorem result_getSettings_of_uncached (h : p.cached = none) :
    p.getSettings.2.2 = match p.loadNearest.2.2 with
      | some e => .error e
      | none => (p.loadNearest.1.buildSettings []).2.map fun s => ⟨p.loadNearest.1.builds, s⟩ := by
  rw [getSettings, h]
  rcases p.loadNearest with ⟨q, warnings, _ | e⟩
  · dsimp only
    rcases q.buildSettings [] with ⟨more, e | settings⟩
    · rfl
    · rfl
  · rfl

/-- **When a list of faults is all that can come.** The load of the nearest `.env` comes to its end on
just the sessions that it `Loads`. A get issues settings, or refuses them with a list of faults, exactly
where settings are kept already or nothing stands in the way of reading them (`Readable`). -/
theorem validated_getSettings_iff (p : Session) :
    (p.loadNearest.2.2 = none ↔ p.Loads)
      ∧ (Validated p.getSettings.2.2 ↔ p.cached.isSome = true ∨ p.Readable) := by
  refine ⟨loadNearest_failure_eq_none_iff, ?_⟩
  cases hcached : p.cached with
  | some i =>
    rw [getSettings_of_cached hcached]
    exact ⟨fun _ => .inl rfl, fun _ => validated_ok i⟩
  | none =>
    rw [Option.isSome_none, or_iff_right Bool.false_ne_true, result_getSettings_of_uncached hcached]
    have hloads := loadNearest_failure_eq_none_iff (p := p)
    cases hfailure : p.loadNearest.2.2 with
    | some e =>
      rw [hfailure] at hloads
      refine ⟨fun h => ?_, fun h => (by cases hloads.mpr h.loads)⟩
      -- A failed load comes out as it is, and no load fails with faults.
      obtain ⟨title, faults, rfl⟩ := validated_error_iff.mp h
      exact absurd hfailure loadNearest_ne_faults
    | none =>
      have hfiles : p.loadNearest.1.files = p.files := by rw [p.loadNearest_eq.1]
      have hfolder : p.loadNearest.1.folder = p.folder := by rw [p.loadNearest_eq.1]
      dsimp only
      rw [validated_map_iff, buildSettings]
      rcases p.loadNearest.1.ownAssignments_cases with
        ⟨as, warnings, hown, htext⟩ | ⟨fault, bytes, hown, hread, hdecode⟩
      · rw [hfiles, hfolder] at htext
        rw [hown]
        dsimp only
        -- Loaded and decoded: all that can still go wrong is in the two sources.
        rw [AppSettings.validated_build_iff]
        refine ⟨fun ⟨henvironment, hfile⟩ => ⟨hloads.mp hfailure, htext, henvironment, ?_⟩,
          fun h => ⟨h.environment, h.file as warnings hown⟩⟩
        intro as' warnings' hown'
        rw [hown] at hown'
        cases hown'
        exact hfile
      · rw [hfiles, hfolder] at hread
        rw [hown]
        refine ⟨fun h => ?_, fun h => ?_⟩
        -- The file of the working folder is read again, and bytes without a text are no faults.
        · obtain ⟨title, faults, h⟩ := validated_error_iff.mp h
          cases h
        · obtain ⟨text, htext⟩ := h.text bytes hread
          rw [hdecode] at htext
          cases htext

/-- **Neither settings nor faults.** The variable of a group that is no JSON makes a get fail for another
reason, and so does a `.env` whose bytes are no text, on which the load itself fails. -/
theorem unvalidated_of_nonsense :
    let p := start ⟨[("LOGGING", "nonsense")]⟩ .empty []
    let q := start .empty (Files.empty.put [dotenvName] (.file [0x41, 0xff])) []
    p.getSettings.2.2 = .error (.settingsSource "logging" "EnvSettingsSource")
      ∧ ¬Validated p.getSettings.2.2
      ∧ q.loadNearest.2.2 = some (.undecodable ⟨.startByte, 1, 1, 0xff⟩)
      ∧ ¬Validated q.getSettings.2.2 := by
  intro p q
  have hp : p.getSettings.2.2 = .error (.settingsSource "logging" "EnvSettingsSource") := by rfl
  have hq : q.getSettings.2.2 = .error (.undecodable ⟨.startByte, 1, 1, 0xff⟩) := by rfl
  refine ⟨hp, fun h => ?_, by rfl, fun h => ?_⟩
  · rw [hp] at h
    obtain ⟨title, faults, h⟩ := validated_error_iff.mp h
    cases h
  · rw [hq] at h
    obtain ⟨title, faults, h⟩ := validated_error_iff.mp h
    cases h

end Session

end Settings
end ChatProbe

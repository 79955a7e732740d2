import Mathlib
import ChatProbe.Proofs.Settings.Sources
import ChatProbe.Proofs.Settings.Stepping
/-!
# The environment and the `.env` file

A session that gets its settings builds them from what the nearest `.env` file adds to the
environment and from what the `.env` file of its working folder says (`Session.getSettings_eq_ok`).
This module compares the outcome with that of the same session without any `.env` file
(`Session.withoutDotenv`), for a field whose variable the environment already holds.

The field keeps its value where the same is supplied for it (`value?_kept_iff`). A load leaves every
variable alone that is there, and still this does not follow from the variable being there, for two
reasons. The variable of a field is looked up without regard to letter case, and of several variables
the last one counts, which is the one that was added. And the variable of the whole group outranks
that of the field. The second part of the theorem says that there is no third reason.
-/

namespace ChatProbe
namespace Settings

/-- The tree without any entry named `.env`. -/
def withoutDotenvFiles (fs : Files) : Files :=
  ⟨fs.entries.filter fun e => e.1.getLast? != some dotenvName⟩

namespace Session

/-- The session in a tree without `.env` files. -/
def withoutDotenv (p : Session) : Session := { p with files := withoutDotenvFiles p.files }

/-- What the `.env` file in the working folder assigns. -/
def assigned (p : Session) : List Dotenv.Assignment :=
  match p.ownAssignments with
  | .ok (as, _) => as
  | .error _ => []

/-! ### Getting settings -/

/-- **Getting settings** for the first time builds them in the environment that the load left. -/
theorem getSettings_eq_ok {p p' : Session} {warnings : List Dotenv.Warning} {i : Issued}
    (hcached : p.cached = none) (h : p.getSettings = (p', warnings, .ok i)) :
    p'.files = p.files ∧ p'.environment = p.loadNearest.1.environment
      ∧ AppSettings.build p'.environment p'.assigned [] = .ok i.settings := by
  obtain ⟨hload, -⟩ := p.loadNearest_eq
  rw [getSettings, hcached] at h
  rcases hnearest : p.loadNearest with ⟨q, more, _ | e⟩
  · rw [hnearest] at h hload
    dsimp only at h hload
    rcases hbuild : q.buildSettings [] with ⟨most, e | settings⟩
    · rw [hbuild] at h
      cases h
    · rw [hbuild] at h
      cases h
      rw [buildSettings] at hbuild
      have hfiles : q.files = p.files := by rw [hload]
      refine ⟨hfiles, rfl, ?_⟩
      -- The settings are kept in the session, whose files and environment stay as they are.
      show AppSettings.build q.environment q.assigned [] = .ok settings
      rw [assigned]
      cases hown : q.ownAssignments with
      | error e =>
        rw [hown] at hbuild
        cases hbuild
      | ok found =>
        obtain ⟨as, ws⟩ := found
        rw [hown] at hbuild
        exact congrArg Prod.snd hbuild
  · rw [hnearest] at h
    cases h

theorem get?_withoutDotenvFiles (fs : Files) (folder : Path) :
    (withoutDotenvFiles fs).get? (folder ++ [dotenvName]) = none := by
  rw [Files.get?, List.lookup_eq_none_iff]
  intro e he
  have hlast := (List.mem_filter.mp he).2
  rw [bne_iff_ne]
  intro heq
  rw [← heq, List.getLast?_append] at hlast
  simp at hlast

theorem loadNearest_withoutDotenv (p : Session) :
    p.withoutDotenv.loadNearest = (p.withoutDotenv, [], none) := by
  have hnearest : p.withoutDotenv.nearest? = none := by
    rw [nearest?, List.findSome?_eq_none_iff]
    exact fun folder _ => get?_withoutDotenvFiles p.files folder
  rw [loadNearest, hnearest]

theorem assigned_of_files {p : Session} {fs : Files} (h : p.files = withoutDotenvFiles fs) :
    p.assigned = [] := by
  have hread : p.files.read? (p.folder ++ [dotenvName]) = none := by
    rw [Files.read?, h, get?_withoutDotenvFiles]
  rw [assigned, ownAssignments, hread]

/-- Without `.env` files, settings are built in the environment as it is. -/
theorem getSettings_withoutDotenv {p p' : Session} {warnings : List Dotenv.Warning} {i : Issued}
    (hcached : p.cached = none) (h : p.withoutDotenv.getSettings = (p', warnings, .ok i)) :
    AppSettings.build p.environment [] [] = .ok i.settings := by
  have hcached' : p.withoutDotenv.cached = none := hcached
  obtain ⟨hfiles, henv, hbuild⟩ := getSettings_eq_ok hcached' h
  rw [assigned_of_files hfiles, henv, loadNearest_withoutDotenv] at hbuild
  exact hbuild

end Session

/-! ### What is supplied -/

/-- What a group has in a source depends on the variable of the group only. -/
theorem GroupName.valueIn_congr {g : GroupName} {s s' : TextSource} (hname : s.name = s'.name)
    (h : ∀ field ∈ g.fieldName?, s.lookup field = s'.lookup field) : g.valueIn s = g.valueIn s' := by
  rw [valueIn, valueIn]
  cases hfield : g.fieldName? with
  | none => rfl
  | some field =>
    have hgroup : s.group g.fieldNames field = s'.group g.fieldNames field := by
      rw [TextSource.group, TextSource.group, h field hfield, hname]
    rw [Option.bind_some, Option.bind_some, hgroup]

theorem Supply.value?_congr {env env' : Environment} {leader name : String} (names : List String)
    (inputs : Inputs) (h : env'.folded? (leader ++ name) = env.folded? (leader ++ name)) :
    (Supply.of names leader env' inputs).value? name
      = (Supply.of names leader env inputs).value? name := by
  simp only [Supply.of, Supply.value?, h]

/-- **Nothing displaced.** The same is supplied for a field where no variable was added under its
name or that of its group, letter case aside, and the `.env` file of the working folder says nothing
about the group. -/
theorem supplied_eq {env env' : Environment} (hgrows : env.GrowsTo env')
    {as : List Dotenv.Assignment} {g : GroupName} {name : String}
    (hfixed : env.folded? (g.leader ++ name) ≠ none)
    (hadded : ∀ b ∈ env'.bindings, env.get? b.1 = none →
      Text.lower b.1 ≠ Text.lower (g.leader ++ name)
        ∧ ∀ field ∈ g.fieldName?, Text.lower b.1 ≠ Text.lower field)
    (hown : ∀ field ∈ g.fieldName?, (dotenvSource as).lookup field = none) :
    supplied env' as g name = supplied env [] g name := by
  have hvariable := hgrows.folded?_eq fun b hb hnew => (hadded b hb hnew).1
  have hgroup : groupValue env' as g = groupValue env [] g := by
    have houter : g.valueIn (environmentSource env') = g.valueIn (environmentSource env) :=
      GroupName.valueIn_congr rfl fun field hfield =>
        hgrows.folded?_eq fun b hb hnew => (hadded b hb hnew).2 field hfield
    have hinner : g.valueIn (dotenvSource as) = g.valueIn (dotenvSource []) :=
      GroupName.valueIn_congr rfl hown
    rw [groupValue, groupValue, houter, hinner]
  cases g with
  | app =>
    -- Fields outside the groups have one variable each, which is there.
    have hleader : GroupName.app.leader ++ name = name := String.empty_append
    rw [hleader] at hvariable hfixed
    obtain ⟨value, hvalue⟩ := Option.ne_none_iff_exists'.mp hfixed
    rw [supplied, supplied, hvariable, hvalue]
    rfl
  | logging | telemetry | mockServer =>
    simp only [supplied, hgroup]
    exact Supply.value?_congr _ _ hvariable

/-- **When the environment wins.** Take a session that has not built its settings yet, and that gets
them both with its `.env` files and without, and a field whose variable the environment holds. The
field has the same value in both outcomes where what is supplied for it reads the same. This is so
where the load adds no variable under the name of the field or of its group, letter case aside, and
the `.env` file of the working folder says nothing about the group. -/
theorem value?_kept_iff {p p₁ p₂ : Session} {w₁ w₂ : List Dotenv.Warning} {i₁ i₂ : Issued}
    (hcached : p.cached = none) (h₁ : p.getSettings = (p₁, w₁, .ok i₁))
    (h₂ : p.withoutDotenv.getSettings = (p₂, w₂, .ok i₂)) {g : GroupName} {name : String}
    (hname : name ∈ g.fieldNames) (hfixed : p.environment.folded? (g.leader ++ name) ≠ none) :
    (i₁.settings.value? g name = i₂.settings.value? g name ↔
        g.reading (supplied p₁.environment p₁.assigned g name) name
          = g.reading (supplied p.environment [] g name) name)
      ∧ ((∀ b ∈ p₁.environment.bindings, p.environment.get? b.1 = none →
            Text.lower b.1 ≠ Text.lower (g.leader ++ name)
              ∧ ∀ field ∈ g.fieldName?, Text.lower b.1 ≠ Text.lower field) →
          (∀ field ∈ g.fieldName?, (dotenvSource p₁.assigned).lookup field = none) →
          i₁.settings.value? g name = i₂.settings.value? g name) := by
  obtain ⟨-, henv, hbuild₁⟩ := Session.getSettings_eq_ok hcached h₁
  have hbuild₂ := Session.getSettings_withoutDotenv hcached h₂
  have hgrows : p.environment.GrowsTo p₁.environment := by
    rw [henv]
    exact p.loadNearest_eq.2
  rw [AppSettings.value?_build hbuild₁ hname, AppSettings.value?_build hbuild₂ hname]
  -- Both values are readings of what was supplied, and the same is supplied.
  refine ⟨Iff.rfl, fun hadded hown => ?_⟩
  rw [supplied_eq hgrows hfixed hadded hown]

/-! ### A level in the environment -/

/-- An environment that holds a level. -/
def levelEnvironment : Environment := ⟨[("LOG_LEVEL", "ERROR")]⟩

/-- A session with a level in its environment and a `.env` file in its working folder. -/
def levelSession (text : String) : Session :=
  .start levelEnvironment (Files.empty.put [dotenvName] (.file (Text.Utf8.encode text))) []

/-- What a file says counts twice: for the variables that it adds, and for the settings themselves. -/
theorem getSettings_levelSession {text : String} {ss : List Dotenv.Statement} {env : Environment}
    {s : AppSettings} (hdecode : Text.Utf8.decode (Text.Utf8.encode text) = .ok text)
    (hstatements : Dotenv.statements text = ss) (hclean : Dotenv.warningsOf ss = [])
    (hfill : Dotenv.fillGaps levelEnvironment
      (Dotenv.assignmentsOf .environmentFirst levelEnvironment ss) = (env, none))
    (hbuild : AppSettings.build env (Dotenv.assignmentsOf .fileFirst env ss) [] = .ok s) :
    ∃ p, (levelSession text).getSettings = (p, [], .ok ⟨0, s⟩) ∧ p.environment = env
      ∧ p.assigned = Dotenv.assignmentsOf .fileFirst env ss := by
  -- The file is read twice, once to load it and once as a source, and both readings see the same
  -- statements.
  have hread : ∀ precedence env, Dotenv.assignments precedence env (Text.Utf8.encode text)
      = .ok (Dotenv.assignmentsOf precedence env ss, []) := by
    intro precedence env
    rw [Dotenv.assignments, hdecode, ← hclean, ← hstatements]
    rfl
  have hload : Dotenv.load levelEnvironment (some (Text.Utf8.encode text)) = ⟨env, [], none⟩ := by
    have henabled : Dotenv.isDisabled levelEnvironment = false := rfl
    rw [Dotenv.load, henabled, hread]
    dsimp only
    rw [hfill]
    rfl
  have hcached : (levelSession text).cached = none := rfl
  have hnearest : (levelSession text).nearest? = some (.file (Text.Utf8.encode text)) := by rfl
  have henv : (levelSession text).environment = levelEnvironment := rfl
  have hown : ({ levelSession text with environment := env } : Session).ownAssignments
      = .ok (Dotenv.assignmentsOf .fileFirst env ss, []) := hread .fileFirst env
  have hnext : (levelSession text).loadNearest
      = ({ levelSession text with environment := env }, [], none) := by
    rw [Session.loadNearest, hnearest]
    dsimp only
    rw [henv, hload]
  -- The first settings of the process get the number zero.
  refine ⟨{ levelSession text with environment := env, cached := some ⟨0, s⟩, builds := 1 },
    ?_, rfl, ?_⟩
  · rw [Session.getSettings, hcached, hnext]
    dsimp only
    rw [Session.buildSettings, hown]
    dsimp only
    rw [hbuild]
    rfl
  · show (match ({ levelSession text with environment := env } : Session).ownAssignments with
      | .ok (as, _) => as
      | .error _ => []) = _
    rw [hown]

theorem getSettings_levelSession_withoutDotenv (text : String) :
    ∃ p s, (levelSession text).withoutDotenv.getSettings = (p, [], .ok ⟨0, s⟩)
      ∧ AppSettings.build levelEnvironment [] [] = .ok s := by
  have hcached : (levelSession text).withoutDotenv.cached = none := rfl
  have hassigned : (levelSession text).withoutDotenv.ownAssignments = .ok ([], []) := rfl
  have henv : (levelSession text).withoutDotenv.environment = levelEnvironment := rfl
  -- Without a file nothing is assigned, and the environment alone is valid.
  obtain ⟨s, hs⟩ : ∃ s, AppSettings.build levelEnvironment [] [] = .ok s :=
    Outcome.isOk_iff.mp (by rfl)
  rw [Session.getSettings, hcached, Session.loadNearest_withoutDotenv]
  dsimp only
  rw [Session.buildSettings, hassigned]
  dsimp only
  rw [henv, hs]
  exact ⟨_, s, rfl, rfl⟩

/-- A `.env` file that gives a format keeps the level of the environment. -/
theorem level_kept :
    ∃ p₁ p₂ : Session, ∃ i₁ i₂ : Issued,
      (levelSession "LOG_FORMAT=text\n").getSettings = (p₁, [], .ok i₁)
        ∧ (levelSession "LOG_FORMAT=text\n").withoutDotenv.getSettings = (p₂, [], .ok i₂)
        ∧ i₁.settings.value? .logging "level" = i₂.settings.value? .logging "level" := by
  have hstatements : Dotenv.statements "LOG_FORMAT=text\n"
      = [.binding "LOG_FORMAT" (some "text")] := by cbv
  have hfill : Dotenv.fillGaps levelEnvironment
      (Dotenv.assignmentsOf .environmentFirst levelEnvironment
        [.binding "LOG_FORMAT" (some "text")])
          = (⟨[("LOG_LEVEL", "ERROR"), ("LOG_FORMAT", "text")]⟩, none) := by rfl
  have hown : Dotenv.assignmentsOf .fileFirst ⟨[("LOG_LEVEL", "ERROR"), ("LOG_FORMAT", "text")]⟩
      [.binding "LOG_FORMAT" (some "text")] = [("LOG_FORMAT", some "text")] := by rfl
  obtain ⟨s, hs⟩ : ∃ s, AppSettings.build ⟨[("LOG_LEVEL", "ERROR"), ("LOG_FORMAT", "text")]⟩
      (Dotenv.assignmentsOf .fileFirst ⟨[("LOG_LEVEL", "ERROR"), ("LOG_FORMAT", "text")]⟩
        [.binding "LOG_FORMAT" (some "text")]) [] = .ok s :=
    Outcome.isOk_iff.mp (by rfl)
  obtain ⟨p₁, h₁, henv, hassigned⟩ :=
    getSettings_levelSession (by cbv) hstatements rfl hfill hs
  obtain ⟨p₂, s₂, h₂, -⟩ := getSettings_levelSession_withoutDotenv "LOG_FORMAT=text\n"
  refine ⟨p₁, p₂, _, _, h₁, h₂, ?_⟩
  -- The file fixes another field than the environment, under no spelling of this one.
  refine (value?_kept_iff rfl h₁ h₂ (g := .logging) (by decide) (by decide +kernel)).2 ?_ ?_
  · rw [henv]
    decide +kernel
  · rw [hassigned, hown]
    decide +kernel

/-- The level that a session gets. -/
def gottenLevel (p : Session) : Except Failure LevelName :=
  p.getSettings.2.2.map (·.settings.logging.level)

theorem gottenLevel_withoutDotenv (text : String) :
    gottenLevel (levelSession text).withoutDotenv = .ok .error := by
  have hlevel : (AppSettings.build levelEnvironment [] []).map (·.logging.level) = .ok .error := by
    rfl
  obtain ⟨p, s, h, hs⟩ := getSettings_levelSession_withoutDotenv text
  rw [hs] at hlevel
  rw [gottenLevel, h]
  exact hlevel

/-- **A level displaced.** The level of the environment gives way to one under its name in small
letters, and to one in the variable of the whole group. -/
theorem level_displaced :
    gottenLevel (levelSession "log_level=DEBUG\n").withoutDotenv = .ok .error
      ∧ gottenLevel (levelSession "log_level=DEBUG\n") = .ok .debug
      ∧ gottenLevel (levelSession "LOGGING=\x7b\"level\":\"DEBUG\"\x7d\n").withoutDotenv
          = .ok .error
      ∧ gottenLevel (levelSession "LOGGING=\x7b\"level\":\"DEBUG\"\x7d\n") = .ok .debug := by
  refine ⟨gottenLevel_withoutDotenv _, ?_, gottenLevel_withoutDotenv _, ?_⟩
  · -- Both spellings are there after the load, and of the two the last one counts.
    have hstatements : Dotenv.statements "log_level=DEBUG\n"
        = [.binding "log_level" (some "DEBUG")] := by cbv
    have hlevel : (AppSettings.build ⟨[("LOG_LEVEL", "ERROR"), ("log_level", "DEBUG")]⟩
        [("log_level", some "DEBUG")] []).map (·.logging.level) = .ok .debug := by rfl
    obtain ⟨s, hs, hdebug⟩ := Outcome.map_eq_ok.mp hlevel
    obtain ⟨p, h, -⟩ := getSettings_levelSession (by cbv) hstatements rfl rfl hs
    rw [gottenLevel, h]
    exact congrArg Except.ok hdebug
  · -- What a group has in its own variable is given to it before any variable of a field.
    have hstatements : Dotenv.statements "LOGGING=\x7b\"level\":\"DEBUG\"\x7d\n"
        = [.binding "LOGGING" (some "\x7b\"level\":\"DEBUG\"\x7d")] := by cbv
    have hlevel : (AppSettings.build
        ⟨[("LOG_LEVEL", "ERROR"), ("LOGGING", "\x7b\"level\":\"DEBUG\"\x7d")]⟩
          [("LOGGING", some "\x7b\"level\":\"DEBUG\"\x7d")] []).map (·.logging.level)
            = .ok .debug := by cbv
    obtain ⟨s, hs, hdebug⟩ := Outcome.map_eq_ok.mp hlevel
    obtain ⟨p, h, -⟩ := getSettings_levelSession (by cbv) hstatements rfl rfl hs
    rw [gottenLevel, h]
    exact congrArg Except.ok hdebug

end Settings
end ChatProbe

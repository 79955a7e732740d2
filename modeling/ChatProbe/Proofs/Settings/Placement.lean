import ChatProbe.Proofs.Dotenv.Literal
import ChatProbe.Proofs.Settings.Merging
import ChatProbe.Proofs.Settings.Stepping
import ChatProbe.Proofs.Text.Utf8
/-!
# Where a `.env` file lies

A session finds its `.env` file in its working folder or in a folder above. In both cases the file
is loaded into the environment. In the working folder it is read once more, as a source of its own
behind the environment (`Session.ownAssignments`). So of the place of the one file that a session
finds (`Session.Alone`) nothing counts but whether it is the working folder:
`Session.outcome_of_alone` tells what a get leads to by the environment, the bytes of the file, and
this.

* What a get leaves in the environment does not depend on the place at all.
* The outcome does not depend on it where the second reading is `Redundant`. After a load that was not
  turned off it is so in all but the groups, and in a group of which the file says nothing, or to
  which it gives literal values and the environment had none (`redundant_of_settled`).
* In general it does: what the file says about a group is merged with what the environment says
  (`placement_counts`).

The main statement is `getSettings_placed`.
-/

namespace ChatProbe
namespace Settings

namespace Session

variable {p q : Session} {place place' : Path} {bytes : List UInt8} {text : String}

/-- Nothing is kept, and one `.env` is on the way from the working folder to the root: a file, in the
folder `place`. -/
structure Alone (p : Session) (place : Path) (bytes : List UInt8) : Prop where
  uncached : p.cached = none
  above : place ∈ p.folder.upward
  only : ∀ folder ∈ p.folder.upward,
    p.files.get? (folder ++ [dotenvName]) = if folder = place then some (.file bytes) else none

/-- The settings that a get leads to, or why it fails. -/
def outcome (p : Session) : Except Failure AppSettings := p.getSettings.2.2.map (·.settings)

/-- What settings read themselves in the bytes of a `.env` file: nothing, unless it lies in the working
folder, as `own` tells. -/
def ownReading (env : Environment) (bytes : List UInt8) (own : Bool) :
    Except Failure (List Dotenv.Assignment) :=
  if own then (Dotenv.assignments .fileFirst env bytes).map (·.1) else .ok []

/-- What an environment and the bytes of a `.env` file lead to. -/
def settingsFrom (env : Environment) (bytes : List UInt8) (own : Bool) : Except Failure AppSettings :=
  let loaded := Dotenv.load env (some bytes)
  match loaded.failure with
  | some e => .error e
  | none => do
    let as ← ownReading loaded.environment bytes own
    AppSettings.build loaded.environment as []

/-! ### One file -/

theorem folder_mem_upward (folder : Path) : folder ∈ folder.upward := by
  refine List.mem_map.mpr ⟨folder.length, ?_, List.take_length⟩
  rw [List.mem_reverse, List.mem_range]
  exact Nat.lt_succ_self _

theorem nearest?_of_alone (h : p.Alone place bytes) : p.nearest? = some (.file bytes) := by
  -- The folders between the working folder and the place are passed over, so the induction is over any
  -- list of folders that holds the place.
  have hfound : ∀ folders : List Path, place ∈ folders →
      (∀ folder ∈ folders, p.files.get? (folder ++ [dotenvName])
        = if folder = place then some (.file bytes) else none) →
      folders.findSome? (fun folder => p.files.get? (folder ++ [dotenvName]))
        = some (.file bytes) := by
    intro folders hplace honly
    induction folders with
    | nil => cases hplace
    | cons folder folders ih =>
      rw [List.findSome?_cons, honly folder (List.mem_cons_self ..)]
      by_cases heq : folder = place
      · rw [if_pos heq]
      · rw [if_neg heq]
        have hrest : place ∈ folders := (List.mem_cons.mp hplace).resolve_left (Ne.symm heq)
        exact ih hrest fun other hother => honly other (List.mem_cons_of_mem _ hother)
  exact hfound _ h.above h.only

theorem loadNearest_of_alone (h : p.Alone place bytes) :
    p.loadNearest
      = ({ p with environment := (Dotenv.load p.environment (some bytes)).environment },
        (Dotenv.load p.environment (some bytes)).warnings,
        (Dotenv.load p.environment (some bytes)).failure) := by
  rw [loadNearest, nearest?_of_alone h]

/-- The file is read a second time where it lies in the working folder. -/
theorem ownAssignments_of_alone (h : p.Alone place bytes) (env : Environment) :
    (({ p with environment := env } : Session).ownAssignments).map (·.1)
      = ownReading env bytes (place = p.folder) := by
  have hentry := h.only p.folder (folder_mem_upward p.folder)
  rw [ownAssignments, ownReading, Files.read?]
  dsimp only
  rw [hentry]
  by_cases hplace : place = p.folder
  · rw [if_pos hplace.symm, if_pos (decide_eq_true hplace)]
  · rw [if_neg (Ne.symm hplace), if_neg (by rw [decide_eq_false hplace]; exact Bool.false_ne_true)]
    rfl

/-- **What a get leads to** is told by the environment, the bytes of the one file, and whether this lies
in the working folder. -/
theorem outcome_of_alone (h : p.Alone place bytes) :
    p.getSettings.1.environment = (Dotenv.load p.environment (some bytes)).environment
      ∧ p.outcome = settingsFrom p.environment bytes (place = p.folder) := by
  have hown := ownAssignments_of_alone h (Dotenv.load p.environment (some bytes)).environment
  rw [outcome, getSettings, h.uncached, loadNearest_of_alone h, settingsFrom]
  -- How the load ended is all that counts from here.
  generalize Dotenv.load p.environment (some bytes) = loaded at hown ⊢
  obtain ⟨env, warnings, _ | e⟩ := loaded
  · dsimp only at hown ⊢
    rw [← hown, buildSettings]
    rcases ({ p with environment := env } : Session).ownAssignments with e | ⟨as, more⟩
    · exact ⟨rfl, rfl⟩
    · -- What was built is kept, which changes neither the environment nor what comes out.
      show _ ∧ _ = AppSettings.build env as []
      dsimp only
      rcases AppSettings.build env as [] with e | settings
      · exact ⟨rfl, rfl⟩
      · exact ⟨rfl, rfl⟩
  · exact ⟨rfl, rfl⟩

/-- A redundant second reading might as well not be made. -/
theorem settingsFrom_of_redundant {env : Environment} (own : Bool)
    (h : (Dotenv.load env (some bytes)).failure = none →
      ∃ as warnings, Dotenv.assignments .fileFirst (Dotenv.load env (some bytes)).environment bytes
          = .ok (as, warnings)
        ∧ Redundant (Dotenv.load env (some bytes)).environment as) :
    settingsFrom env bytes own = settingsFrom env bytes false := by
  rw [settingsFrom, settingsFrom]
  cases hfailure : (Dotenv.load env (some bytes)).failure with
  | some e => rfl
  | none =>
    obtain ⟨as, warnings, hread, hredundant⟩ := h hfailure
    cases own with
    | false => rfl
    -- The second reading repeats what the environment has by now.
    | true =>
      rw [ownReading, hread]
      exact AppSettings.build_of_redundant hredundant

end Session

/-! ### Files whose second reading is redundant -/

theorem lookup_dotenvSource (as : List Dotenv.Assignment) (name : String) :
    (dotenvSource as).lookup name = ((as.filter (Dotenv.spells name)).getLast?).bind (·.2) := by
  rw [← Dotenv.find?_reverse]
  rfl

/-- A variable is found under any spelling of its name. -/
theorem folded?_ne_none {env : Environment} {name field : String} (h : (env.get? name).isSome)
    (hspelling : Text.lower name = Text.lower field) : env.folded? field ≠ none := by
  obtain ⟨value, hvalue⟩ := Option.isSome_iff_exists.mp h
  intro hnone
  -- If no variable were found under the field, none would spell it; but this one does.
  have hempty := Dotenv.filter_eq_nil_of_folded? hnone
  obtain ⟨before, after, hbindings, -⟩ := List.lookup_eq_some_iff.mp hvalue
  have hmem : (name, value) ∈ env.bindings.filter (Dotenv.spells field) := by
    refine List.mem_filter.mpr ⟨?_, beq_iff_eq.mpr hspelling⟩
    rw [hbindings]
    exact List.mem_append_right _ (List.mem_cons_self ..)
  rw [hempty] at hmem
  cases hmem

/-- Whether the second reading of a file adds nothing to a group that an environment says nothing about:
the file does not name it, or gives literal values to it. -/
def Settled (env : Environment) (ss : List Dotenv.Statement) (field : String) : Prop :=
  (∀ name value, .binding name value ∈ ss → Text.lower name ≠ Text.lower field)
    ∨ env.folded? field = none ∧ Dotenv.GivesLiterally ss field

/-- **Behind a load** that comes to its end the second reading of the file is redundant, where it is in
each group. -/
theorem redundant_of_settled {env env' : Environment} {ss : List Dotenv.Statement}
    (hgroups : ∀ g : GroupName, ∀ field ∈ g.fieldName?, Settled env ss field)
    (hfill : Dotenv.fillGaps env (Dotenv.assignmentsOf .environmentFirst env ss) = (env', none)) :
    Redundant env' (Dotenv.assignmentsOf .fileFirst env' ss) := by
  refine ⟨fun name _ hsome => ?_, fun g field hfield hsome => ?_⟩
  · -- Every name that the file gives a value to has one in the environment by now.
    obtain ⟨text, htext⟩ := Option.ne_none_iff_exists'.mp hsome
    rw [lookup_dotenvSource] at htext
    obtain ⟨⟨spelling, value⟩, hlast, hvalue⟩ := Option.bind_eq_some_iff.mp htext
    dsimp only at hvalue
    subst hvalue
    obtain ⟨hmem, hspells⟩ := List.mem_filter.mp (List.mem_of_getLast? hlast)
    have hshape := Dotenv.mem_shape_iff.mpr ⟨text, hmem⟩
    rw [Dotenv.shape_assignmentsOf _ .environmentFirst _ env] at hshape
    obtain ⟨text', hmem'⟩ := Dotenv.mem_shape_iff.mp hshape
    exact folded?_ne_none (Dotenv.filled_of_fillGaps hfill hmem') (beq_iff_eq.mp hspells)
  -- A group either is not named in the file, or is free in the environment and literal in the file; then
  -- both readings give it one text.
  · rcases hgroups g field hfield with hunnamed | ⟨hfree, hliteral⟩
    · rw [lookup_dotenvSource, Dotenv.filter_assignmentsOf_eq_nil hunnamed] at hsome
      exact absurd rfl hsome
    · obtain ⟨text, htext⟩ := Option.ne_none_iff_exists'.mp hsome
      rw [htext]
      exact (Dotenv.folded?_of_fillGaps hliteral hfree hfill htext).symm

/-! ### Two places -/

/-- **When the place does not count.** Take two sessions with the same environment that have kept nothing,
each with one `.env` on the way from its working folder to the root, with the same bytes, at any two
places. A get leaves the same environment in both. It has the same outcome, which is the same settings
or the same failure,

* where both files lie above the working folder, or both in it;
* where what settings read in the file themselves is redundant behind the load;
* where loading is not turned off, and each group is left out of the file, or has literal values there and
  no variable in the environment. -/
theorem getSettings_placed {p q : Session} {place place' : Path} {bytes : List UInt8}
    (hp : p.Alone place bytes) (hq : q.Alone place' bytes) (henv : q.environment = p.environment) :
    q.getSettings.1.environment = p.getSettings.1.environment
      ∧ ((place' = q.folder ↔ place = p.folder) → q.outcome = p.outcome)
      ∧ ((∃ as warnings, Dotenv.assignments .fileFirst p.getSettings.1.environment bytes
            = .ok (as, warnings) ∧ Redundant p.getSettings.1.environment as) →
          q.outcome = p.outcome)
      ∧ (¬Dotenv.isDisabled p.environment = true →
          (∀ text, Text.Utf8.decode bytes = .ok text → ∀ g : GroupName, ∀ field ∈ g.fieldName?,
            Settled p.environment (Dotenv.statements text) field) →
          q.outcome = p.outcome) := by
  obtain ⟨hleft, houtcome⟩ := Session.outcome_of_alone hp
  obtain ⟨hleft', houtcome'⟩ := Session.outcome_of_alone hq
  rw [henv] at hleft' houtcome'
  rw [houtcome, houtcome', hleft, hleft']
  -- Of both places nothing counts but whether they are the working folder.
  have hsame (hredundant : (Dotenv.load p.environment (some bytes)).failure = none →
      ∃ as warnings, Dotenv.assignments .fileFirst
          (Dotenv.load p.environment (some bytes)).environment bytes = .ok (as, warnings)
        ∧ Redundant (Dotenv.load p.environment (some bytes)).environment as) :
      Session.settingsFrom p.environment bytes (place' = q.folder)
        = Session.settingsFrom p.environment bytes (place = p.folder) := by
    rw [Session.settingsFrom_of_redundant (decide (place' = q.folder)) hredundant,
      Session.settingsFrom_of_redundant (decide (place = p.folder)) hredundant]
  refine ⟨rfl, fun hplaces => ?_, fun hredundant => hsame fun _ => hredundant,
    fun henabled hgroups => hsame fun hended => ?_⟩
  · rw [decide_eq_decide.mpr hplaces]
  · cases hdecode : Text.Utf8.decode bytes with
    | error e =>
      rw [Dotenv.load_of_decode_error henabled hdecode] at hended
      cases hended
    | ok text =>
      rw [Dotenv.load_of_decode henabled hdecode] at hended ⊢
      refine ⟨_, _, Dotenv.assignments_of_decode _ _ hdecode, ?_⟩
      exact redundant_of_settled (hgroups text hdecode) (Prod.ext rfl hended)

/-! ### A file in two places -/

/-- A session in a folder `work` with one `.env` file, in the folder `place`. -/
def placedSession (env : Environment) (place : Path) (text : String) : Session :=
  .start env (Files.empty.put (place ++ [dotenvName]) (.file (Text.Utf8.encode text))) ["work"]

theorem alone_placedSession (env : Environment) {place : Path} (hplace : place = ["work"] ∨ place = [])
    (text : String) : (placedSession env place text).Alone place (Text.Utf8.encode text) := by
  have hupward : (placedSession env place text).folder.upward = [["work"], []] := by rfl
  refine ⟨rfl, ?_, ?_⟩
  · rw [hupward]
    -- The place is one of two, and so is the folder that is asked for.
    rcases hplace with rfl | rfl
    · exact List.mem_cons_self ..
    · exact List.mem_cons_of_mem _ (List.mem_cons_self ..)
  · rw [hupward]
    intro folder hfolder
    rcases hplace with rfl | rfl
    all_goals
      rcases List.mem_cons.mp hfolder with rfl | hfolder
      · rfl
      · rw [List.mem_singleton.mp hfolder]
        rfl

/-- What a session with such a file leads to, where the load comes to its end. -/
theorem outcome_placedSession {env env' : Environment} {place : Path} {text : String}
    {ss : List Dotenv.Statement} (hplace : place = ["work"] ∨ place = [])
    (henabled : ¬Dotenv.isDisabled env = true) (hstatements : Dotenv.statements text = ss)
    (hfill : Dotenv.fillGaps env (Dotenv.assignmentsOf .environmentFirst env ss) = (env', none)) :
    (placedSession env place text).outcome
      = AppSettings.build env'
          (if place = ["work"] then Dotenv.assignmentsOf .fileFirst env' ss else []) [] := by
  have hdecode := Text.Utf8.decode_encode text
  have hload : Dotenv.load env (some (Text.Utf8.encode text))
      = ⟨env', Dotenv.warningsOf ss, none⟩ := by
    rw [Dotenv.load_of_decode henabled hdecode, hstatements, hfill]
  have hplaced := (Session.outcome_of_alone (alone_placedSession env hplace text)).2
  rw [hplaced]
  show Session.settingsFrom env _ (decide (place = ["work"])) = _
  rw [Session.settingsFrom, hload]
  dsimp only
  rw [Session.ownReading]
  -- Only in the working folder the file is read a second time.
  by_cases hwork : place = ["work"]
  · rw [if_pos (decide_eq_true hwork), if_pos hwork, Dotenv.assignments_of_decode _ _ hdecode,
      hstatements]
    rfl
  · rw [if_neg (fun h => hwork (of_decide_eq_true h)), if_neg hwork]
    rfl

/-- A level for an environment without variables: the place of the file does not count. -/
theorem getSettings_placed_level :
    let text := "LOGGING=\x7b\"level\":\"DEBUG\"\x7d\n"
    (placedSession .empty [] text).outcome = (placedSession .empty ["work"] text).outcome
      ∧ (placedSession .empty ["work"] text).outcome.map (·.logging.level) = .ok .debug := by
  intro text
  have hstatements : Dotenv.statements text
      = [.binding "LOGGING" (some "\x7b\"level\":\"DEBUG\"\x7d")] := by cbv
  have hliteral : Dotenv.Literal "\x7b\"level\":\"DEBUG\"\x7d" := by
    rw [Dotenv.Literal]
    decide
  obtain ⟨-, -, -, hsame⟩ := getSettings_placed
    (alone_placedSession .empty (.inl rfl) text) (alone_placedSession .empty (.inr rfl) text) rfl
  refine ⟨hsame (by decide) fun text' hdecode g field hfield => ?_, ?_⟩
  · rw [Text.Utf8.decode_encode] at hdecode
    obtain rfl := Except.ok.inj hdecode
    rw [hstatements]
    cases g with
    | app => cases hfield
    -- The group that the file names is free in the environment, and its text refers to nothing.
    | logging =>
      obtain rfl := Option.some.inj hfield
      refine .inr ⟨rfl, fun name value hmem _ => ?_⟩
      cases List.mem_singleton.mp hmem
      exact hliteral
    -- The file does not name these.
    | telemetry | mockServer =>
      obtain rfl := Option.some.inj hfield
      refine .inl fun name value hmem => ?_
      cases List.mem_singleton.mp hmem
      decide +kernel
  · rw [outcome_placedSession (.inl rfl) (by decide) hstatements rfl]
    cbv

/-- **The place counts.** With a level in the variable of a group, a format that the file gives to the
group counts where the file lies in the working folder, and does not where it lies above. -/
theorem placement_counts :
    let env : Environment := ⟨[("LOGGING", "\x7b\"level\":\"ERROR\"\x7d")]⟩
    let text := "LOGGING=\x7b\"format\":\"text\"\x7d\n"
    (placedSession env ["work"] text).Alone ["work"] (Text.Utf8.encode text)
      ∧ (placedSession env [] text).Alone [] (Text.Utf8.encode text)
      ∧ (placedSession env ["work"] text).outcome.map (·.logging.format) = .ok .text
      ∧ (placedSession env [] text).outcome.map (·.logging.format) = .ok .json := by
  intro env text
  have hstatements : Dotenv.statements text
      = [.binding "LOGGING" (some "\x7b\"format\":\"text\"\x7d")] := by cbv
  -- The variable keeps its value on load. The second reading merges the file's value into it, and happens
  -- in the working folder alone.
  refine ⟨alone_placedSession env (.inl rfl) text, alone_placedSession env (.inr rfl) text, ?_, ?_⟩
  · rw [outcome_placedSession (.inl rfl) (by decide) hstatements rfl]
    cbv
  · rw [outcome_placedSession (.inr rfl) (by decide) hstatements rfl]
    cbv

end Settings
end ChatProbe

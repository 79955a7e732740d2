import Mathlib
import ChatProbe.Proofs.Dotenv.Loadable
import ChatProbe.Proofs.Settings.Stepping
import ChatProbe.Proofs.Text.Utf8
/-!
# The `.env` file that is found

Of the `.env` files from the working folder upward the first one is meant to be loaded
(`Session.FirstFile`). The search asks for an entry of that name, of either kind, and so it finds the file
only if no folder of that name lies on the way (`Session.FirstFile.nearest?_eq`): a folder ends the search
and holds nothing (`Session.FirstFile.nearest?_of_folder`).

A load fills all gaps that the file can fill, if it is found and loading is not turned off. Otherwise it
leaves the environment as it was, and then every name that the file gives a value to is set just in case
it was set before (`Session.loadNearest_fills_all_iff`).
-/

namespace ChatProbe
namespace Settings
namespace Session

/-- The first `.env` upward that is a file: the folder where it is, the folders that come before it, and
what the file says. -/
structure FirstFile (p : Session) (passed : List Path) (place : Path) (text : String) : Prop where
  upward : ∃ farther, p.folder.upward = passed ++ place :: farther
  /-- No folder before it has such a file. -/
  first : ∀ folder ∈ passed, ∀ bytes, p.files.get? (folder ++ [dotenvName]) ≠ some (.file bytes)
  file : ∃ bytes, p.files.get? (place ++ [dotenvName]) = some (.file bytes)
    ∧ Text.Utf8.decode bytes = .ok text

/-- What a text gives to names, as a load reads it. -/
def given (p : Session) (text : String) : List Dotenv.Assignment :=
  Dotenv.assignmentsOf .environmentFirst p.environment (Dotenv.statements text)

/-- Every name that a text gives a value to is set in an environment. -/
def AllSet (p : Session) (text : String) (env : Environment) : Prop :=
  ∀ name value, (name, some value) ∈ p.given text → (env.get? name).isSome

variable {p : Session} {passed : List Path} {place : Path} {text : String}

namespace FirstFile

/-! ### The search -/

/-- **Nothing in the way.** The search finds the file where no folder before it has an entry. -/
theorem nearest?_eq (h : p.FirstFile passed place text)
    (hfree : ∀ folder ∈ passed, p.files.get? (folder ++ [dotenvName]) = none) :
    ∃ bytes, p.nearest? = some (.file bytes) ∧ Text.Utf8.decode bytes = .ok text := by
  obtain ⟨farther, hupward⟩ := h.upward
  obtain ⟨bytes, hentry, hdecode⟩ := h.file
  refine ⟨bytes, ?_, hdecode⟩
  have hpassed : passed.findSome? (fun folder => p.files.get? (folder ++ [dotenvName])) = none :=
    List.findSome?_eq_none_iff.mpr hfree
  rw [nearest?, hupward, List.findSome?_append, hpassed, Option.none_or, List.findSome?_cons, hentry]

/-- **A folder in the way.** If a folder before it has an entry, this is a folder, and the search ends
there. -/
theorem nearest?_of_folder (h : p.FirstFile passed place text)
    (hblocked : ¬∀ folder ∈ passed, p.files.get? (folder ++ [dotenvName]) = none) :
    p.nearest? = some .folder := by
  obtain ⟨farther, hupward⟩ := h.upward
  cases hfound : passed.findSome? fun folder => p.files.get? (folder ++ [dotenvName]) with
  | none => exact absurd (List.findSome?_eq_none_iff.mp hfound) hblocked
  | some entry =>
    -- What was found lies before the first file, so it is none.
    obtain ⟨folder, hmem, hentry⟩ := List.exists_of_findSome?_eq_some hfound
    have hfolder : entry = .folder := by
      cases entry with
      | folder => rfl
      | file bytes => exact absurd hentry (h.first folder hmem bytes)
    rw [nearest?, hupward, List.findSome?_append, hfound, hfolder]
    rfl

end FirstFile

/-! ### The load -/

/-- **A folder holds nothing**, so a load that finds one does nothing. -/
theorem loadNearest_of_folder (h : p.nearest? = some .folder) :
    p.loadNearest.1.environment = p.environment ∧ p.loadNearest.2.2 = none := by
  rw [loadNearest, h]
  dsimp only
  by_cases hdisabled : Dotenv.isDisabled p.environment = true
  · rw [Dotenv.load_of_disabled hdisabled]
    exact ⟨rfl, rfl⟩
  · rw [Dotenv.load_none hdisabled]
    exact ⟨rfl, rfl⟩

theorem loadNearest_of_disabled (h : Dotenv.isDisabled p.environment = true) :
    p.loadNearest.1.environment = p.environment ∧ p.loadNearest.2.2 = none := by
  rw [loadNearest]
  cases p.nearest? with
  | none => exact ⟨rfl, rfl⟩
  | some entry =>
    dsimp only
    rw [Dotenv.load_of_disabled h]
    exact ⟨rfl, rfl⟩

/-- **A file is loaded** to its end if the environment can hold what it lacks of the values. Then every
name that the file gives a value to is set. -/
theorem loadNearest_of_file {bytes : List UInt8} (hnearest : p.nearest? = some (.file bytes))
    (hdecode : Text.Utf8.decode bytes = .ok text) (henabled : ¬Dotenv.isDisabled p.environment = true)
    (hstorable : ∀ name value, (name, some value) ∈ p.given text → p.environment.get? name = none →
      Environment.Storable name value) :
    p.AllSet text p.loadNearest.1.environment ∧ p.loadNearest.2.2 = none := by
  -- No gap that is filled can be refused, so the load goes through to the end.
  have hfailure : (Dotenv.fillGaps p.environment (p.given text)).2 = none :=
    (Dotenv.fillGaps_snd_eq_none_iff (Dotenv.nodup_assignmentsOf _ _ _)).mpr hstorable
  have hload : Dotenv.load p.environment (some bytes)
      = ⟨(Dotenv.fillGaps p.environment (p.given text)).1, Dotenv.warningsOf (Dotenv.statements text),
        (Dotenv.fillGaps p.environment (p.given text)).2⟩ :=
    Dotenv.load_of_decode henabled hdecode
  rw [loadNearest, hnearest]
  dsimp only
  rw [hload]
  refine ⟨?_, hfailure⟩
  intro name value hmem
  exact Dotenv.filled_of_fillGaps (Prod.ext rfl hfailure) hmem

/-- **When the first file is loaded.** Take the first `.env` upward that is a file, where the environment
can hold what it lacks of the values. Loading the nearest `.env` comes to its end. Afterwards every name
that the file gives a value to is set just in case loading is not turned off and no folder before the file
has an entry of that name, or else all of these names were set already. -/
theorem loadNearest_fills_all_iff (hfirst : p.FirstFile passed place text)
    (hstorable : ∀ name value, (name, some value) ∈ p.given text → p.environment.get? name = none →
      Environment.Storable name value) :
    p.loadNearest.2.2 = none
      ∧ (p.AllSet text p.loadNearest.1.environment
        ↔ (¬Dotenv.isDisabled p.environment = true
            ∧ ∀ folder ∈ passed, p.files.get? (folder ++ [dotenvName]) = none)
          ∨ p.AllSet text p.environment) := by
  -- A load that does nothing has the names set that were set.
  have hidle : p.loadNearest.1.environment = p.environment →
      (p.AllSet text p.loadNearest.1.environment ↔ p.AllSet text p.environment) := by
    intro hsame
    rw [hsame]
  by_cases hdisabled : Dotenv.isDisabled p.environment = true
  · obtain ⟨hsame, hfailure⟩ := loadNearest_of_disabled hdisabled
    refine ⟨hfailure, (hidle hsame).trans ?_⟩
    exact ⟨fun h => .inr h, fun h => h.resolve_left fun hfound => hfound.1 hdisabled⟩
  by_cases hfree : ∀ folder ∈ passed, p.files.get? (folder ++ [dotenvName]) = none
  · obtain ⟨bytes, hnearest, hdecode⟩ := hfirst.nearest?_eq hfree
    obtain ⟨hset, hfailure⟩ := loadNearest_of_file hnearest hdecode hdisabled hstorable
    exact ⟨hfailure, fun _ => .inl ⟨hdisabled, hfree⟩, fun _ => hset⟩
  · obtain ⟨hsame, hfailure⟩ := loadNearest_of_folder (hfirst.nearest?_of_folder hfree)
    refine ⟨hfailure, (hidle hsame).trans ?_⟩
    exact ⟨fun h => .inr h, fun h => h.resolve_left fun hfound => hfree hfound.2⟩

/-! ### Two trees -/

/-- A session whose `.env` file lies above its working folder. -/
def belowSession : Session :=
  .start .empty (Files.empty.put [dotenvName] (.file (Text.Utf8.encode "A=1\nB\n"))) ["work"]

theorem given_belowSession : belowSession.given "A=1\nB\n" = [("A", some "1"), ("B", none)] := by
  have hstatements : Dotenv.statements "A=1\nB\n" = [.binding "A" (some "1"), .binding "B" none] := by
    cbv
  rw [given, hstatements]
  rfl

/-- The file above is found, and the name that it gives a value to is set. -/
theorem loadNearest_fills_all_below :
    belowSession.loadNearest.2.2 = none
      ∧ (belowSession.loadNearest.1.environment.get? "A").isSome := by
  have hdecode : Text.Utf8.decode (Text.Utf8.encode "A=1\nB\n") = .ok "A=1\nB\n" :=
    Text.Utf8.decode_encode _
  -- Only the working folder comes before the file, and it has no entry of the name.
  have hfirst : belowSession.FirstFile [["work"]] [] "A=1\nB\n" := by
    refine ⟨⟨[], by decide⟩, ?_, _, rfl, hdecode⟩
    intro folder hmem bytes hfile
    rw [List.mem_singleton.mp hmem] at hfile
    cases hfile
  have hstorable : ∀ name value, (name, some value) ∈ belowSession.given "A=1\nB\n" →
      belowSession.environment.get? name = none → Environment.Storable name value := by
    intro name value hmem _
    rw [given_belowSession] at hmem
    rcases List.mem_cons.mp hmem with heq | hmem
    · cases heq
      exact Dotenv.checkVariable_eq_ok_iff.mp rfl
    -- A name without a value is not given.
    · cases List.mem_singleton.mp hmem
  obtain ⟨hfailure, hset⟩ := loadNearest_fills_all_iff hfirst hstorable
  refine ⟨hfailure, hset.mpr (.inl ⟨by decide, ?_⟩) "A" "1" ?_⟩
  · intro folder hmem
    rw [List.mem_singleton.mp hmem]
    rfl
  · rw [given_belowSession]
    exact List.mem_cons_self ..

/-- **A folder hides the file.** Where the working folder has a folder named `.env`, the file above it is
still the first file, and the environment could hold its value, but the load does not set it. -/
theorem hidden_by_folder :
    let p := start .empty (belowSession.files.put ["work", dotenvName] .folder) ["work"]
    p.FirstFile [["work"]] [] "A=1\nB\n"
      ∧ p.given "A=1\nB\n" = [("A", some "1"), ("B", none)]
      ∧ Environment.Storable "A" "1"
      ∧ p.loadNearest.2.2 = none
      ∧ p.loadNearest.1.environment.get? "A" = none := by
  intro p
  have hdecode : Text.Utf8.decode (Text.Utf8.encode "A=1\nB\n") = .ok "A=1\nB\n" :=
    Text.Utf8.decode_encode _
  refine ⟨⟨⟨[], by decide⟩, ?_, _, rfl, hdecode⟩, given_belowSession,
    Dotenv.checkVariable_eq_ok_iff.mp rfl, rfl, rfl⟩
  intro folder hmem bytes hfile
  rw [List.mem_singleton.mp hmem] at hfile
  cases hfile

end Session
end Settings
end ChatProbe

import ChatProbe.Files
import ChatProbe.Settings.App
/-!
# The settings of a session

A `Session` is what the settings of a process depend on over time: the environment, the file
tree, the working folder, and the settings already built. `Session.getSettings` builds them on
first use and then keeps them; before building, it loads the nearest `.env` into the environment
(`Session.loadNearest`). `Session.reset` forgets what was built.

Settings that were built carry a serial number (`Issued`), so that "the same settings" can be
told from "equal settings". `Session.step` runs one step of a session and `Session.run` a list
of them.
-/

namespace ChatProbe
namespace Settings

/-- Settings that were built, with the number of builds before them. -/
structure Issued where
  serial : Nat
  settings : AppSettings
deriving Repr

/-- A session that uses settings. -/
structure Session where
  environment : Environment
  files : Files
  folder : Path
  cached : Option Issued
  builds : Nat
deriving Repr, Inhabited

/-- The name of the file that is searched for. -/
def dotenvName : String := ".env"

namespace Session

/-- A session before any use of settings. -/
def start (env : Environment) (files : Files) (folder : Path) : Session :=
  ⟨env, files, folder, none, 0⟩

/-- The nearest entry named `.env`, from the working folder upward; a folder of that name ends
the search like a file. -/
def nearest? (p : Session) : Option Entry :=
  p.folder.upward.findSome? fun folder => p.files.get? (folder ++ [dotenvName])

/-- Load the nearest `.env` into the environment. A folder of that name holds nothing. -/
def loadNearest (p : Session) : Session × List Dotenv.Warning × Option Failure :=
  match p.nearest? with
  | none => (p, [], none)
  | some entry =>
    let file := match entry with
      | .file bytes => some bytes
      | .folder => none
    let loaded := Dotenv.load p.environment file
    ({ p with environment := loaded.environment }, loaded.warnings, loaded.failure)

/-- The assignments of the `.env` file in the working folder itself. -/
def ownAssignments (p : Session) :
    Except Failure (List Dotenv.Assignment × List Dotenv.Warning) :=
  -- Only the working folder counts here, and a folder of that name does not.
  match p.files.read? (p.folder ++ [dotenvName]) with
  | some bytes => Dotenv.assignments .fileFirst p.environment bytes
  | none => .ok ([], [])

/-- Build settings; what is reported about the file counts also where building fails. -/
def buildSettings (p : Session) (inputs : Inputs) :
    List Dotenv.Warning × Except Failure AppSettings :=
  match p.ownAssignments with
  | .error e => ([], .error e)
  | .ok (as, warnings) => (warnings, AppSettings.build p.environment as inputs)

/-- The settings of the session: the ones already built, else new ones, which are kept. -/
def getSettings (p : Session) : Session × List Dotenv.Warning × Except Failure Issued :=
  match p.cached with
  | some issued => (p, [], .ok issued)
  | none =>
    match p.loadNearest with
    -- Nothing is kept, but what was loaded so far stays in the environment.
    | (p, warnings, some e) => (p, warnings, .error e)
    | (p, warnings, none) =>
      match p.buildSettings [] with
      | (more, .error e) => (p, warnings ++ more, .error e)
      | (more, .ok settings) =>
        let issued : Issued := ⟨p.builds, settings⟩
        ({ p with cached := some issued, builds := p.builds + 1 }, warnings ++ more, .ok issued)

/-- Forget the settings already built. -/
def reset (p : Session) : Session := { p with cached := none }

end Session

/-- The groups that can be built by name. -/
inductive GroupName where
  | logging
  | telemetry
  | mockServer
  | app
deriving DecidableEq, Repr

/-- One step of a session. -/
inductive Step where
  | get
  | create (group : GroupName) (inputs : Inputs)
  | load
  | reset
  | setVariable (name value : String)
  | unsetVariable (name : String)
  | enter (folder : Path)
  | write (path : Path) (entry : Entry)
  | remove (path : Path)
deriving Repr

/-- What a step leads to. -/
inductive Outcome where
  | done
  | issued (i : Issued)
  | made (fields : Inputs)
  | loaded (env : Environment)
  | failed (e : Failure)
deriving Repr

/-- What a step leads to, and what is reported meanwhile. -/
structure Reply where
  outcome : Outcome
  warnings : List Dotenv.Warning
deriving Repr

namespace Session

/-- The fields of a group built in a session. -/
def create (p : Session) (group : GroupName) (inputs : Inputs) :
    List Dotenv.Warning × Except Failure Inputs :=
  let env := p.environment
  match group with
  | .logging =>
    ([], ((LoggingSettings.build env inputs).get (.settings LoggingSettings.title)).map (·.dump))
  | .telemetry =>
    ([], ((TelemetrySettings.build env inputs).get
      (.settings TelemetrySettings.title)).map (·.dump))
  | .mockServer =>
    ([], ((MockServerSettings.build env inputs).get
      (.settings MockServerSettings.title)).map (·.dump))
  | .app =>
    let (warnings, result) := p.buildSettings inputs
    (warnings, result.map (·.dump))

/-- One step of a session. -/
def step (p : Session) : Step → Session × Reply
  | .get =>
    match p.getSettings with
    | (p, warnings, .ok issued) => (p, ⟨.issued issued, warnings⟩)
    | (p, warnings, .error e) => (p, ⟨.failed e, warnings⟩)
  | .create group inputs =>
    match p.create group inputs with
    | (warnings, .ok fields) => (p, ⟨.made fields, warnings⟩)
    | (warnings, .error e) => (p, ⟨.failed e, warnings⟩)
  | .load =>
    match p.loadNearest with
    | (p, warnings, none) => (p, ⟨.loaded p.environment, warnings⟩)
    | (p, warnings, some e) => (p, ⟨.failed e, warnings⟩)
  | .reset => (p.reset, ⟨.done, []⟩)
  | .setVariable name value =>
    ({ p with environment := p.environment.set name value }, ⟨.done, []⟩)
  | .unsetVariable name => ({ p with environment := p.environment.unset name }, ⟨.done, []⟩)
  | .enter folder => ({ p with folder := folder }, ⟨.done, []⟩)
  | .write path entry => ({ p with files := p.files.put path entry }, ⟨.done, []⟩)
  | .remove path => ({ p with files := p.files.remove path }, ⟨.done, []⟩)

/-- The steps of a session in order. -/
def run (p : Session) : List Step → Session × List Reply
  | [] => (p, [])
  | s :: ss =>
    let (p, reply) := p.step s
    let (p, replies) := p.run ss
    (p, reply :: replies)

@[simp] theorem run_nil (p : Session) : p.run [] = (p, []) := rfl

theorem run_cons (p : Session) (s : Step) (ss : List Step) :
    p.run (s :: ss)
      = (((p.step s).1.run ss).1, (p.step s).2 :: ((p.step s).1.run ss).2) := rfl

end Session
end Settings
end ChatProbe

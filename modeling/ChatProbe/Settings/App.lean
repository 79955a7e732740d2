import ChatProbe.Dotenv.Assignment
import ChatProbe.Json.OfValue
import ChatProbe.Settings.Groups
/-!
# The settings of the program

`AppSettings` holds the name, version and environment of the program and the three groups. Its
values come, in this order, from arguments, from environment variables and from the `.env` file
of the working folder; where two sources give a dictionary for a group, the dictionaries are
merged (`mergeValue`).

The variable of a group holds JSON. A group that no source mentions is built from its own
variables, and a fault in it is a fault of that group, reported at once; the faults of a group
that is mentioned are reported with all others, below its name.
-/

namespace ChatProbe
namespace Settings

/-- Where the program runs. -/
inductive Stage where
  | development
  | staging
  | production
  | testing
deriving DecidableEq, Repr, Inhabited

namespace Stage

/-- All stages. -/
def all : List Stage := [.development, .staging, .production, .testing]

/-- The normal form of a stage. -/
def text : Stage → String
  | .development => "development"
  | .staging => "staging"
  | .production => "production"
  | .testing => "testing"

/-- A stage in any letter case. -/
def read (v : Value) : Except Problem Stage := do
  let s ← readText v
  match all.find? fun n => n.text == Text.lower s with
  | some n => return n
  | none => throw (.rule .environmentName)

end Stage

/-- The settings of the program. -/
structure AppSettings where
  name : String
  version : String
  stage : Stage
  logging : LoggingSettings
  telemetry : TelemetrySettings
  mockServer : MockServerSettings
deriving DecidableEq, Repr, Inhabited

/-- Merge entries into those already there: dictionaries deeply, all else by replacement. The
nesting of the later entries bounds the descent. -/
def mergeEntries : Nat → List (Value × Value) → List (Value × Value) → List (Value × Value)
  | 0, low, high => high.foldl (fun acc e => Value.insertEntry e.1 e.2 acc) low
  | depth + 1, low, high =>
    high.foldl (fun acc e =>
      -- Two dictionaries under one key are merged in their turn; anything else is replaced.
      match Value.lookupEntry (Value.sameKey e.1) acc, e.2 with
      | some (.dict l), .dict h => Value.insertEntry e.1 (.dict (mergeEntries depth l h)) acc
      | _, _ => Value.insertEntry e.1 e.2 acc) low

/-- How deep merged dictionaries may nest. -/
def mergeDepth : Nat := 1000

/-- The value of a higher source on top of that of a lower one. -/
def mergeValue (low high : Option Value) : Option Value :=
  match low, high with
  | some (.dict l), some (.dict h) => some (.dict (mergeEntries mergeDepth l h))
  | low, none => low
  | _, high => high

/-- The entries of a dictionary as arguments; keys are texts. -/
def inputsOf (es : List (Value × Value)) : Inputs := es.map fun e => (e.1.shown.mended, e.2)

/-- A source of settings that holds texts by name. -/
structure TextSource where
  name : String
  lookup : String → Option String

/-- The dictionary of a group in a text source, its names in their known spelling. -/
def TextSource.group (s : TextSource) (names : List String) (field : String) :
    Except Failure (Option Value) :=
  match s.lookup field with
  | none => .ok none
  | some text =>
    match Json.read text with
    | .error _ => .error (.settingsSource field s.name)
    -- A source that says null says nothing.
    | .ok .null => .ok none
    | .ok (.object ms) =>
      .ok (some (dictOfInputs (normalized names (ms.map fun m => (m.1.mended, m.2.toValue)))))
    -- Whether it will do is for the group to say.
    | .ok j => .ok (some j.toValue)

/-- The three groups as a source gives them. -/
structure GroupValues where
  logging : Option Value
  telemetry : Option Value
  mockServer : Option Value

/-- All groups of a text source. -/
def TextSource.groups (s : TextSource) : Except Failure GroupValues := do
  let logging ← s.group LoggingSettings.names "logging"
  let telemetry ← s.group TelemetrySettings.names "telemetry"
  let mockServer ← s.group MockServerSettings.names "mock_server"
  return ⟨logging, telemetry, mockServer⟩

/-- The environment as a source. -/
def environmentSource (env : Environment) : TextSource := ⟨"EnvSettingsSource", env.folded?⟩

/-- The assignments of a `.env` file as a source. -/
def dotenvSource (as : List Dotenv.Assignment) : TextSource :=
  ⟨"DotEnvSettingsSource", fun name =>
    (as.reverse.find? fun a => Text.lower a.1 == Text.lower name).bind (·.2)⟩

/-- A group that a source mentions. -/
def mentioned {α : Type} (title name : String) (build : Inputs → Checked α) (v : Value) :
    Checked α :=
  match v with
  | .dict es => (build (inputsOf es)).below name
  | _ => .faulty [⟨[name], .notGroup title⟩]

/-- A group: built on its own where no source mentions it. -/
def groupOf {α : Type} (title name : String) (build : Inputs → Checked α) :
    Option Value → Except Failure (Checked α)
  | some v => .ok (mentioned title name build v)
  | none => ((build []).get (Failure.settings title)).map .ok

namespace AppSettings

/-- The name of these settings. -/
def title : String := "Settings"

/-- The field names. -/
def names : List String :=
  ["app_name", "app_version", "app_env", "logging", "telemetry", "mock_server"]

/-- Whether the program runs in its test stage. -/
def isTesting (s : AppSettings) : Bool := s.stage == .testing

/-- The settings from arguments, the environment and the assignments of a `.env` file. -/
def build (env : Environment) (dotenv : List Dotenv.Assignment) (inputs : Inputs) :
    Except Failure AppSettings := do
  let given := normalized names inputs
  let outer := environmentSource env
  let inner := dotenvSource dotenv
  -- The sources are read to the end first: one that is no JSON stops everything, also where a higher
  -- source decides.
  let outerGroups ← outer.groups
  let innerGroups ← inner.groups
  -- For the plain fields the first source counts that has something to say.
  let plain (field : String) : Option Value :=
    given.lookup field <|> (outer.lookup field <|> inner.lookup field).map fun text => .str text
  let read {α : Type} (field : String) (fallback : α) (reader : Value → Except Problem α) :
      Checked α :=
    match plain field with
    | none => .ok fallback
    | some v => .ofReading field (reader v)
  -- For the groups all three sources are laid over each other.
  let group (field : String) (part : GroupValues → Option Value) : Option Value :=
    mergeValue (mergeValue (part innerGroups) (part outerGroups)) (given.lookup field)
  -- A group that nothing mentions is built at once, so that its faults are its own and not those of the
  -- settings.
  let logging ← groupOf LoggingSettings.title "logging" (LoggingSettings.build env)
    (group "logging" (·.logging))
  let telemetry ← groupOf TelemetrySettings.title "telemetry" (TelemetrySettings.build env)
    (group "telemetry" (·.telemetry))
  let mockServer ← groupOf MockServerSettings.title "mock_server" (MockServerSettings.build env)
    (group "mock_server" (·.mockServer))
  let checked := (Checked.ok AppSettings.mk).ap (read "app_name" "genaiprobe" readText)
    |>.ap (read "app_version" "0.1.0" readText)
    |>.ap (read "app_env" .development Stage.read)
    |>.ap logging
    |>.ap telemetry
    |>.ap mockServer
  checked.get (Failure.settings title)

/-- The fields as values, and whether the program runs in its test stage. -/
def dump (s : AppSettings) : Inputs :=
  [("app_name", .str s.name), ("app_version", .str s.version), ("app_env", .str s.stage.text),
   ("logging", dictOfInputs s.logging.dump), ("telemetry", dictOfInputs s.telemetry.dump),
   ("mock_server", dictOfInputs s.mockServer.dump), ("is_testing", .bool s.isTesting)]

end AppSettings
end Settings
end ChatProbe

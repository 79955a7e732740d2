import ChatProbe.Proofs.Outcome
import ChatProbe.Settings.Session
/-!
# Where the values of settings come from

Settings that were built say for every field which value they have. This module says how that value
came about: of all sources one supplies the field (`supplied`), and the value of the field is the
reading of what was supplied, or its default where nothing was (`readOr`).

* `lookup_dump_build`, once for each group: the fields of a group that was built.
* `AppSettings.value?_build`: the fields of all settings that were built.

A field is named by its group and its name in the group; the fields outside the three groups belong
to the group `GroupName.app`, whose variables have nothing in front of their names.
-/

namespace ChatProbe
namespace Settings

/-! ### Checks that succeed -/

namespace Checked

variable {α β ε : Type}

theorem ap_eq_ok {f : Checked (α → β)} {x : Checked α} {b : β} :
    f.ap x = .ok b ↔ ∃ g a, f = .ok g ∧ x = .ok a ∧ g a = b := by
  cases f <;> cases x <;> simp [ap]

theorem plus_eq_ok {a : Checked α} {more : List Fault} {x : α} :
    a.plus more = .ok x ↔ a = .ok x ∧ more = [] := by
  cases a with
  | ok y => cases more <;> simp [plus]
  | faulty fs => simp [plus]

theorem below_eq_ok {name : String} {a : Checked α} {x : α} :
    a.below name = .ok x ↔ a = .ok x := by
  cases a <;> simp [below]

theorem ofReading_eq_ok {name : String} {r : Except Problem α} {x : α} :
    ofReading name r = .ok x ↔ r = .ok x := by
  cases r <;> simp [ofReading]

theorem get_eq_ok {fail : List Fault → ε} {a : Checked α} {x : α} :
    a.get fail = .ok x ↔ a = .ok x := by
  cases a <;> simp [get]

end Checked

/-- What a field is read as: its default where nothing is supplied. -/
def readOr {α : Type} (fallback : α) (read : Value → Except Problem α) : Option Value → Option α
  | none => some fallback
  | some v => (read v).toOption

theorem ofSupplied_eq_ok {α : Type} {name : String} {fallback a : α}
    {read : Value → Except Problem α} {v : Option Value} :
    (match v with
      | none => Checked.ok fallback
      | some v => .ofReading name (read v)) = .ok a ↔ readOr fallback read v = some a := by
  cases v with
  | none => simp [readOr]
  | some v =>
    dsimp only
    rw [Checked.ofReading_eq_ok, readOr]
    cases read v <;> simp [Except.toOption]

theorem Supply.field_eq_ok {α : Type} {s : Supply} {name : String} {fallback a : α}
    {read : Value → Except Problem α} :
    s.field name fallback read = .ok a ↔ readOr fallback read (s.value? name) = some a :=
  ofSupplied_eq_ok

/-! ### The fields of the groups -/

namespace LoggingSettings

/-- What a field of the group is read as. -/
def reading (v : Option Value) : String → Option Value
  | "level" => (readOr .info LevelName.read v).map (.str ·.text)
  | "format" => (readOr .json FormatName.read v).map (.str ·.name)
  | _ => none

theorem lookup_dump_build {env : Environment} {inputs : Inputs} {g : LoggingSettings}
    (h : build env inputs = .ok g) {name : String} (hname : name ∈ names) :
    g.dump.lookup name = reading ((Supply.of names "LOG_" env inputs).value? name) name := by
  simp only [build, Checked.plus_eq_ok, Checked.ap_eq_ok, Supply.field_eq_ok] at h
  obtain ⟨⟨_, format, ⟨_, level, hmk, hlevel, rfl⟩, hformat, rfl⟩, -⟩ := h
  cases hmk
  -- Each name is looked up on its own: what it reads is what the builder read for it.
  simp only [names, List.mem_cons, List.not_mem_nil, or_false] at hname
  rcases hname with rfl | rfl
  · rw [reading, hlevel]
    rfl
  · rw [reading, hformat]
    rfl

end LoggingSettings

namespace TelemetrySettings

/-- What a field of the group is read as. -/
def reading (v : Option Value) : String → Option Value
  | "sdk_disabled" => (readOr false readBool v).map .bool
  | "service_name" => (readOr defaultServiceName readText v).map .str
  | "exporter_otlp_endpoint" =>
    (readOr none readEndpoint v).map fun e => (e.map Value.str).getD .null
  | "traces_exporter" | "logs_exporter" | "metrics_exporter" =>
    (readOr .otlp ExporterName.read v).map (.str ·.text)
  | "instrumentation_genai_capture_message_content" => (readOr false readBool v).map .bool
  | _ => none

theorem lookup_dump_build {env : Environment} {inputs : Inputs} {g : TelemetrySettings}
    (h : build env inputs = .ok g) {name : String} (hname : name ∈ names) :
    g.dump.lookup name = reading ((Supply.of names "OTEL_" env inputs).value? name) name := by
  simp only [build, Checked.plus_eq_ok, Checked.ap_eq_ok, Supply.field_eq_ok] at h
  obtain ⟨⟨_, capture, ⟨_, metrics, ⟨_, logs, ⟨_, traces, ⟨_, endpoint, ⟨_, service,
    ⟨_, disabled, hmk, hdisabled, rfl⟩, hservice, rfl⟩, hendpoint, rfl⟩, htraces, rfl⟩, hlogs, rfl⟩,
    hmetrics, rfl⟩, hcapture, rfl⟩, -⟩ := h
  cases hmk
  simp only [names, List.mem_cons, List.not_mem_nil, or_false] at hname
  rcases hname with rfl | rfl | rfl | rfl | rfl | rfl | rfl
  · rw [reading, hdisabled]
    rfl
  · rw [reading, hservice]
    rfl
  · rw [reading, hendpoint]
    cases endpoint <;> rfl
  · rw [reading, htraces]
    rfl
  · rw [reading, hlogs]
    rfl
  · rw [reading, hmetrics]
    rfl
  · rw [reading, hcapture]
    rfl

end TelemetrySettings

namespace MockServerSettings

/-- What a field of the group is read as. -/
def reading (v : Option Value) : String → Option Value
  | "host" => (readOr "127.0.0.1" readText v).map .str
  | "port" => (readOr 8080 readPort v).map .int
  | "model" => (readOr "gpt-4o-mini" readText v).map .str
  | "response_id" => (readOr "chatcmpl-1234" readText v).map .str
  | "response_created" => (readOr 1677652281 readInt v).map .int
  | "response_content" =>
    (readOr "This is a mock response from the server." readText v).map .str
  | "prompt_tokens" => (readOr 5 readInt v).map .int
  | "completion_tokens" => (readOr 7 readInt v).map .int
  | _ => none

theorem lookup_dump_build {env : Environment} {inputs : Inputs} {g : MockServerSettings}
    (h : build env inputs = .ok g) {name : String} (hname : name ∈ names) :
    g.dump.lookup name
      = reading ((Supply.of names "MOCK_OPENAI_" env inputs).value? name) name := by
  simp only [build, Checked.plus_eq_ok, Checked.ap_eq_ok, Supply.field_eq_ok] at h
  obtain ⟨⟨_, completion, ⟨_, prompt, ⟨_, content, ⟨_, created, ⟨_, id, ⟨_, model, ⟨_, port,
    ⟨_, host, hmk, hhost, rfl⟩, hport, rfl⟩, hmodel, rfl⟩, hid, rfl⟩, hcreated, rfl⟩, hcontent, rfl⟩,
    hprompt, rfl⟩, hcompletion, rfl⟩, -⟩ := h
  cases hmk
  simp only [names, List.mem_cons, List.not_mem_nil, or_false] at hname
  rcases hname with rfl | rfl | rfl | rfl | rfl | rfl | rfl | rfl
  · rw [reading, hhost]
    rfl
  · rw [reading, hport]
    rfl
  · rw [reading, hmodel]
    rfl
  · rw [reading, hid]
    rfl
  · rw [reading, hcreated]
    rfl
  · rw [reading, hcontent]
    rfl
  · rw [reading, hprompt]
    rfl
  · rw [reading, hcompletion]
    rfl

end MockServerSettings

/-! ### All settings -/

namespace GroupName

/-- The names of the fields of a group. -/
def fieldNames : GroupName → List String
  | .logging => LoggingSettings.names
  | .telemetry => TelemetrySettings.names
  | .mockServer => MockServerSettings.names
  | .app => ["app_name", "app_version", "app_env"]

/-- What stands in front of the name of a field in the name of its variable. -/
def leader : GroupName → String
  | .logging => "LOG_"
  | .telemetry => "OTEL_"
  | .mockServer => "MOCK_OPENAI_"
  | .app => ""

/-- The name of a group as a field of all settings; its variable holds JSON. -/
def fieldName? : GroupName → Option String
  | .logging => some "logging"
  | .telemetry => some "telemetry"
  | .mockServer => some "mock_server"
  | .app => none

/-- The dictionary of a group in a source. -/
def valueIn (g : GroupName) (s : TextSource) : Option Value :=
  g.fieldName?.bind fun field => (s.group g.fieldNames field).toOption.join

end GroupName

/-- The dictionary of a group: that of the environment on top of that of the `.env` file. -/
def groupValue (env : Environment) (as : List Dotenv.Assignment) (g : GroupName) : Option Value :=
  mergeValue (g.valueIn (dotenvSource as)) (g.valueIn (environmentSource env))

/-- The arguments that a dictionary gives. -/
def entryInputs : Option Value → Inputs
  | some (.dict es) => inputsOf es
  | _ => []

/-- **What is supplied for a field.** In a group the dictionary of the group comes first and the
variable of the field second. Outside the groups it is the variable of the field, and what the
`.env` file in the working folder says comes last. -/
def supplied (env : Environment) (as : List Dotenv.Assignment) (g : GroupName) (name : String) :
    Option Value :=
  match g with
  | .app => (env.folded? name <|> (dotenvSource as).lookup name).map fun (text : String) => .str text
  | g => (Supply.of g.fieldNames g.leader env (entryInputs (groupValue env as g))).value? name

/-- What a field of a group is read as. -/
def GroupName.reading (g : GroupName) (v : Option Value) (name : String) : Option Value :=
  match g with
  | .logging => LoggingSettings.reading v name
  | .telemetry => TelemetrySettings.reading v name
  | .mockServer => MockServerSettings.reading v name
  | .app =>
    match name with
    | "app_name" => (readOr "genaiprobe" readText v).map fun (text : String) => .str text
    | "app_version" => (readOr "0.1.0" readText v).map fun (text : String) => .str text
    | "app_env" => (readOr .development Stage.read v).map fun stage => .str stage.text
    | _ => none

/-- The value of a field. -/
def AppSettings.value? (s : AppSettings) (g : GroupName) (name : String) : Option Value :=
  match g with
  | .logging => s.logging.dump.lookup name
  | .telemetry => s.telemetry.dump.lookup name
  | .mockServer => s.mockServer.dump.lookup name
  | .app => s.dump.lookup name

/-- A group is built from its dictionary, if it has one. -/
theorem groupOf_eq_ok {α : Type} {title name : String} {build : Inputs → Checked α}
    {v : Option Value} {c : Checked α} {x : α} (h : groupOf title name build v = .ok c)
    (hc : c = .ok x) : build (entryInputs v) = .ok x := by
  cases v with
  | none =>
    -- A group that no source mentions is built alone, before all others.
    obtain ⟨y, hy, rfl⟩ := Outcome.map_eq_ok.mp h
    cases hc
    exact Checked.get_eq_ok.mp hy
  | some v =>
    cases h
    cases v with
    | dict es => exact Checked.below_eq_ok.mp hc
    -- What is no dictionary is a fault of the group.
    | _ => cases hc

theorem valueIn_of_groups {s : TextSource} {gs : GroupValues} (h : s.groups = .ok gs) :
    gs.logging = GroupName.logging.valueIn s ∧ gs.telemetry = GroupName.telemetry.valueIn s
      ∧ gs.mockServer = GroupName.mockServer.valueIn s := by
  rw [TextSource.groups] at h
  obtain ⟨logging, hlogging, h⟩ := Outcome.bind_eq_ok.mp h
  obtain ⟨telemetry, htelemetry, h⟩ := Outcome.bind_eq_ok.mp h
  obtain ⟨mockServer, hmockServer, h⟩ := Outcome.bind_eq_ok.mp h
  cases h
  simp [GroupName.valueIn, GroupName.fieldName?, GroupName.fieldNames, hlogging, htelemetry,
    hmockServer, Except.toOption]

theorem mergeValue_none (low : Option Value) : mergeValue low none = low := by
  rcases low with _ | v
  · rfl
  · cases v <;> rfl

/-- What all settings are made of. -/
theorem AppSettings.build_eq_ok {env : Environment} {as : List Dotenv.Assignment} {s : AppSettings}
    (h : AppSettings.build env as [] = .ok s) :
    LoggingSettings.build env (entryInputs (groupValue env as .logging)) = .ok s.logging
      ∧ TelemetrySettings.build env (entryInputs (groupValue env as .telemetry)) = .ok s.telemetry
      ∧ MockServerSettings.build env (entryInputs (groupValue env as .mockServer))
          = .ok s.mockServer
      ∧ readOr "genaiprobe" readText (supplied env as .app "app_name") = some s.name
      ∧ readOr "0.1.0" readText (supplied env as .app "app_version") = some s.version
      ∧ readOr .development Stage.read (supplied env as .app "app_env") = some s.stage := by
  rw [build] at h
  dsimp only at h
  obtain ⟨outer, houter, h⟩ := Outcome.bind_eq_ok.mp h
  obtain ⟨inner, hinner, h⟩ := Outcome.bind_eq_ok.mp h
  obtain ⟨logging, hlogging, h⟩ := Outcome.bind_eq_ok.mp h
  obtain ⟨telemetry, htelemetry, h⟩ := Outcome.bind_eq_ok.mp h
  obtain ⟨mockServer, hmockServer, h⟩ := Outcome.bind_eq_ok.mp h
  -- The checks were collected from the first field to the last, so they come off in reverse.
  simp only [Checked.get_eq_ok, Checked.ap_eq_ok] at h
  obtain ⟨_, mockServer', ⟨_, telemetry', ⟨_, logging', ⟨_, stage, ⟨_, version, ⟨_, name, hmk,
    hname, rfl⟩, hversion, rfl⟩, hstage, rfl⟩, hlogging', rfl⟩, htelemetry', rfl⟩, hmockServer',
    rfl⟩ := h
  cases hmk
  obtain ⟨hlogging₁, htelemetry₁, hmockServer₁⟩ := valueIn_of_groups houter
  obtain ⟨hlogging₂, htelemetry₂, hmockServer₂⟩ := valueIn_of_groups hinner
  rw [hlogging₁, hlogging₂] at hlogging
  rw [htelemetry₁, htelemetry₂] at htelemetry
  rw [hmockServer₁, hmockServer₂] at hmockServer
  -- Nothing was given by argument, which would have come on top of both sources.
  have hnothing : ∀ field, List.lookup field (normalized names []) = none := fun _ => rfl
  rw [hnothing, mergeValue_none] at hlogging htelemetry hmockServer
  exact ⟨groupOf_eq_ok hlogging hlogging', groupOf_eq_ok htelemetry htelemetry',
    groupOf_eq_ok hmockServer hmockServer', ofSupplied_eq_ok.mp hname, ofSupplied_eq_ok.mp hversion,
    ofSupplied_eq_ok.mp hstage⟩

/-- **Where values come from.** Every field of settings that were built has as its value the reading
of what is supplied for it. -/
theorem AppSettings.value?_build {env : Environment} {as : List Dotenv.Assignment} {s : AppSettings}
    (h : AppSettings.build env as [] = .ok s) {g : GroupName} {name : String}
    (hname : name ∈ g.fieldNames) :
    s.value? g name = g.reading (supplied env as g name) name := by
  obtain ⟨hlogging, htelemetry, hmockServer, happName, hversion, hstage⟩ := build_eq_ok h
  cases g with
  | logging => exact LoggingSettings.lookup_dump_build hlogging hname
  | telemetry => exact TelemetrySettings.lookup_dump_build htelemetry hname
  | mockServer => exact MockServerSettings.lookup_dump_build hmockServer hname
  -- The outermost fields have no group of their own and are looked up directly.
  | app =>
    simp only [GroupName.fieldNames, List.mem_cons, List.not_mem_nil, or_false] at hname
    rcases hname with rfl | rfl | rfl
    · rw [GroupName.reading, happName]
      rfl
    · rw [GroupName.reading, hversion]
      rfl
    · rw [GroupName.reading, hstage]
      rfl

end Settings
end ChatProbe

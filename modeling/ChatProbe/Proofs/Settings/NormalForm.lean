import ChatProbe.Proofs.Settings.Sources
import ChatProbe.Proofs.Table
/-!
# Settings in normal form

A group that is built is in normal form, wherever its values came from: names are among the known ones in
the known letter case, an endpoint begins with one of two schemes, a port is within its range. And a group
in normal form is built from its own dump, whatever the environment holds, since arguments come before
variables and every reader takes what is in normal form as it is.

For each group these are two lemmas, `normal_of_build` and `build_dump`. Together they say that nothing
is left to be done to a group once it was built (`build_settled`).
-/

namespace ChatProbe
namespace Settings

/-! ### Dumps as arguments -/

section Arguments

variable {names : List String} {inputs : Inputs} {name : String} {v : Value}

/-- Arguments under known names, each of them once, are in order already. -/
theorem normalized_eq_self (hknown : ∀ i ∈ inputs, knownName? names i.1 = some i.1)
    (hnodup : (inputs.map (·.1)).Nodup) : normalized names inputs = inputs := by
  suffices h : ∀ before : Inputs, ((before ++ inputs).map (·.1)).Nodup →
      inputs.foldl (fun acc i => Table.write ((knownName? names i.1).getD i.1) i.2 acc) before
        = before ++ inputs from h [] hnodup
  clear hnodup
  induction inputs with
  | nil => exact fun before _ => (List.append_nil before).symm
  | cons i is ih =>
    obtain ⟨hi, his⟩ := List.forall_mem_cons.mp hknown
    intro before hnodup
    -- The next name is none of those before it, so it is put behind them.
    have hnew : i.1 ∉ before.map (·.1) := by
      rw [List.map_append, List.nodup_append] at hnodup
      exact fun hmem => hnodup.2.2 _ hmem _ (List.mem_cons_self ..) rfl
    have hmoved : before ++ i :: is = before ++ [i] ++ is := by rw [List.append_assoc]; rfl
    rw [List.foldl_cons, hi, Option.getD_some, Table.write_of_not_mem hnew, hmoved]
    rw [hmoved] at hnodup
    exact ih his _ hnodup

/-- A **dump** is a list of arguments that has exactly the field names, in their order. -/
structure IsDump (names : List String) (dump : Inputs) : Prop where
  keys : dump.map (·.1) = names
  known : ∀ name ∈ names, knownName? names name = some name
  nodup : names.Nodup

namespace IsDump

variable {dump : Inputs} (hdump : IsDump names dump) (leader : String) (env : Environment)
include hdump

theorem mem_names {i : String × Value} (hi : i ∈ dump) : i.1 ∈ names := by
  rw [← hdump.keys]
  exact List.mem_map_of_mem hi

theorem normalized_eq : normalized names dump = dump := by
  refine normalized_eq_self (fun i hi => hdump.known _ (hdump.mem_names hi)) ?_
  rw [hdump.keys]
  exact hdump.nodup

/-- A dump has no unknown names. -/
theorem unknown_eq : (Supply.of names leader env dump).unknown names = [] := by
  rw [Supply.unknown, Supply.of, hdump.normalized_eq, List.map_eq_nil_iff, List.filter_eq_nil_iff]
  intro i hi hunknown
  rw [List.contains_iff_mem.mpr (hdump.mem_names hi)] at hunknown
  cases hunknown

/-- **The environment does not matter** to a field that the dump has. -/
theorem field_eq {α : Type} {read : Value → Except Problem α} {fallback a : α}
    (hlookup : dump.lookup name = some v) (hread : read v = .ok a) :
    (Supply.of names leader env dump).field name fallback read = .ok a := by
  have hvalue : (Supply.of names leader env dump).value? name = some v := by
    rw [Supply.value?, Supply.of, hdump.normalized_eq, hlookup]
    rfl
  rw [Supply.field_eq_ok, hvalue, readOr, hread]
  rfl

end IsDump

end Arguments

/-! ### Readers -/

/-- A result that was read, or the default, has what all results and the default have. -/
theorem of_readOr {α : Type} {P : α → Prop} {read : Value → Except Problem α} {fallback a : α}
    {v : Option Value} (h : readOr fallback read v = some a) (hfallback : P fallback)
    (hread : ∀ v a, read v = .ok a → P a) : P a := by
  cases v with
  | none =>
    cases h
    -- What no source gives is the fallback, which was never read.
    exact hfallback
  | some v =>
    refine hread v a ?_
    rw [readOr] at h
    cases hv : read v with
    | error e =>
      rw [hv] at h
      cases h
    | ok b =>
      rw [hv] at h
      cases h
      rfl

/-- What is a text, an integer or a Boolean is read as it is. -/
theorem readText_str (s : String) : readText (.str s) = .ok s := rfl

theorem readInt_int (i : Int) : readInt (.int i) = .ok i := rfl

theorem readBool_bool (b : Bool) : readBool (.bool b) = .ok b := rfl

theorem LevelName.text_mem (n : LevelName) :
    n.text ∈ ["DEBUG", "INFO", "WARNING", "ERROR", "CRITICAL"] := by
  cases n <;> decide

theorem FormatName.name_mem (n : FormatName) : n.name ∈ ["json", "text"] := by
  cases n <;> decide

theorem ExporterName.text_mem (n : ExporterName) : n.text ∈ ["otlp", "console", "none"] := by
  cases n <;> decide

/-- The normal form of a name is read as this name. -/
theorem LevelName.read_text (n : LevelName) : LevelName.read (.str n.text) = .ok n := by
  cases n <;> rfl

theorem FormatName.read_name (n : FormatName) : FormatName.read (.str n.name) = .ok n := by
  cases n <;> rfl

theorem ExporterName.read_text (n : ExporterName) : ExporterName.read (.str n.text) = .ok n := by
  cases n <;> rfl

/-- What the address of an endpoint may begin with. -/
def schemes : List String := ["http://", "https://"]

/-- An address that begins with one of the schemes. -/
def HasScheme (address : String) : Prop := ∃ scheme ∈ schemes, scheme.toList <+: address.toList

instance (address : String) : Decidable (HasScheme address) :=
  inferInstanceAs (Decidable (∃ scheme ∈ schemes, scheme.toList <+: address.toList))

theorem hasScheme_iff {address : String} :
    HasScheme address ↔ (address.startsWith "http://" || address.startsWith "https://") = true := by
  rw [HasScheme, schemes, Bool.or_eq_true, String.startsWith_string_iff, String.startsWith_string_iff]
  simp only [List.mem_cons, List.not_mem_nil, or_false, exists_eq_or_imp, exists_eq_left]

theorem HasScheme.isEmpty_eq_false {address : String} (h : HasScheme address) :
    address.isEmpty = false := by
  refine Bool.eq_false_iff.mpr fun hempty => ?_
  rw [String.isEmpty_iff.mp hempty] at h
  exact absurd h (by decide)

namespace TelemetrySettings

theorem readEndpoint_eq_ok {v : Value} {endpoint : Option String}
    (h : readEndpoint v = .ok endpoint) : ∀ e ∈ endpoint, HasScheme e := by
  rintro e rfl
  rw [readEndpoint.eq_def] at h
  split at h
  · cases h
  -- Of the texts only the empty one and those with a scheme are accepted.
  · obtain ⟨s, -, h⟩ := Outcome.bind_eq_ok.mp h
    split at h
    · cases h
    · split at h
      · next hscheme =>
        cases h
        exact hasScheme_iff.mpr hscheme
      · cases h

theorem readEndpoint_of_hasScheme {e : String} (h : HasScheme e) :
    readEndpoint (.str e) = .ok (some e) := by
  show (if e.isEmpty = true then _ else _) = _
  rw [h.isEmpty_eq_false, if_neg Bool.false_ne_true]
  exact if_pos (hasScheme_iff.mp h)

end TelemetrySettings

theorem MockServerSettings.readPort_eq_ok {v : Value} {p : Int} (h : readPort v = .ok p) :
    1 ≤ p ∧ p ≤ 65535 := by
  rw [readPort] at h
  obtain ⟨p', -, h⟩ := Outcome.bind_eq_ok.mp h
  split at h
  · next hrange =>
    cases h
    exact hrange
  · cases h

theorem MockServerSettings.readPort_of_range {p : Int} (h : 1 ≤ p ∧ p ≤ 65535) :
    readPort (.int p) = .ok p := by
  show (if 1 ≤ p ∧ p ≤ 65535 then _ else _) = _
  rw [if_pos h]
  rfl

/-! ### The groups -/

/-- The names in the settings of the log are known ones, in their letter case. -/
structure LoggingSettings.Normal (g : LoggingSettings) : Prop where
  level : g.level.text ∈ ["DEBUG", "INFO", "WARNING", "ERROR", "CRITICAL"]
  format : g.format.name ∈ ["json", "text"]

/-- The exporters are known ones, in lower case, and an endpoint has a scheme. -/
structure TelemetrySettings.Normal (g : TelemetrySettings) : Prop where
  exporters : ∀ signal, (g.exporterOf signal).text ∈ ["otlp", "console", "none"]
  endpoint : g.endpoint = none ∨ ∃ e, g.endpoint = some e ∧ HasScheme e

/-- The port is one. -/
structure MockServerSettings.Normal (g : MockServerSettings) : Prop where
  port : 1 ≤ g.port ∧ g.port ≤ 65535

namespace LoggingSettings

variable {g : LoggingSettings}

theorem isDump (g : LoggingSettings) : IsDump names g.dump := ⟨rfl, by decide +kernel, by decide⟩

/-- A level and a format have no other form than the normal one. -/
theorem normal (g : LoggingSettings) : g.Normal := ⟨g.level.text_mem, g.format.name_mem⟩

/-- **The log.** Its settings are built from their own dump. -/
theorem build_dump (g : LoggingSettings) (env : Environment) : build env g.dump = .ok g := by
  have hdump := g.isDump
  -- Each field reads its own dumped value back, whatever the environment says, and no name is left over.
  rw [build, hdump.field_eq "LOG_" env rfl g.level.read_text,
    hdump.field_eq "LOG_" env rfl g.format.read_name, hdump.unknown_eq]
  rfl

end LoggingSettings

namespace TelemetrySettings

variable {g : TelemetrySettings}

theorem isDump (g : TelemetrySettings) : IsDump names g.dump := ⟨rfl, by decide +kernel, by decide⟩

theorem normal_of_build {env : Environment} {inputs : Inputs} (h : build env inputs = .ok g) :
    g.Normal := by
  simp only [build, Checked.plus_eq_ok, Checked.ap_eq_ok, Supply.field_eq_ok] at h
  obtain ⟨⟨_, capture, ⟨_, metrics, ⟨_, logs, ⟨_, traces, ⟨_, endpoint, ⟨_, service,
    ⟨_, disabled, hmk, -, rfl⟩, -, rfl⟩, hendpoint, rfl⟩, -, rfl⟩, -, rfl⟩, -, rfl⟩, -, rfl⟩, -⟩ := h
  cases hmk
  refine ⟨fun signal => ExporterName.text_mem _, ?_⟩
  have hscheme : ∀ e ∈ endpoint, HasScheme e :=
    of_readOr (P := fun endpoint => ∀ e ∈ endpoint, HasScheme e) hendpoint (fun e he => (by cases he))
      fun _ _ => readEndpoint_eq_ok
  cases endpoint with
  | none => exact .inl rfl
  | some e => exact .inr ⟨e, rfl, hscheme e rfl⟩

/-- **Telemetry.** Settings in normal form are built from their own dump. -/
theorem build_dump (h : g.Normal) (env : Environment) : build env g.dump = .ok g := by
  have hdump := g.isDump
  obtain ⟨v, hlookup, hendpoint⟩ :
      ∃ v, g.dump.lookup "exporter_otlp_endpoint" = some v ∧ readEndpoint v = .ok g.endpoint := by
    rcases h.endpoint with hnone | ⟨e, hsome, hscheme⟩
    · rw [dump, hnone]
      exact ⟨.null, rfl, rfl⟩
    · rw [dump, hsome]
      exact ⟨.str e, rfl, readEndpoint_of_hasScheme hscheme⟩
  rw [build, hdump.field_eq "OTEL_" env rfl (readBool_bool g.sdkDisabled),
    hdump.field_eq "OTEL_" env rfl (readText_str g.serviceName),
    hdump.field_eq "OTEL_" env hlookup hendpoint,
    hdump.field_eq "OTEL_" env rfl g.tracesExporter.read_text,
    hdump.field_eq "OTEL_" env rfl g.logsExporter.read_text,
    hdump.field_eq "OTEL_" env rfl g.metricsExporter.read_text,
    hdump.field_eq "OTEL_" env rfl (readBool_bool g.captureContent),
    hdump.unknown_eq]
  rfl

end TelemetrySettings

namespace MockServerSettings

variable {g : MockServerSettings}

theorem isDump (g : MockServerSettings) : IsDump names g.dump := ⟨rfl, by decide +kernel, by decide⟩

theorem normal_of_build {env : Environment} {inputs : Inputs} (h : build env inputs = .ok g) :
    g.Normal := by
  simp only [build, Checked.plus_eq_ok, Checked.ap_eq_ok, Supply.field_eq_ok] at h
  obtain ⟨⟨_, completion, ⟨_, prompt, ⟨_, content, ⟨_, created, ⟨_, id, ⟨_, model, ⟨_, port,
    ⟨_, host, hmk, -, rfl⟩, hport, rfl⟩, -, rfl⟩, -, rfl⟩, -, rfl⟩, -, rfl⟩, -, rfl⟩, -, rfl⟩, -⟩ := h
  cases hmk
  exact ⟨of_readOr (P := fun p => 1 ≤ p ∧ p ≤ 65535) hport (by decide) fun _ _ => readPort_eq_ok⟩

/-- **The mock server.** Settings in normal form are built from their own dump. -/
theorem build_dump (h : g.Normal) (env : Environment) : build env g.dump = .ok g := by
  have hdump := g.isDump
  rw [build, hdump.field_eq "MOCK_OPENAI_" env rfl (readText_str g.host),
    hdump.field_eq "MOCK_OPENAI_" env rfl (readPort_of_range h.port),
    hdump.field_eq "MOCK_OPENAI_" env rfl (readText_str g.model),
    hdump.field_eq "MOCK_OPENAI_" env rfl (readText_str g.responseId),
    hdump.field_eq "MOCK_OPENAI_" env rfl (readInt_int g.responseCreated),
    hdump.field_eq "MOCK_OPENAI_" env rfl (readText_str g.responseContent),
    hdump.field_eq "MOCK_OPENAI_" env rfl (readInt_int g.promptTokens),
    hdump.field_eq "MOCK_OPENAI_" env rfl (readInt_int g.completionTokens),
    hdump.unknown_eq]
  rfl

end MockServerSettings

/-- What comes out of a builder is normal, and what is normal is built from its dump: so the two are the
same, and what is built once is built from its dump everywhere. -/
theorem settled_of {α : Type} {build : Environment → Inputs → Checked α} {dump : α → Inputs}
    {Normal : α → Prop} (hnormal : ∀ g env inputs, build env inputs = .ok g → Normal g)
    (hdump : ∀ g, Normal g → ∀ env, build env (dump g) = .ok g) (g : α) :
    ((∃ env inputs, build env inputs = .ok g) ↔ Normal g)
      ∧ (Normal g ↔ ∀ env, build env (dump g) = .ok g) := by
  have hbuilt : (∃ env inputs, build env inputs = .ok g) → Normal g :=
    fun ⟨env, inputs, h⟩ => hnormal g env inputs h
  exact ⟨⟨hbuilt, fun h => ⟨.empty, dump g, hdump g h .empty⟩⟩,
    hdump g, fun h => hbuilt ⟨.empty, dump g, h .empty⟩⟩

/-- **Accepted settings are in normal form.** Take the settings of the log, of telemetry or of the mock
server. They are built from some environment and some arguments just in case they are in normal form; and
this is so just in case they are built from their own dump, in every environment whatever it holds. -/
theorem build_settled :
    (∀ g : LoggingSettings,
        ((∃ env inputs, LoggingSettings.build env inputs = .ok g) ↔ g.Normal)
          ∧ (g.Normal ↔ ∀ env, LoggingSettings.build env g.dump = .ok g))
      ∧ (∀ g : TelemetrySettings,
        ((∃ env inputs, TelemetrySettings.build env inputs = .ok g) ↔ g.Normal)
          ∧ (g.Normal ↔ ∀ env, TelemetrySettings.build env g.dump = .ok g))
      ∧ ∀ g : MockServerSettings,
        ((∃ env inputs, MockServerSettings.build env inputs = .ok g) ↔ g.Normal)
          ∧ (g.Normal ↔ ∀ env, MockServerSettings.build env g.dump = .ok g) :=
  ⟨settled_of (fun g _ _ _ => g.normal) fun g _ => g.build_dump,
    settled_of (fun _ _ _ => TelemetrySettings.normal_of_build) fun _ => TelemetrySettings.build_dump,
    settled_of (fun _ _ _ => MockServerSettings.normal_of_build) fun _ => MockServerSettings.build_dump⟩

end Settings
end ChatProbe

import ChatProbe.Proofs.Telemetry.Selection
/-!
# Two ways to resolve an address

Settings without arguments take the common endpoint from the environment, and their exporters put the path
of a signal behind it. The environment alone gives an address to a signal as well: the one that the
signal's own variable holds, else the common endpoint with the path behind it. The two ways differ in three
points.

* The settings do not know the variables of the signals (`environmentEndpoint` does, and prefers them).
* The settings find the common endpoint in any letter case, and the last one counts
  (`endpoint_of_build`); the environment has it under its exact name only.
* The settings take all slashes off its end, the environment leaves them there and adds one if there is
  none (`environmentEndpoint_eq_iff`).

Where the settings find no endpoint, they leave the address to the environment, so there is no difference.
Otherwise the address is the same just in case the environment is known to give this very address
(`ofSettings_eq_environment_iff`).
-/

namespace ChatProbe

/-- Names that agree up to letter case mean the same variable. -/
theorem Environment.folded?_congr {name other : String} (h : Text.lower name = Text.lower other)
    (env : Environment) : env.folded? name = env.folded? other := by
  unfold folded?
  rw [h]

namespace Telemetry

open Settings (Signal TelemetrySettings)

section Resolution

variable {t : TelemetrySettings} {env : Environment} {signal : Signal} {stem : String}

/-! ### The endpoint of the settings -/

/-- What the settings hold as their endpoint is what they have read. -/
theorem readOr_endpoint_of_build {inputs : Settings.Inputs}
    (hbuild : TelemetrySettings.build env inputs = .ok t) :
    Settings.readOr none TelemetrySettings.readEndpoint
      ((Settings.Supply.of TelemetrySettings.names "OTEL_" env inputs).value? "exporter_otlp_endpoint")
        = some t.endpoint := by
  have hmem : "exporter_otlp_endpoint" ∈ TelemetrySettings.names := by decide
  have hdump := TelemetrySettings.lookup_dump_build hbuild hmem
  have hfield : t.dump.lookup "exporter_otlp_endpoint"
      = some ((t.endpoint.map Value.str).getD .null) := by
    rw [TelemetrySettings.dump]
    cases t.endpoint <;> rfl
  rw [hfield, TelemetrySettings.reading] at hdump
  obtain ⟨read, hread, hsame⟩ := Option.map_eq_some_iff.mp hdump.symm
  -- As values, endpoints are told apart: a text is one and nothing is none.
  have hinjective : Function.Injective fun e : Option String => (e.map Value.str).getD .null := by
    rintro (_ | e) (_ | e') h
    all_goals cases h
    all_goals rfl
  rw [hread, hinjective hsame]

/-- A text is read as the endpoint that it is, or as none if it is empty. -/
theorem eq_filter_of_readEndpoint {base : String} {endpoint : Option String}
    (h : TelemetrySettings.readEndpoint (.str base) = .ok endpoint) :
    endpoint = (some base).filter fun base => !base.isEmpty := by
  have hchoice : (if base.isEmpty = true then _ else _) = Except.ok endpoint := h
  rw [Option.filter_some]
  cases hempty : base.isEmpty with
  | true =>
    rw [hempty, if_pos rfl] at hchoice
    cases hchoice
    rfl
  | false =>
    rw [hempty, if_neg Bool.false_ne_true] at hchoice
    -- A text that is not empty is accepted as it is, or refused for want of a scheme.
    split at hchoice
    · cases hchoice
      rfl
    · cases hchoice

/-- **The endpoint that settings find** without arguments: the common one in any letter case, unless it is
empty. -/
theorem endpoint_of_build (hbuild : TelemetrySettings.build env [] = .ok t) :
    t.endpoint = (env.folded? endpointVariable).filter fun base => !base.isEmpty := by
  -- The variable is put together from a prefix and the name of the field.
  have hname : env.folded? ("OTEL_" ++ "exporter_otlp_endpoint") = env.folded? endpointVariable :=
    Environment.folded?_congr (by decide +kernel) env
  have hread := readOr_endpoint_of_build hbuild
  have hvalue : (Settings.Supply.of TelemetrySettings.names "OTEL_" env []).value?
      "exporter_otlp_endpoint" = (env.folded? endpointVariable).map fun base => .str base := by
    rw [← hname]
    rfl
  rw [hvalue] at hread
  cases hbase : env.folded? endpointVariable with
  | none =>
    rw [hbase] at hread
    exact (Option.some.inj hread).symm
  | some base =>
    rw [hbase, Option.map_some, Settings.readOr] at hread
    cases hok : TelemetrySettings.readEndpoint (.str base) with
    | error problem =>
      rw [hok] at hread
      cases hread
    | ok endpoint =>
      rw [hok] at hread
      rw [← Option.some.inj hread]
      exact eq_filter_of_readEndpoint hok

/-! ### The address of the environment -/

/-- The address with the path of a signal behind a stem, which does not end with a slash, is the one of the
endpoint that is this stem, with a slash or without. -/
theorem withSignalPath_eq_iff {base : String} (hstem : ∀ shorter, stem ≠ shorter ++ "/") :
    withSignalPath base signal = stem ++ "/v1/" ++ signal.name ↔ base = stem ∨ base = stem ++ "/" := by
  rw [withSignalPath, ← append_signalPath, String.append_left_inj, String.append_left_inj]
  -- One slash at the end is what the path takes the place of, and the stem has none.
  by_cases hslash : base.endsWith "/" = true
  · rw [if_pos hslash]
    refine ⟨fun h => .inr h, fun h => h.resolve_left ?_⟩
    rintro rfl
    obtain ⟨shorter, hshorter⟩ := Text.endsWith_slash_iff.mp hslash
    exact hstem shorter hshorter
  · rw [if_neg hslash, String.append_left_inj]
    refine ⟨fun h => .inl h, fun h => h.resolve_right ?_⟩
    intro hbase
    exact hslash (Text.endsWith_slash_iff.mpr ⟨stem, hbase⟩)

/-- What the environment has to hold to give the address with a stem to a signal: in the variable of the
signal this very address, or, if that is not set, the stem as the common endpoint, with a slash or
without. -/
def Holds (env : Environment) (signal : Signal) (stem : String) : Prop :=
  match env.get? (signalVariable signal) with
  | some own => own = stem ++ "/v1/" ++ signal.name
  | none =>
    (env.get? endpointVariable).getD defaultEndpoint = stem
      ∨ (env.get? endpointVariable).getD defaultEndpoint = stem ++ "/"

theorem environmentEndpoint_eq_iff (hstem : ∀ shorter, stem ≠ shorter ++ "/") :
    environmentEndpoint env signal = stem ++ "/v1/" ++ signal.name ↔ Holds env signal stem := by
  rw [environmentEndpoint, Holds]
  cases env.get? (signalVariable signal) with
  | none => exact withSignalPath_eq_iff hstem
  | some own => exact Iff.rfl

/-! ### The two ways -/

/-- **One address in two ways.** Take settings that are accepted in an environment without arguments, and a
signal that they send to an OTLP address. This address is the one that the environment alone gives to the
signal just in case the environment has no common endpoint in any letter case, or an empty one, or else
holds for the signal what is left of the common endpoint without the slashes at its end. -/
theorem ofSettings_eq_environment_iff (hbuild : TelemetrySettings.build env [] = .ok t)
    (hotlp : t.exporterOf signal = .otlp) :
    Exporter.ofSettings t env signal = some (.otlp (environmentEndpoint env signal))
      ↔ ∀ base, env.folded? endpointVariable = some base → base ≠ "" →
          Holds env signal (Text.trimRight '/' base) := by
  rw [Exporter.ofSettings_of_otlp hotlp, Option.some_inj, Exporter.otlp.injEq]
  have hfound := endpoint_of_build hbuild
  cases hendpoint : t.endpoint with
  | none =>
    -- Settings without an endpoint ask the environment themselves.
    have haddress : endpointFor t env signal = environmentEndpoint env signal := by
      rw [endpointFor, TelemetrySettings.signalEndpoint, hendpoint, Option.bind_none, Option.getD_none]
    refine iff_of_true haddress fun base hbase hne => absurd ?_ hne
    rw [hendpoint, hbase, Option.filter_some] at hfound
    cases hempty : base.isEmpty with
    | true => exact String.isEmpty_iff.mp hempty
    | false =>
      rw [hempty] at hfound
      cases hfound
  | some endpoint =>
    have hscheme := hasScheme_of_build hbuild hendpoint
    have hbase : env.folded? endpointVariable = some endpoint := by
      rw [hendpoint] at hfound
      exact (Option.filter_eq_some_iff.mp hfound.symm).1
    have hne : endpoint ≠ "" := by
      intro hempty
      have hfalse := hscheme.isEmpty_eq_false
      rw [hempty] at hfalse
      cases hfalse
    rw [endpointFor_of_endpoint hendpoint hscheme, eq_comm,
      environmentEndpoint_eq_iff (Text.trimRight_ne endpoint)]
    constructor
    · intro h base hbase' _
      rw [hbase] at hbase'
      cases hbase'
      exact h
    · intro h
      exact h endpoint hbase hne

/-- An endpoint with one slash at its end, and the variables of other signals, make no difference. -/
theorem ofSettings_eq_environment_logs :
    let env : Environment :=
      ⟨[(signalVariable .traces, "http://traces:9/spans"), (endpointVariable, "https://base:4318/")]⟩
    Exporter.ofSettings (defaultSettings (some "https://base:4318/")) env .logs
      = some (.otlp (environmentEndpoint env .logs)) := by
  intro env
  have hbuild : TelemetrySettings.build env [] = .ok (defaultSettings (some "https://base:4318/")) := by
    decide +kernel
  refine (ofSettings_eq_environment_iff hbuild rfl).mpr fun base hbase _ => ?_
  have hfolded : env.folded? endpointVariable = some "https://base:4318/" := by decide +kernel
  rw [hfolded] at hbase
  cases hbase
  exact .inr (by decide)

/-- **Two addresses.** Three environments in which settings without arguments are accepted and name the OTLP
exporter for every signal, but an exporter has another address than the environment gives to its signal. In
the first one the variable of the signal is set besides the common endpoint, in the second one the common
endpoint ends with two slashes, and in the third one its name is in lower case. -/
theorem resolved_apart :
    (let env : Environment :=
        ⟨[(endpointVariable, "http://base:4318"), (signalVariable .traces, "http://traces:4318/spans")]⟩;
      TelemetrySettings.build env [] = .ok (defaultSettings (some "http://base:4318"))
        ∧ Exporter.ofSettings (defaultSettings (some "http://base:4318")) env .traces
            = some (.otlp "http://base:4318/v1/traces")
        ∧ environmentEndpoint env .traces = "http://traces:4318/spans")
      ∧ (let env : Environment := ⟨[(endpointVariable, "http://base:4318//")]⟩;
        TelemetrySettings.build env [] = .ok (defaultSettings (some "http://base:4318//"))
          ∧ Exporter.ofSettings (defaultSettings (some "http://base:4318//")) env .logs
              = some (.otlp "http://base:4318/v1/logs")
          ∧ environmentEndpoint env .logs = "http://base:4318//v1/logs")
      ∧ (let env : Environment := ⟨[(Text.lower endpointVariable, "http://base:4318")]⟩;
        TelemetrySettings.build env [] = .ok (defaultSettings (some "http://base:4318"))
          ∧ Exporter.ofSettings (defaultSettings (some "http://base:4318")) env .metrics
              = some (.otlp "http://base:4318/v1/metrics")
          ∧ environmentEndpoint env .metrics = "http://localhost:4318/v1/metrics") := by
  refine ⟨⟨?_, ?_, ?_⟩, ⟨?_, ?_, ?_⟩, ?_, ?_, ?_⟩
  all_goals decide +kernel

end Resolution
end Telemetry
end ChatProbe

import ChatProbe.Proofs.Telemetry.Endpoints
/-!
# The choice of an exporter

For each signal the settings name an exporter, and they may name an endpoint that all signals share. With
an endpoint, nothing else takes part in the choice: neither the environment nor what is named for the other
signals, nor the slashes at the end of the endpoint (`Exporter.ofSettings_congr`).

The last of these is what needs an argument. Slashes that are put behind a text are taken off again with
those that were there (`Text.trimRight_append_slashes`), and a text is what is left of it with some slashes
behind (`Text.exists_slashes`). So two texts lose their difference by trimming just in case it lies in the
slashes at their ends (`Text.sameUpToSlashes_iff`), and since the path of the signal can be read off the
end of an address, two endpoints lead to one address just in case they differ in nothing else.

The main statement is `Exporter.ofSettings_selects`.
-/

namespace ChatProbe

/-! ### Slashes at the end of a text -/

namespace Text

/-- So many slashes. -/
def slashes (n : Nat) : String := String.ofList (List.replicate n '/')

/-- Two texts that differ in nothing but the slashes at their ends. -/
def SameUpToSlashes (s t : String) : Prop :=
  ∃ stem m n, s = stem ++ slashes m ∧ t = stem ++ slashes n

variable {s t : String}

@[simp] theorem toList_slashes (n : Nat) : (slashes n).toList = List.replicate n '/' :=
  String.toList_ofList

/-- Further slashes are trimmed with the others. -/
theorem trimRight_append_slashes (s : String) (n : Nat) :
    trimRight '/' (s ++ slashes n) = trimRight '/' s := by
  apply String.toList_inj.mp
  rw [toList_trimRight, toList_trimRight, String.toList_append, toList_slashes]
  exact rdropWhile_append_of_all fun c hc => beq_iff_eq.mpr (List.eq_of_mem_replicate hc)

/-- What was trimmed off is nothing but slashes. -/
theorem exists_slashes (s : String) : ∃ n, s = trimRight '/' s ++ slashes n := by
  -- What trimming takes away is a run of slashes.
  obtain ⟨behind, hbehind⟩ : ∃ behind, behind = s.toList.rtakeWhile (· == '/') := ⟨_, rfl⟩
  have hslash : ∀ c ∈ behind, c = '/' := by
    intro c hc
    rw [hbehind] at hc
    have hpassed : (c == '/') = true := List.mem_rtakeWhile_imp (p := (· == '/')) hc
    exact beq_iff_eq.mp hpassed
  refine ⟨behind.length, ?_⟩
  apply String.toList_inj.mp
  calc s.toList
      = s.toList.rdropWhile (· == '/') ++ behind := by
        rw [hbehind, List.rdropWhile_append_rtakeWhile]
    _ = s.toList.rdropWhile (· == '/') ++ List.replicate behind.length '/' := by
        rw [← List.eq_replicate_length.mpr hslash]
    _ = (trimRight '/' s ++ slashes behind.length).toList := by
        rw [String.toList_append, toList_trimRight, toList_slashes]

/-- **Up to slashes** two texts are the same if trimming makes them the same. -/
theorem sameUpToSlashes_iff : SameUpToSlashes s t ↔ trimRight '/' s = trimRight '/' t := by
  constructor
  · rintro ⟨stem, m, n, rfl, rfl⟩
    rw [trimRight_append_slashes, trimRight_append_slashes]
  · intro h
    obtain ⟨m, hm⟩ := exists_slashes s
    obtain ⟨n, hn⟩ := exists_slashes t
    rw [← h] at hn
    exact ⟨trimRight '/' s, m, n, hm, hn⟩

end Text

namespace Telemetry

open Settings (Signal TelemetrySettings HasScheme)
open Text (slashes SameUpToSlashes)

section Settings

variable {t t' : TelemetrySettings} {env env' : Environment} {signal : Signal}
  {endpoint endpoint' : String}

/-! ### Addresses from an endpoint -/

/-- An endpoint of accepted settings begins with a scheme. -/
theorem hasScheme_of_build {inputs : Settings.Inputs} (hbuild : TelemetrySettings.build env inputs = .ok t)
    (hendpoint : t.endpoint = some endpoint) : HasScheme endpoint := by
  rcases (TelemetrySettings.normal_of_build hbuild).endpoint with hnone | ⟨e, hsome, hscheme⟩
  · rw [hendpoint] at hnone
    cases hnone
  · rw [hendpoint] at hsome
    cases hsome
    exact hscheme

/-- **With an endpoint** the address of a signal is what is left of it and the path of the signal. -/
theorem endpointFor_of_endpoint (hendpoint : t.endpoint = some endpoint) (hscheme : HasScheme endpoint)
    (env : Environment) (signal : Signal) :
    endpointFor t env signal = Text.trimRight '/' endpoint ++ "/v1/" ++ signal.name := by
  rw [endpointFor, TelemetrySettings.signalEndpoint, hendpoint, Option.bind_some,
    hscheme.isEmpty_eq_false, if_neg Bool.false_ne_true, Option.getD_some]

/-- Endpoints that are the same up to slashes lead to the same addresses, and no others do. -/
theorem endpointFor_eq_iff (hendpoint : t.endpoint = some endpoint) (hscheme : HasScheme endpoint)
    (hendpoint' : t'.endpoint = some endpoint') (hscheme' : HasScheme endpoint') :
    endpointFor t' env' signal = endpointFor t env signal ↔ SameUpToSlashes endpoint endpoint' := by
  rw [endpointFor_of_endpoint hendpoint hscheme, endpointFor_of_endpoint hendpoint' hscheme',
    Text.sameUpToSlashes_iff]
  -- Both addresses end with the same path, which can be taken off.
  constructor
  · intro haddress
    have hstem := (String.append_left_inj _).mp ((String.append_left_inj _).mp haddress)
    exact hstem.symm
  · intro hstem
    rw [hstem]

/-- Further slashes leave a scheme in its place. -/
theorem hasScheme_append_slashes (hscheme : HasScheme endpoint) (n : Nat) :
    HasScheme (endpoint ++ slashes n) := by
  obtain ⟨scheme, hmem, hprefix⟩ := hscheme
  refine ⟨scheme, hmem, ?_⟩
  rw [String.toList_append]
  exact hprefix.trans (List.prefix_append ..)

/-- Further slashes keep settings in normal form. -/
theorem normal_append_slashes (hnormal : t.Normal) (hscheme : HasScheme endpoint) (n : Nat) :
    TelemetrySettings.Normal { t with endpoint := some (endpoint ++ slashes n) } where
  exporters := fun signal => hnormal.exporters signal
  endpoint := .inr ⟨endpoint ++ slashes n, rfl, hasScheme_append_slashes hscheme n⟩

/-! ### The choice -/

namespace Exporter

theorem ofSettings_eq_none_iff : ofSettings t env signal = none ↔ t.exporterOf signal = .nowhere := by
  unfold ofSettings
  cases t.exporterOf signal <;> simp

theorem ofSettings_eq_console_iff :
    ofSettings t env signal = some .console ↔ t.exporterOf signal = .console := by
  unfold ofSettings
  cases t.exporterOf signal <;> simp

theorem ofSettings_of_otlp (hotlp : t.exporterOf signal = .otlp) :
    ofSettings t env signal = some (.otlp (endpointFor t env signal)) := by
  rw [ofSettings, hotlp]

/-- **Nothing else takes part.** The choice for a signal is a matter of what the settings name for it and of
the address of the signal. -/
theorem ofSettings_congr (hname : t'.exporterOf signal = t.exporterOf signal)
    (haddress : endpointFor t' env' signal = endpointFor t env signal) :
    ofSettings t' env' signal = ofSettings t env signal := by
  rw [ofSettings, ofSettings, hname, haddress]

/-- **The choice for a signal.** Take accepted settings with an endpoint, and any environment at the time
when the exporter is made.

* There is no exporter if the settings name none for the signal, and the console if they name the console.
* Else it is the one whose address is the endpoint without the slashes at its end, then the path of the
  signal.
* Further slashes at the end of the endpoint are accepted everywhere and lead to the same choice.
* Any accepted settings that name the same for the signal lead to the same choice, in any environment, but
  for an address whose endpoint differs in more than the slashes at its end. -/
theorem ofSettings_selects {inputs : Settings.Inputs} (hbuild : TelemetrySettings.build env inputs = .ok t)
    (hendpoint : t.endpoint = some endpoint) (signal : Signal) (ambient : Environment) :
    (ofSettings t ambient signal = none ↔ t.exporterOf signal = .nowhere)
      ∧ (ofSettings t ambient signal = some .console ↔ t.exporterOf signal = .console)
      ∧ (t.exporterOf signal = .otlp →
          ∃ stem n, endpoint = stem ++ slashes n ∧ (∀ shorter, stem ≠ shorter ++ "/")
            ∧ ofSettings t ambient signal = some (.otlp (stem ++ "/v1/" ++ signal.name)))
      ∧ (∀ n ambient',
          let longer := { t with endpoint := some (endpoint ++ slashes n) }
          TelemetrySettings.build ambient' longer.dump = .ok longer
            ∧ ofSettings longer ambient' signal = ofSettings t ambient signal)
      ∧ ∀ env' inputs' t' endpoint' ambient', TelemetrySettings.build env' inputs' = .ok t' →
          t'.endpoint = some endpoint' → t'.exporterOf signal = t.exporterOf signal →
          (ofSettings t' ambient' signal = ofSettings t ambient signal
            ↔ (t.exporterOf signal = .otlp → SameUpToSlashes endpoint endpoint')) := by
  have hscheme := hasScheme_of_build hbuild hendpoint
  have hnormal := TelemetrySettings.normal_of_build hbuild
  refine ⟨ofSettings_eq_none_iff, ofSettings_eq_console_iff, ?_, ?_, ?_⟩
  · intro hotlp
    obtain ⟨n, hn⟩ := Text.exists_slashes endpoint
    refine ⟨Text.trimRight '/' endpoint, n, hn, Text.trimRight_ne endpoint, ?_⟩
    rw [ofSettings_of_otlp hotlp, endpointFor_of_endpoint hendpoint hscheme]
  · intro n ambient' longer
    refine ⟨TelemetrySettings.build_dump (normal_append_slashes hnormal hscheme n) ambient', ?_⟩
    have hselector : longer.exporterOf signal = t.exporterOf signal := by cases signal <;> rfl
    apply ofSettings_congr hselector
    rw [endpointFor_of_endpoint hendpoint hscheme,
      endpointFor_of_endpoint rfl (hasScheme_append_slashes hscheme n), Text.trimRight_append_slashes]
  -- Two accepted endpoints lead to one address just where they are one up to slashes.
  · intro env' inputs' t' endpoint' ambient' hbuild' hendpoint' hselector
    have haddress : endpointFor t' ambient' signal = endpointFor t ambient signal
        ↔ SameUpToSlashes endpoint endpoint' :=
      endpointFor_eq_iff hendpoint hscheme hendpoint' (hasScheme_of_build hbuild' hendpoint')
    by_cases hotlp : t.exporterOf signal = .otlp
    · rw [ofSettings_of_otlp hotlp, ofSettings_of_otlp (hselector.trans hotlp), Option.some_inj,
        Exporter.otlp.injEq, haddress]
      exact ⟨fun hsame _ => hsame, fun hsame => hsame hotlp⟩
    · -- Where no address is asked for, what is named for the signal settles the choice.
      refine iff_of_true ?_ fun h => absurd h hotlp
      rw [ofSettings, ofSettings, hselector]
      cases hname : t.exporterOf signal with
      | otlp => exact absurd hname hotlp
      | console => rfl
      | nowhere => rfl

/-- Slashes at the end of an endpoint do not count, nor do the variable of the signal and the console that
the logs are sent to. -/
theorem ofSettings_selects_traces :
    let t : TelemetrySettings :=
      { defaultSettings (some "http://zipkin:9411//") with logsExporter := .console }
    let ambient : Environment := ⟨[(signalVariable .traces, "http://elsewhere/")]⟩
    ofSettings t ambient .traces
        = ofSettings (defaultSettings (some "http://zipkin:9411")) .empty .traces
      ∧ ofSettings t ambient .logs = some .console := by
  intro t ambient
  have hbuild : TelemetrySettings.build .empty t.dump = .ok t := by decide +kernel
  have hbuild' : TelemetrySettings.build .empty [("exporter_otlp_endpoint", .str "http://zipkin:9411")]
      = .ok (defaultSettings (some "http://zipkin:9411")) := by decide +kernel
  obtain ⟨-, -, -, -, hsame⟩ := ofSettings_selects hbuild rfl .traces ambient
  obtain ⟨-, hconsole, -⟩ := ofSettings_selects hbuild rfl .logs ambient
  refine ⟨?_, hconsole.mpr rfl⟩
  -- The stem that both have, with two slashes and with none.
  have hslashes : SameUpToSlashes "http://zipkin:9411//" "http://zipkin:9411" :=
    ⟨"http://zipkin:9411", 2, 0, by decide, by decide⟩
  exact ((hsame .empty _ _ _ .empty hbuild' rfl rfl).mpr fun _ => hslashes).symm

end Exporter

end Settings
end Telemetry
end ChatProbe

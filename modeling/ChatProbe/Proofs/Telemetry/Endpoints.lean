import Mathlib.Data.List.DropRight
import ChatProbe.Proofs.Settings.NormalForm
import ChatProbe.Telemetry.Exporter
/-!
# Endpoints of exporters

The path of a signal is put behind an endpoint in two ways. An endpoint from the settings loses the slashes
at its end first (`signalEndpoint_eq`); one from the environment is completed by a slash if it has none
there (`withSignalPath_eq`). In both ways the result is a stem with the path of the signal behind it.

Whether it still begins with a scheme is another matter. The path cannot make up for a scheme
(`hasScheme_path`), so the scheme has to be in the stem. It is not where the slashes that were taken off
are those of the scheme (`hasScheme_trimRight`), nor where settings without an endpoint leave the choice to
the environment and this holds some other text. There is no third case (`hasScheme_endpoint_iff`).
-/

namespace ChatProbe

/-! ### Ends of texts -/

namespace Text

theorem endsWith_slash_iff {s : String} : s.endsWith "/" = true ↔ ∃ stem, s = stem ++ "/" := by
  rw [String.endsWith_eq_endsWith_toSlice, String.Slice.endsWith_string_iff, String.copy_toSlice]
  constructor
  · rintro ⟨cs, hcs⟩
    refine ⟨String.ofList cs, String.toList_inj.mp ?_⟩
    rw [String.toList_append, String.toList_ofList]
    exact hcs.symm
  · rintro ⟨stem, rfl⟩
    exact ⟨stem.toList, String.toList_append.symm⟩

section RDropWhile

variable {α : Type} {p : α → Bool} {xs ys : List α}

theorem rdropWhile_append_of_all (h : ∀ y ∈ ys, p y = true) :
    (xs ++ ys).rdropWhile p = xs.rdropWhile p := by
  have hrev : ∀ y ∈ ys.reverse, p y = true := fun y hy => h y (List.mem_reverse.mp hy)
  rw [List.rdropWhile, List.reverse_append, List.dropWhile_append_of_pos hrev]
  rfl

theorem rdropWhile_append_of_not_all (h : ¬∀ y ∈ ys, p y = true) :
    (xs ++ ys).rdropWhile p = xs ++ ys.rdropWhile p := by
  have hrest : ys.reverse.dropWhile p ≠ [] :=
    fun hnil => h fun y hy => List.dropWhile_eq_nil_iff.mp hnil y (List.mem_reverse.mpr hy)
  rw [List.rdropWhile, List.reverse_append, List.dropWhile_append,
    if_neg (by rwa [List.isEmpty_iff]), List.reverse_append, List.reverse_reverse]
  rfl

end RDropWhile

theorem toList_trimRight (c : Char) (s : String) :
    (trimRight c s).toList = s.toList.rdropWhile (· == c) := String.toList_ofList

/-- What was trimmed does not end with a slash any more. -/
theorem trimRight_ne (s stem : String) : trimRight '/' s ≠ stem ++ "/" := by
  intro h
  have hlist : s.toList.rdropWhile (· == '/') = stem.toList ++ ['/'] := by
    rw [← toList_trimRight, h, String.toList_append]
    rfl
  have hne : s.toList.rdropWhile (· == '/') ≠ [] := by
    rw [hlist]
    exact List.append_ne_nil_of_right_ne_nil _ (List.cons_ne_nil _ _)
  -- What is left would end with a character that is trimmed.
  refine List.rdropWhile_last_not _ _ hne ?_
  simp [hlist]

end Text

/-! ### Schemes -/

namespace Settings

/-- A scheme with nothing but slashes behind it. -/
def BareScheme (address : String) : Prop :=
  ∃ scheme ∈ schemes, scheme.toList <+: address.toList
    ∧ ∀ c ∈ address.toList.drop scheme.toList.length, c = '/'

instance (address : String) : Decidable (BareScheme address) :=
  decidable_of_iff
    (∃ scheme ∈ schemes, scheme.toList <+: address.toList
      ∧ (address.toList.drop scheme.toList.length).all (· == '/') = true)
    (by simp only [BareScheme, List.all_eq_true, beq_iff_eq])

/-- A prefix does not reach beyond a character that it does not have. -/
theorem prefix_append_cons_iff {α : Type} {a : α} {l xs ys : List α} (ha : a ∉ l) :
    l <+: xs ++ a :: ys ↔ l <+: xs := by
  refine ⟨fun h => ?_, fun h => h.trans (List.prefix_append xs _)⟩
  rcases List.prefix_or_prefix_of_prefix h (List.prefix_append xs (a :: ys)) with hshort | ⟨zs, rfl⟩
  · exact hshort
  · cases zs with
    | nil => exact (List.append_nil xs).symm ▸ List.prefix_rfl
    | cons z zs =>
      -- What reaches beyond has this character next.
      obtain ⟨rfl, -⟩ := List.cons_prefix_cons.mp ((List.prefix_append_right_inj xs).mp h)
      exact absurd (List.mem_append_right xs (List.mem_cons_self ..)) ha

/-- **The path of a signal** is no part of a scheme. -/
theorem hasScheme_path (stem name : String) :
    HasScheme (stem ++ "/v1/" ++ name) ↔ HasScheme (stem ++ "/") := by
  have hlist : (stem ++ "/v1/" ++ name).toList
      = (stem ++ "/").toList ++ 'v' :: ("1/".toList ++ name.toList) := by
    simp only [String.toList_append, List.append_assoc]
    rfl
  have hv : ∀ scheme ∈ schemes, 'v' ∉ scheme.toList := by decide
  rw [HasScheme, HasScheme, hlist]
  exact exists_congr fun scheme => and_congr_right fun hscheme =>
    prefix_append_cons_iff (hv scheme hscheme)

/-- **A slash** does not complete a scheme where there is none before it: a scheme ends with two. -/
theorem hasScheme_slash {stem : String} (h : ∀ shorter, stem ≠ shorter ++ "/") :
    HasScheme (stem ++ "/") ↔ HasScheme stem := by
  have hends : ∀ scheme ∈ schemes, ∃ before : String, scheme = before ++ "/" ++ "/" := by
    simp only [schemes, List.forall_mem_cons, List.not_mem_nil, false_implies, implies_true, and_true]
    exact ⟨⟨"http:", by decide⟩, "https:", by decide⟩
  refine exists_congr fun scheme => and_congr_right fun hscheme => ?_
  obtain ⟨before, hbefore⟩ := hends scheme hscheme
  rw [String.toList_append, show "/".toList = ['/'] from rfl, List.prefix_concat_iff]
  -- A scheme that the slash completes has its other slash at the end of the stem.
  refine or_iff_right fun hwhole => h before (String.toList_inj.mp ?_)
  have hends : stem.toList ++ ['/'] = (before ++ "/").toList ++ ['/'] := by
    rw [← hwhole, hbefore, String.toList_append]
    rfl
  exact List.append_cancel_right hends

/-- **Trimming** an address takes its scheme away where there is nothing else. -/
theorem hasScheme_trimRight {address : String} (h : HasScheme address) :
    HasScheme (Text.trimRight '/' address) ↔ ¬BareScheme address := by
  have hcut : ∀ scheme ∈ schemes, ∀ other ∈ schemes,
      ¬other.toList <+: scheme.toList.rdropWhile (· == '/') := by decide
  constructor
  · rintro ⟨other, hother, hprefix⟩ ⟨scheme, hscheme, ⟨behind, hbehind⟩, hslashes⟩
    -- The slashes are taken from the scheme too, and what is left of it has no scheme.
    rw [← hbehind, List.drop_left] at hslashes
    rw [Text.toList_trimRight, ← hbehind,
      Text.rdropWhile_append_of_all fun c hc => beq_iff_eq.mpr (hslashes c hc)] at hprefix
    exact hcut scheme hscheme other hother hprefix
  · intro hbare
    obtain ⟨scheme, hscheme, behind, hbehind⟩ := h
    refine ⟨scheme, hscheme, ?_⟩
    -- Trimming stops behind the scheme, at a character that is no slash.
    rw [Text.toList_trimRight, ← hbehind, Text.rdropWhile_append_of_not_all]
    · exact List.prefix_append ..
    · intro hslashes
      refine hbare ⟨scheme, hscheme, ⟨behind, hbehind⟩, fun c hc => ?_⟩
      rw [← hbehind, List.drop_left] at hc
      exact beq_iff_eq.mp (hslashes c hc)

end Settings

namespace Telemetry

open Settings (Signal TelemetrySettings HasScheme BareScheme)

/-! ### Addresses -/

/-- The slash at the end of a stem may be written with the path. -/
theorem append_signalPath (stem name : String) :
    stem ++ "/" ++ "v1/" ++ name = stem ++ "/v1/" ++ name :=
  congrArg (· ++ name) String.append_assoc

/-- An endpoint of the environment is the stem of its address, but for a slash at its end. -/
theorem withSignalPath_eq (endpoint : String) (signal : Signal) :
    ∃ stem, withSignalPath endpoint signal = stem ++ "/v1/" ++ signal.name
      ∧ (HasScheme (stem ++ "/") ↔ HasScheme endpoint) := by
  rw [withSignalPath]
  by_cases hslash : endpoint.endsWith "/" = true
  · obtain ⟨stem, rfl⟩ := Text.endsWith_slash_iff.mp hslash
    refine ⟨stem, ?_, Iff.rfl⟩
    rw [if_pos hslash, append_signalPath]
  · refine ⟨endpoint, ?_, Settings.hasScheme_slash fun shorter h => ?_⟩
    · rw [if_neg hslash, append_signalPath]
    · exact hslash (Text.endsWith_slash_iff.mpr ⟨shorter, h⟩)

/-- An endpoint of the settings is the stem of its address, but for all slashes at its end. -/
theorem signalEndpoint_eq {t : TelemetrySettings} {endpoint : String} (name : String)
    (hendpoint : t.endpoint = some endpoint) (hscheme : HasScheme endpoint) :
    ∃ stem, t.signalEndpoint name = some (stem ++ "/v1/" ++ name)
      ∧ (HasScheme (stem ++ "/") ↔ ¬BareScheme endpoint) := by
  refine ⟨Text.trimRight '/' endpoint, ?_, ?_⟩
  · rw [TelemetrySettings.signalEndpoint, hendpoint, Option.bind_some,
      hscheme.isEmpty_eq_false, if_neg Bool.false_ne_true]
  · rw [Settings.hasScheme_slash (Text.trimRight_ne endpoint), Settings.hasScheme_trimRight hscheme]

/-- **The scheme of an address.** Take settings that are accepted in an environment, and a signal whose own
variable is not set there. Its OTLP exporter has an address that ends with the path of the signal. The
address begins with a scheme just in case the endpoint of the settings is more than a scheme or, where they
have none, the common endpoint of the environment begins with a scheme if it is set. -/
theorem hasScheme_endpoint_iff {env : Environment} {inputs : Settings.Inputs} {t : TelemetrySettings}
    {signal : Signal} (hbuild : TelemetrySettings.build env inputs = .ok t)
    (hotlp : t.exporterOf signal = .otlp) (hown : env.get? (signalVariable signal) = none) :
    ∃ url, Exporter.ofSettings t env signal = some (.otlp url)
      ∧ (∃ stem, url = stem ++ "/v1/" ++ signal.name)
      ∧ (HasScheme url ↔ (∀ endpoint, t.endpoint = some endpoint → ¬BareScheme endpoint)
        ∧ (t.endpoint = none → ∀ base, env.get? endpointVariable = some base → HasScheme base)) := by
  have hofSettings : Exporter.ofSettings t env signal = some (.otlp (endpointFor t env signal)) := by
    rw [Exporter.ofSettings, hotlp]
  refine ⟨_, hofSettings, ?_⟩
  rw [endpointFor]
  rcases (TelemetrySettings.normal_of_build hbuild).endpoint with hnone | ⟨endpoint, hsome, hscheme⟩
  · -- No endpoint: the environment decides, and the default has a scheme.
    obtain ⟨stem, hpath, hstem⟩ :=
      withSignalPath_eq ((env.get? endpointVariable).getD defaultEndpoint) signal
    rw [TelemetrySettings.signalEndpoint, hnone, Option.bind_none, Option.getD_none, environmentEndpoint,
      hown, Option.getD_none, hpath, Settings.hasScheme_path, hstem]
    refine ⟨⟨stem, rfl⟩, ?_⟩
    cases hbase : env.get? endpointVariable with
    | none => simp [show HasScheme defaultEndpoint by decide]
    | some base => simp
  · -- An endpoint: it has a scheme, since it was accepted, but may lose it.
    obtain ⟨stem, haddress, hstem⟩ := signalEndpoint_eq signal.name hsome hscheme
    rw [haddress, Option.getD_some, Settings.hasScheme_path, hstem]
    refine ⟨⟨stem, rfl⟩, ?_⟩
    simp [hsome]

/-- The settings that are built where nothing but an endpoint is given. -/
def defaultSettings (endpoint : Option String) : TelemetrySettings :=
  ⟨false, "opentelemetry-python-openai", endpoint, .otlp, .otlp, .otlp, false⟩

/-- The endpoint of an argument keeps its scheme, though the common one of the environment has none. -/
theorem hasScheme_endpoint_argument :
    ∃ url, Exporter.ofSettings (defaultSettings (some "http://zipkin:9411//"))
          ⟨[(endpointVariable, "zipkin")]⟩ .logs = some (.otlp url)
      ∧ (∃ stem, url = stem ++ "/v1/" ++ "logs") ∧ HasScheme url := by
  have hbuild : TelemetrySettings.build ⟨[(endpointVariable, "zipkin")]⟩
      [("exporter_otlp_endpoint", .str "http://zipkin:9411//")]
      = .ok (defaultSettings (some "http://zipkin:9411//")) := by decide +kernel
  have hotlp : (defaultSettings (some "http://zipkin:9411//")).exporterOf .logs = .otlp := rfl
  obtain ⟨url, hurl, hpath, hscheme⟩ := hasScheme_endpoint_iff hbuild hotlp (by decide)
  refine ⟨url, hurl, hpath, hscheme.mpr ⟨fun endpoint hendpoint => ?_, fun hnone => by cases hnone⟩⟩
  cases hendpoint
  decide

/-- **Lost schemes.** No variable of a signal is set, and the settings are accepted. In the first case their
endpoint is a scheme, which loses its slashes; in the second they count an empty endpoint of the environment
as none, and the path of the signal is put behind the empty text. -/
theorem lost_schemes :
    (TelemetrySettings.build .empty [("exporter_otlp_endpoint", .str "http://")]
          = .ok (defaultSettings (some "http://"))
        ∧ ∀ signal, Environment.empty.get? (signalVariable signal) = none
          ∧ ∃ url, Exporter.ofSettings (defaultSettings (some "http://")) .empty signal = some (.otlp url)
            ∧ url = "http:/v1/" ++ signal.name ∧ ¬HasScheme url)
      ∧ TelemetrySettings.build ⟨[(endpointVariable, "")]⟩ [] = .ok (defaultSettings none)
        ∧ ∀ signal, Environment.get? ⟨[(endpointVariable, "")]⟩ (signalVariable signal) = none
          ∧ ∃ url, Exporter.ofSettings (defaultSettings none) ⟨[(endpointVariable, "")]⟩ signal
              = some (.otlp url)
            ∧ url = "/v1/" ++ signal.name ∧ ¬HasScheme url := by
  refine ⟨⟨by decide +kernel, fun signal => ?_⟩, by decide +kernel, fun signal => ?_⟩
  · cases signal <;> exact ⟨rfl, _, rfl, by decide, by decide⟩
  · cases signal <;> exact ⟨rfl, _, rfl, by decide, by decide⟩

end Telemetry
end ChatProbe

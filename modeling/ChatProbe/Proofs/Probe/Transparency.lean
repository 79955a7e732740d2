import ChatProbe.Probe.Run
import ChatProbe.Proofs.Probe.Output
import ChatProbe.Proofs.Telemetry.Observing
/-!
# What telemetry changes

Two runs of the program that differ in telemetry only agree on what they write, send and fail with
exactly where the response is one that can be observed (`Run.agrees_iff_observable`).

Where a response can be observed, its caller sees it, and the rest of the run is the same. Where it
cannot, the observed run fails with a `Misfit`. The other run may still succeed, and where it fails
it does so in one of three other ways (`Unreadable`), so that the two failures can be told apart by
class and message (`ne_of_misfit`). That the content of a response has no text is none of these ways,
since whatever stands in a response can be printed.

The settings say whether telemetry is on. Beyond that, the two environments may differ in the one
variable that says so, which no client looks at (`create_congr`).
-/

namespace ChatProbe
namespace Probe

open Chat (Client Exchange Transport)
open Telemetry (Observable Observer Hub Misfit)

/-! ### Failures without telemetry -/

/-- The ways in which the probe itself fails on a response: its choices have no length or no first
element, or the content cannot be encoded. -/
inductive Unreadable : Failure → Prop where
  | noLength (type : String) : Unreadable (.misuse (.noLength type))
  | missingKey (key : Value) : Unreadable (.misuse (.missingKey key))
  | unencodable (refusal : Text.Refusal) : Unreadable (.unencodable refusal)

theorem unreadable_of_choiceCount {response : Value} {e : Failure}
    (h : choiceCount response = .error e) : Unreadable e := by
  rw [choiceCount] at h
  split at h
  · cases hv : response.field "choices" <;> rw [hv] at h <;> cases h <;> exact .noLength _
  · cases h

/-- What has a length and counts as true has a first element, dictionaries apart. -/
theorem unreadable_of_firstChoiceContent {response : Value} {n : Nat} {e : Failure}
    (hcount : choiceCount response = .ok n) (h : Chat.firstChoiceContent response = .error e) :
    Unreadable e := by
  rw [choiceCount] at hcount
  rw [Chat.firstChoiceContent] at h
  by_cases htruthy : (response.field "choices").truthy = true
  · rw [if_pos htruthy] at hcount h
    have hfirst := Outcome.map_eq_error.mp h
    -- Whatever else counts as true has no length, which the count would have said before.
    cases hv : response.field "choices" with
    | list xs | tuple xs | bytes xs =>
      rw [hv] at htruthy hfirst
      cases xs with
      | nil => cases htruthy
      | cons x xs => cases hfirst
    | str s =>
      rw [hv] at hfirst
      cases hfirst
    | dict es =>
      rw [hv, Chat.firstElement] at hfirst
      split at hfirst
      · cases hfirst
      · cases hfirst
        exact .missingKey _
    | _ =>
      rw [hv] at hcount
      cases hcount
  · rw [if_neg htruthy] at h
    cases h

/-- A content that has a text has a line. -/
theorem line_ne_error {content : Value} (hprint : content.print.isOk = true) (e : Failure) :
    line content ≠ .error e := by
  obtain ⟨s, hs⟩ := Outcome.isOk_iff.mp hprint
  intro h
  by_cases hnull : content = .null
  · rw [hnull] at h
    cases h
  · rw [line_of_ne_null hnull, Value.text, hs] at h
    cases h

theorem unreadable_of_ending {r : Http.Response} {response : Value} {e : Failure}
    (hread : Chat.Response.read r = .ok response)
    (h : (Report.ending (.ok response)).2 = .error e) : Unreadable e := by
  rw [Report.ending] at h
  cases hcount : choiceCount response with
  | error e' =>
    rw [hcount] at h
    cases h
    exact unreadable_of_choiceCount hcount
  | ok n =>
    rw [hcount] at h
    -- The content of what was read has a line, so the line is not what fails.
    rcases Outcome.bind_eq_error.mp h with h | ⟨content, hcontent, h⟩
    · exact unreadable_of_firstChoiceContent hcount h
    · exact absurd h (line_ne_error (Chat.Response.isOk_print_content hread hcontent) e)

theorem unreadable_of_write {out : Sink} {s : Str} {e : Failure} (h : out.write s = .error e) :
    Unreadable e := by
  unfold Sink.write at h
  split at h
  · cases h
    exact .unencodable _
  · cases h

/-- The probe fails on a response that it has read in one of these ways. -/
theorem unreadable_of_failure {c : Client} {e : Exchange} {out : Sink} {r : Http.Response}
    {response : Value} {f : Failure} (hread : Chat.Response.read r = .ok response)
    (hresult : e.result = .ok response) (h : (Report.ofExchange c e out).failure = some f) :
    Unreadable f := by
  rw [Report.failure_ofExchange_iff, hresult] at h
  rcases Outcome.bind_eq_error.mp h with h | ⟨s, -, h⟩
  · exact unreadable_of_ending hread h
  · exact unreadable_of_write h

/-- The class and the message of a failure. -/
def told (e : Failure) : String × Str := (e.className, e.message)

theorem head?_toList_append {s : String} {c : Char} (h : s.toList.head? = some c) (t : String) :
    (s ++ t).toList.head? = some c := by
  rw [String.toList_append, List.head?_append, h]
  rfl

theorem className_of_misfit {e : Failure} (h : Misfit e) :
    e.className = "AttributeError" ∨ e.className = "TypeError" := by
  cases h with
  | noAttribute type name => exact .inl rfl
  | _ => exact .inr rfl

/-- How the message of a misfit begins, unless its class gives it away. -/
theorem head?_message_of_misfit {e : Failure} (h : Misfit e) :
    e.className = "AttributeError" ∨ e.message.mended.toList.head? = some '\''
      ∨ e.message.mended.toList.head? = some 'u' := by
  cases h with
  | noAttribute type name => exact .inl rfl
  | notIterable type =>
    exact .inr (.inl (head?_toList_append (head?_toList_append rfl _) _))
  | unhashable type =>
    exact .inr (.inr (head?_toList_append (head?_toList_append rfl _) _))
  | notOrdered left right =>
    refine .inr (.inl ?_)
    -- The quote stands in front of four pieces.
    iterate 4 refine head?_toList_append ?_ _
    rfl

/-- **Failures apart.** Class and message tell whether it was observing that failed. -/
theorem ne_of_misfit {e f : Failure} (he : Misfit e) (hf : Unreadable f) : told e ≠ told f := by
  intro h
  have hclass : e.className = f.className := congrArg Prod.fst h
  have hmessage : e.message = f.message := congrArg Prod.snd h
  cases hf with
  -- The class alone does not tell here; the message of no misfit begins with "object".
  | noLength type =>
    change e.className = "TypeError" at hclass
    have hfirst : (Failure.misuse (.noLength type)).message.mended.toList.head? = some 'o' :=
      head?_toList_append (head?_toList_append rfl _) _
    rw [← hmessage] at hfirst
    rcases head?_message_of_misfit he with hname | hhead | hhead
    · rw [hname] at hclass
      exact absurd hclass (by decide)
    · rw [hhead] at hfirst
      exact absurd hfirst (by decide)
    · rw [hhead] at hfirst
      exact absurd hfirst (by decide)
  | missingKey key =>
    change e.className = "KeyError" at hclass
    rcases className_of_misfit he with hname | hname <;> rw [hname] at hclass <;>
      exact absurd hclass (by decide)
  | unencodable refusal =>
    change e.className = "UnicodeEncodeError" at hclass
    rcases className_of_misfit he with hname | hname <;> rw [hname] at hclass <;>
      exact absurd hclass (by decide)

/-! ### Agreement of reports -/

/-- What a user sees of a report is the same: the output, how many requests were sent, and how the
probe failed. -/
structure Report.Agrees (r s : Report) : Prop where
  output : r.output = s.output
  requests : r.requests.length = s.requests.length
  failure : r.failure.map told = s.failure.map told

/-- A response is never a dictionary: objects are read as objects. -/
theorem ne_dict_of_read {r : Http.Response} {v : Value} (h : Chat.Response.read r = .ok v) :
    ∀ es, v ≠ .dict es := by
  rintro es rfl
  rw [Chat.Response.read] at h
  split at h
  · rw [Chat.Response.readBody] at h
    split at h
    case h_1 j _ =>
      cases j with
      -- An object is made of a document, and no dictionary.
      | object ms =>
        rw [Chat.Response.ofJson, Chat.Response.readAs, Chat.Response.readObject] at h
        split at h
        · cases h
        · obtain ⟨known, -, hv⟩ := Outcome.map_eq_ok.mp h
          cases hv
      | array js =>
        obtain ⟨xs, -, hv⟩ := Outcome.map_eq_ok.mp h
        cases hv
      | _ => cases h
    case h_2 =>
      split at h
      · cases h
      · cases h
  · cases h

/-- **Agreement.** The reports on an exchange with and without an observer agree where the response,
if there is one, can be observed. -/
theorem agrees_observed_iff (c : Client) (e : Exchange) (out : Sink) (o : Observer) (u : Url)
    (hread : ∀ v, e.result = .ok v → ∃ r, Chat.Response.read r = .ok v) :
    (Report.ofExchange c e out).Agrees
        (.ofExchange c { e with result := (o.observe u e.result).result } out) ↔
      ∀ v, e.result = .ok v → Observable o.meter.live o.meter.read v := by
  rcases e with ⟨transport, requests, log, _ | v⟩
  · rw [o.result_observe_error]
    constructor
    · intro _ v hv
      cases hv
    · exact fun _ => ⟨rfl, rfl, rfl⟩
  · obtain ⟨response, hresponse⟩ := hread v rfl
    have hobserve := o.result_observe u (ne_dict_of_read hresponse)
    constructor
    · rintro hagrees v hv
      cases hv
      rcases o.result_observe_cases u v with hok | ⟨f, hf, hmisfit⟩
      · exact hobserve.mp hok
      -- The observed run failed, so the other one has to fail as well, and does so otherwise.
      · exfalso
        have hfailure := hagrees.failure
        dsimp only at hfailure
        rw [hf] at hfailure
        change (Report.ofExchange c _ out).failure.map told = some (told f) at hfailure
        obtain ⟨g, hg, htold⟩ := Option.map_eq_some_iff.mp hfailure
        exact ne_of_misfit hmisfit (unreadable_of_failure hresponse rfl hg) htold.symm
    · intro h
      rw [hobserve.mpr (h v rfl)]
      exact ⟨rfl, rfl, rfl⟩

/-- Where the response cannot be observed, the observed report fails. -/
theorem failure_of_not_observable (c : Client) (e : Exchange) (out : Sink) (o : Observer) (u : Url)
    {v : Value} (hresult : e.result = .ok v) (hdict : ∀ es, v ≠ .dict es)
    (h : ¬ Observable o.meter.live o.meter.read v) :
    (Report.ofExchange c { e with result := (o.observe u e.result).result } out).failure.isSome = true
      ∧ (Report.ofExchange c { e with
          result := (o.observe u e.result).result } out).output = "" := by
  rw [hresult]
  rcases o.result_observe_cases u v with hok | ⟨f, hf, -⟩
  · exact absurd ((o.result_observe u hdict).mp hok) h
  · rw [hf]
    exact ⟨rfl, rfl⟩

/-! ### What a client looks at -/

/-- The variables that a client looks up. -/
def clientVariables : List String :=
  ["OPENAI_API_KEY", "OPENAI_ADMIN_KEY", "OPENAI_BASE_URL", "OPENAI_ORG_ID", "OPENAI_PROJECT_ID",
   "OPENAI_CUSTOM_HEADERS"]

theorem given_congr {env env' : Environment} (overrides : Settings.Inputs) (name : String)
    {variableName : String} (h : env.get? variableName = env'.get? variableName) :
    Client.given env overrides name variableName = Client.given env' overrides name variableName := by
  rw [Client.given, Client.given, h]

/-- **Clients.** The same client comes of environments that agree on the variables of clients. -/
theorem create_congr {env env' : Environment} (overrides : Settings.Inputs)
    (h : ∀ name ∈ clientVariables, env.get? name = env'.get? name) :
    Client.create env overrides = Client.create env' overrides := by
  simp only [clientVariables, List.forall_mem_cons] at h
  obtain ⟨hkey, hadmin, hurl, horganization, hproject, hlisted, -⟩ := h
  have hheaders : Client.headersOf env overrides = Client.headersOf env' overrides := by
    rw [Client.headersOf, Client.headersOf, hlisted]
  rw [Client.create, Client.create, given_congr overrides "api_key" hkey,
    given_congr overrides "admin_api_key" hadmin, given_congr overrides "base_url" hurl,
    given_congr overrides "organization" horganization, given_congr overrides "project" hproject,
    hheaders]

/-! ### Agreement of runs -/

namespace Run

/-- What a user sees of a run is the same: the output, the exit status, how many requests were sent,
and how the run failed. -/
structure Agrees (r s : Run) : Prop where
  output : r.output = s.output
  exitStatus : r.exitStatus = s.exitStatus
  requests : r.requests.length = s.requests.length
  failure : r.failure.map told = s.failure.map told

/-- A run comes to what a report says. -/
structure Shows (r : Run) (report : Report) : Prop where
  output : r.output = report.output
  requests : r.requests = report.requests
  failure : r.failure = report.failure

theorem agrees_iff_of_shows {r s : Run} {a b : Report} (hr : r.Shows a) (hs : s.Shows b) :
    r.Agrees s ↔ a.Agrees b := by
  constructor
  · rintro ⟨houtput, -, hrequests, hfailure⟩
    rw [hr.output, hs.output] at houtput
    rw [hr.requests, hs.requests] at hrequests
    rw [hr.failure, hs.failure] at hfailure
    exact ⟨houtput, hrequests, hfailure⟩
  · rintro ⟨houtput, hrequests, hfailure⟩
    rw [← hr.output, ← hs.output] at houtput
    rw [← hr.requests, ← hs.requests] at hrequests
    rw [← hr.failure, ← hs.failure] at hfailure
    refine ⟨houtput, ?_, hrequests, hfailure⟩
    -- The exit status only says whether there is a failure.
    have hsome := congrArg Option.isSome hfailure
    rw [Option.isSome_map, Option.isSome_map] at hsome
    rw [exitStatus, exitStatus, hsome]

variable {s : Settings.AppSettings} {env : Environment} {stamp : Logging.Stamp} {t : Transport}
  {out : Sink}

/-- Setting up and shutting down apart, a run is one call of the probe. -/
theorem shows_of_setup {hub : Hub} {ready : List Logging.Entry}
    (h : Hub.empty.setup s.telemetry env false true = .ok (hub, ready)) :
    (withSettings [] s env stamp t).Shows (hub.call env [] t .standardOutput).2 := by
  rw [withSettings, h]
  exact ⟨rfl, rfl, rfl⟩

theorem report_call {hub : Hub} {overrides : Settings.Inputs} {c : Client}
    (h : Client.create env overrides = .ok c) :
    (hub.call env overrides t out).2 = .ofExchange c (hub.observe env c (c.complete t)).2 out := by
  rw [Hub.call, h]

theorem report_call_of_refused {hub : Hub} {overrides : Settings.Inputs} {e : Failure}
    (h : Client.create env overrides = .error e) :
    (hub.call env overrides t out).2 = .unstarted e := by
  rw [Hub.call, h]

/-- Without telemetry, a run shows the report of the probe. -/
theorem shows_of_disabled (h : s.telemetry.sdkDisabled = true) :
    (withSettings [] s env stamp t).Shows (Probe.run env [] t .standardOutput) := by
  have hsetup : Hub.empty.setup s.telemetry env false true
      = .ok (Hub.empty.join ⟨.disabled, none, []⟩, [Telemetry.disabledEntry]) := by
    rw [Hub.setup, if_pos h]
  have hcall : ((Hub.empty.join ⟨.disabled, none, []⟩).call env [] t .standardOutput).2
      = Probe.run env [] t .standardOutput := by
    cases hc : Client.create env [] with
    | error e => rw [report_call_of_refused hc, Probe.run, hc]
    | ok c =>
      -- Nobody reports, so the client passes the exchange on as it is.
      have hsilent : (Hub.empty.join ⟨.disabled, none, []⟩).reporting = none := rfl
      rw [report_call hc, run_of_create hc, Hub.observe, hsilent, Option.bind_none]
  rw [← hcall]
  exact shows_of_setup hsetup

/-- The report of the probe with an observer. -/
def observedReport (env : Environment) (t : Transport) (o : Observer) : Report :=
  match Client.create env [] with
  | .error e => .unstarted e
  | .ok c => .ofExchange c { c.complete t with
      result := (o.observe c.baseUrl (c.complete t).result).result } .standardOutput

/-- With telemetry, a run shows what the observer of its pipeline makes of the exchange. -/
theorem shows_of_enabled (h : s.telemetry.sdkDisabled = false) {p : Telemetry.Pipeline}
    (hp : Telemetry.Pipeline.ofSettings s.telemetry env false = .ok p) :
    (withSettings [] s env stamp t).Shows (observedReport env t p.observer) := by
  have hsetup : Hub.empty.setup s.telemetry env false true
      = .ok (⟨[⟨.active, some p, []⟩], some 0, some 0⟩,
          Telemetry.Pipeline.setupLog s.telemetry) := by
    rw [Hub.setup, if_neg (by rw [h]; exact Bool.false_ne_true), hp]
    rfl
  have hcall : ((⟨[⟨.active, some p, []⟩], some 0, some 0⟩ : Hub).call env [] t .standardOutput).2
      = observedReport env t p.observer := by
    cases hc : Client.create env [] with
    | error e => rw [report_call_of_refused hc, observedReport, hc]
    | ok c =>
      -- The only member reports; it is open, so that its own observer looks at the response.
      have hobserve : ∀ e, ((⟨[⟨.active, some p, []⟩], some 0, some 0⟩ : Hub).observe env c e).2
          = { e with result := (p.observer.observe c.baseUrl e.result).result } := by
        intro e
        rfl
      rw [report_call hc, observedReport, hc, hobserve]
  rw [← hcall]
  exact shows_of_setup hsetup

/-- The meter of a pipeline measures unless the environment forbids it, and is read where the
settings name an exporter for metrics. -/
theorem meter_ofSettings {settings : Settings.TelemetrySettings} {p : Telemetry.Pipeline}
    (h : Telemetry.Pipeline.ofSettings settings env false = .ok p) :
    p.observer.meter.live = !Telemetry.switchedOff env
      ∧ p.observer.meter.read = (settings.metricsExporter != .nowhere) := by
  rw [Telemetry.Pipeline.ofSettings] at h
  obtain ⟨tracer, -, h⟩ := Outcome.bind_eq_ok.mp h
  cases h
  dsimp only
  refine ⟨rfl, ?_⟩
  rw [Telemetry.Sink.choose, Telemetry.Exporter.ofSettings, Settings.TelemetrySettings.exporterOf]
  cases settings.metricsExporter <;> rfl

/-- **No choices.** A document whose choices are missing or null cannot be observed, although the
probe reads it as one without content. -/
theorem not_observable_of_no_choices {ms : List (Str × Json)} {v : Value} {live read : Bool}
    (h : Chat.Response.ofJson (.object ms) = .ok v)
    (hnone : ms.lookup ↑"choices" = none ∨ ms.lookup ↑"choices" = some .null) :
    ¬ Observable live read v := by
  rintro ⟨hchoices, -, -⟩
  obtain ⟨x, hx, hattr⟩ := Chat.Response.attribute?_readObject
    (p := ⟨"choices", Chat.Response.readChoices⟩) "choices" h (by decide) rfl
  obtain ⟨cs, hcs, -⟩ := hchoices x hattr
  -- Missing or null, the choices are there as null and have no elements.
  rcases hnone with hmissing | hnull
  · rw [hmissing] at hx
    cases hx
    cases hcs
  · rw [hnull] at hx
    cases hx
    cases hcs

theorem exists_pipeline (settings : Settings.TelemetrySettings) {env : Environment}
    (h : (Telemetry.Tracer.ofEnvironment env).isOk = true) :
    ∃ p, Telemetry.Pipeline.ofSettings settings env false = .ok p := by
  obtain ⟨tracer, htracer⟩ := Outcome.isOk_iff.mp h
  rw [Telemetry.Pipeline.ofSettings, htracer]
  exact ⟨_, rfl⟩

/-- **What telemetry changes.** Take two runs whose settings are accepted, one with telemetry and
one without, and whose environments agree apart from the variable that says so. The runs agree
where the service, if it is asked and answers, answers with a response that can be observed. -/
theorem agrees_iff_observable {p q p' q' : Settings.Session}
    {wp wq : List Dotenv.Warning} {ip iq : Settings.Issued}
    (hp : p.getSettings = (p', wp, .ok ip)) (hq : q.getSettings = (q', wq, .ok iq))
    (hoff : ip.settings.telemetry.sdkDisabled = true)
    (hon : iq.settings.telemetry.sdkDisabled = false)
    (henv : p'.environment.unset "OTEL_SDK_DISABLED" = q'.environment.unset "OTEL_SDK_DISABLED")
    (hvalid : (Telemetry.Tracer.ofEnvironment q'.environment).isOk = true)
    (stamp : Logging.Stamp) (t : Transport) :
    (ofSession p stamp t).Agrees (ofSession q stamp t) ↔
      ∀ c v, Client.create q'.environment [] = .ok c → (c.complete t).result = .ok v →
        Observable (!Telemetry.switchedOff q'.environment)
          (iq.settings.telemetry.metricsExporter != .nowhere) v := by
  -- The two environments differ in no variable that a client looks up.
  have hsame : Client.create p'.environment [] = Client.create q'.environment [] :=
    create_congr [] fun name hname => Environment.get?_eq_of_unset henv fun h => by
      rw [h] at hname
      exact absurd hname (by decide)
  obtain ⟨pipeline, hpipeline⟩ := exists_pipeline iq.settings.telemetry hvalid
  obtain ⟨hlive, hread⟩ := meter_ofSettings hpipeline
  rw [ofSession, ofSession, inSession, inSession, hp, hq]
  -- From here on only the two reports count.
  rw [agrees_iff_of_shows (shows_of_disabled hoff) (shows_of_enabled hon hpipeline)]
  rw [Probe.run, observedReport, hsame, ← hlive, ← hread]
  cases Client.create q'.environment [] with
  | error e =>
    -- Without a client both runs fail before they send anything, and alike.
    constructor
    · intro _ c v hc
      cases hc
    · exact fun _ => ⟨rfl, rfl, rfl⟩
  | ok c =>
    refine (agrees_observed_iff c (c.complete t) .standardOutput pipeline.observer c.baseUrl
      (fun v hv => Client.exists_response hv)).trans ⟨fun h c' v hc hv => ?_, fun h v hv => ?_⟩
    · cases hc
      exact h v hv
    · exact h c v rfl hv

/-- A session with a key and telemetry. -/
def observedSession : Settings.Session := .start keyedEnvironment .empty []

/-- The same session with telemetry switched off. -/
def unobservedSession : Settings.Session :=
  .start (keyedEnvironment.set "OTEL_SDK_DISABLED" "true") .empty []

theorem accepted_of_map {p : Settings.Session} {disabled : Bool}
    (h : (p.getSettings.2.2.map fun i => i.settings.telemetry.sdkDisabled) = .ok disabled) :
    ∃ i, p.getSettings = (p.getSettings.1, p.getSettings.2.1, .ok i)
      ∧ i.settings.telemetry.sdkDisabled = disabled := by
  obtain ⟨i, hi, hdisabled⟩ := Outcome.map_eq_ok.mp h
  exact ⟨i, by rw [← hi], hdisabled⟩

theorem accepted_observed : ∃ i, observedSession.getSettings
      = (observedSession.getSettings.1, observedSession.getSettings.2.1, .ok i)
    ∧ i.settings.telemetry.sdkDisabled = false := accepted_of_map (by rfl)

theorem accepted_unobserved : ∃ i, unobservedSession.getSettings
      = (unobservedSession.getSettings.1, unobservedSession.getSettings.2.1, .ok i)
    ∧ i.settings.telemetry.sdkDisabled = true := accepted_of_map (by rfl)

theorem environment_observed :
    observedSession.getSettings.1.environment = keyedEnvironment := by rfl

theorem environment_unobserved :
    unobservedSession.getSettings.1.environment
      = keyedEnvironment.set "OTEL_SDK_DISABLED" "true" := by rfl

theorem create_unobserved :
    Client.create (keyedEnvironment.set "OTEL_SDK_DISABLED" "true") [] = .ok keyedClient := by
  rw [← create_keyed]
  exact create_congr [] (by decide)

theorem isOk_tracer_keyed : (Telemetry.Tracer.ofEnvironment keyedEnvironment).isOk = true := by rfl

/-- With an empty list of choices the two runs agree. -/
theorem agrees_of_empty_choices :
    let t : Transport := .fixed (.ofText 200 "application/json" "\x7b\"choices\":[]\x7d" [])
    (ofSession unobservedSession ⟨.ofMillis 0, 1, 1⟩ t).Agrees
      (ofSession observedSession ⟨.ofMillis 0, 1, 1⟩ t) := by
  intro t
  obtain ⟨ip, hp, hoff⟩ := accepted_unobserved
  obtain ⟨iq, hq, hon⟩ := accepted_observed
  refine (agrees_iff_observable hp hq hoff hon ?_ ?_ _ t).mpr fun c v hc hv => ?_
  · rw [environment_observed, environment_unobserved]
    rfl
  · rw [environment_observed]
    exact isOk_tracer_keyed
  · rw [environment_observed, create_keyed] at hc
    cases hc
    have hbody : Json.readBytes (Text.Utf8.encode "\x7b\"choices\":[]\x7d")
        = .ok (.object [("choices", .array [])]) :=
      Json.readBytes_of_text "\x7b\"choices\":[]\x7d" (by decide +kernel) (by cbv)
    obtain ⟨request, hrequest⟩ := prepared_keyed
    rw [result_complete_answering hrequest rfl, read_of_document rfl hbody] at hv
    cases hv
    -- There is no choice to be told of, no usage, and nothing that is labelled.
    refine ⟨fun choices hchoices => ?_, fun h => absurd h Bool.false_ne_true,
      fun _ _ part hpart => ?_⟩
    · cases hchoices
      exact ⟨[], rfl, fun c hc => by cases hc⟩
    · simp only [Telemetry.labelParts, List.mem_cons, List.not_mem_nil, or_false] at hpart
      rcases hpart with rfl | rfl | rfl <;> rfl

/-- Without telemetry, the run in the session shows the exchange of its client. -/
theorem shows_unobserved (stamp : Logging.Stamp) (t : Transport) :
    (ofSession unobservedSession stamp t).Shows
      (.ofExchange keyedClient (keyedClient.complete t) .standardOutput) := by
  obtain ⟨ip, hp, hoff⟩ := accepted_unobserved
  rw [ofSession, inSession, hp, ← run_of_create create_unobserved, ← environment_unobserved]
  exact shows_of_disabled hoff

/-- With telemetry, it shows what some observer makes of the same exchange. -/
theorem shows_observed (stamp : Logging.Stamp) (t : Transport) :
    ∃ o : Observer, (ofSession observedSession stamp t).Shows
      (.ofExchange keyedClient { keyedClient.complete t with
        result := (o.observe keyedClient.baseUrl (keyedClient.complete t).result).result }
        .standardOutput) := by
  obtain ⟨iq, hq, hon⟩ := accepted_observed
  obtain ⟨pipeline, hpipeline⟩ := exists_pipeline iq.settings.telemetry isOk_tracer_keyed
  -- The report of the watched exchange is made with the usual client.
  have hreport : observedReport keyedEnvironment t pipeline.observer
      = .ofExchange keyedClient { keyedClient.complete t with
          result := (pipeline.observer.observe keyedClient.baseUrl
            (keyedClient.complete t).result).result } .standardOutput := by
    rw [observedReport, create_keyed]
  refine ⟨pipeline.observer, ?_⟩
  rw [ofSession, inSession, hq, ← hreport]
  dsimp only
  rw [environment_observed]
  exact shows_of_enabled hon hpipeline

/-- **Telemetry shows.** Where the choices of the answer are null, the run without telemetry writes
an empty line, and the run with telemetry fails and writes nothing. -/
theorem disagrees_of_null_choices :
    let t : Transport := .fixed (.ofText 200 "application/json" "\x7b\"choices\":null\x7d" [])
    let unobserved := ofSession unobservedSession ⟨.ofMillis 0, 1, 1⟩ t
    let observed := ofSession observedSession ⟨.ofMillis 0, 1, 1⟩ t
    unobserved.exitStatus = 0 ∧ unobserved.output = "\n"
      ∧ observed.exitStatus = 1 ∧ observed.output = "" := by
  intro t
  have hbody : Json.readBytes (Text.Utf8.encode "\x7b\"choices\":null\x7d")
      = .ok (.object [("choices", .null)]) :=
    Json.readBytes_of_text "\x7b\"choices\":null\x7d" (by decide +kernel) (by cbv)
  obtain ⟨request, hrequest⟩ := prepared_keyed
  have hread : (keyedClient.complete t).result
      = Chat.Response.ofJson (.object [("choices", .null)]) :=
    (result_complete_answering hrequest rfl false).trans (read_of_document rfl hbody)
  obtain ⟨v, hv⟩ := Outcome.isOk_iff.mp
    ((Chat.Response.isOk_ofJson [("choices", .null)]).trans (by decide))
  have hresult : (keyedClient.complete t).result = .ok v := hread.trans hv
  obtain ⟨response, hresponse⟩ := Client.exists_response hresult
  have hplain := shows_unobserved ⟨.ofMillis 0, 1, 1⟩ t
  obtain ⟨o, hwatched⟩ := shows_observed ⟨.ofMillis 0, 1, 1⟩ t
  obtain ⟨hfailed, hempty⟩ := failure_of_not_observable keyedClient (keyedClient.complete t)
    .standardOutput o keyedClient.baseUrl hresult (ne_dict_of_read hresponse)
    (not_observable_of_no_choices hv (.inr rfl))
  -- Null choices leave an empty line to be written, which any sink takes.
  have hwritten : ((Report.ending (keyedClient.complete t).result).2
      >>= Sink.standardOutput.write) = .ok "\n" := by
    have hnull : Json.WellFormedMembers [("choices", .null)] := ⟨trivial, trivial⟩
    rw [hread, (ending_ofJson hnull rfl "\n").mpr ⟨rfl, rfl⟩]
    rfl
  -- The run without telemetry writes this line; the other one fails before it gets there.
  rcases Report.ofExchange_cases keyedClient (keyedClient.complete t) .standardOutput
    with ⟨f, -, -, hend⟩ | ⟨hfine, hend⟩
  · rw [hwritten] at hend
    cases hend
  · rw [hwritten] at hend
    refine ⟨?_, hplain.output.trans (Except.ok.inj hend).symm, ?_, hwatched.output.trans hempty⟩
    · rw [exitStatus, hplain.failure, hfine]
      rfl
    · rw [exitStatus, hwatched.failure, if_pos hfailed]

end Run
end Probe
end ChatProbe

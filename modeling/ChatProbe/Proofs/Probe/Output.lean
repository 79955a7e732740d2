import Mathlib
import ChatProbe.Probe.Report
import ChatProbe.Proofs.Chat.Asking
import ChatProbe.Proofs.Chat.Reading
/-!
# What the probe writes

A report of the probe is all or nothing. The end of an exchange is reached along one way only: the
response is read, its choices are counted, the content of the first choice is taken and written out
as a line (`Report.ending_eq_ok`) that the sink can take, and every exit before the end leaves the
output empty (`Report.ofExchange_cases`).

* `run_all_or_nothing`: over every transport and to every sink, the probe that repeats nothing sends
  its question and what redirects of it ask for (`Asked`); it either fails and writes nothing, or has
  sent something and writes one content.
* `run_of_document`: with a document for an answer, the probe fails exactly where the document has a
  clash or its content cannot be encoded, and otherwise writes the content of the first choice
  whatever else is in there.
-/

namespace ChatProbe
namespace Probe

open Chat (Client Exchange Transport)
open Http (Outgoing)

/-! ### The end of an exchange -/

theorem line_of_ne_null {content : Value} (h : content ≠ .null) :
    line content = content.text.map fun s : Str => s ++ "\n" := by
  cases content with
  | null => exact absurd rfl h
  | _ => rfl

/-- A line is the text of a content, or empty where there is no content. -/
theorem line_eq_ok {content : Value} {s : Str} :
    line content = .ok s ↔
      (content = .null ∧ s = "\n")
        ∨ (content ≠ .null ∧ ∃ t, content.text = .ok t ∧ s = t ++ "\n") := by
  by_cases h : content = .null
  · rw [h]
    simp [line, eq_comm]
  · rw [line_of_ne_null h, Outcome.map_eq_ok]
    simp [h, eq_comm]

/-- What is written is what was to be written, where the sink can take it. -/
theorem Sink.write_eq_ok {out : Sink} {s written : Str} :
    out.write s = .ok written ↔ out.refusal? s = none ∧ written = s := by
  unfold Sink.write
  cases out.refusal? s with
  | some r => simp
  | none => simp [eq_comm]

/-- A line break behind a text does not change whether a sink takes it. -/
theorem Sink.refusal?_lineBreak {out : Sink} {s : Str} :
    out.refusal? (s ++ "\n") = none ↔ out.refusal? s = none := by
  cases out with
  | memory => exact Iff.rfl
  | encoded e => exact Text.Encoding.refusal?_lineBreak

namespace Report

/-- **The only way to the end.** Something is to be written where there is a response, its choices can
be counted, and the content of its first choice has a line. -/
theorem ending_eq_ok {result : Except Failure Value} {s : Str} :
    (ending result).2 = .ok s ↔
      ∃ response content, result = .ok response ∧ (choiceCount response).isOk = true
        ∧ Chat.firstChoiceContent response = .ok content ∧ line content = .ok s := by
  cases result with
  | error e => simp [ending]
  | ok response =>
    rw [ending]
    cases hcount : choiceCount response with
    -- The count is only logged, but a count that fails ends everything.
    | error e =>
      constructor
      · intro h
        cases h
      · rintro ⟨v, content, hv, hok, -⟩
        cases hv
        rw [hcount] at hok
        cases hok
    | ok n =>
      simp only [Outcome.bind_eq_ok]
      constructor
      · rintro ⟨content, hcontent, hline⟩
        exact ⟨response, content, rfl, by rw [hcount]; rfl, hcontent, hline⟩
      · rintro ⟨v, content, hv, -, hcontent, hline⟩
        cases hv
        exact ⟨content, hcontent, hline⟩

theorem requests_ofExchange (c : Client) (e : Exchange) (out : Sink) :
    (ofExchange c e out).requests = e.requests := rfl

/-- A report either fails and says nothing or says what was written. -/
theorem ofExchange_cases (c : Client) (e : Exchange) (out : Sink) :
    (∃ f, (ofExchange c e out).failure = some f ∧ (ofExchange c e out).output = ""
        ∧ ((ending e.result).2 >>= out.write) = .error f)
      ∨ ((ofExchange c e out).failure = none
        ∧ ((ending e.result).2 >>= out.write) = .ok (ofExchange c e out).output) := by
  rw [ofExchange]
  dsimp only
  cases (ending e.result).2 >>= out.write with
  | error f => exact .inl ⟨f, rfl, rfl, rfl⟩
  | ok s => exact .inr ⟨rfl, rfl⟩

/-- A report fails as the end of its exchange does, or as its sink does. -/
theorem failure_ofExchange_iff {c : Client} {e : Exchange} {out : Sink} {f : Failure} :
    (ofExchange c e out).failure = some f ↔ ((ending e.result).2 >>= out.write) = .error f := by
  rcases ofExchange_cases c e out with ⟨g, hfailure, -, hend⟩ | ⟨hfailure, hend⟩
  · rw [hfailure, hend, Option.some.injEq, Except.error.injEq]
  · rw [hfailure, hend]
    exact iff_of_false (fun h => by cases h) fun h => by cases h

/-- A report that does not fail says the line of the first choice, and its sink can take this line. -/
theorem output_ofExchange {c : Client} {e : Exchange} {out : Sink}
    (h : (ofExchange c e out).failure = none) :
    ∃ response content, e.result = .ok response
      ∧ Chat.firstChoiceContent response = .ok content
      ∧ line content = .ok (ofExchange c e out).output := by
  rcases ofExchange_cases c e out with ⟨f, hfailure, -, -⟩ | ⟨-, hend⟩
  · rw [h] at hfailure
    cases hfailure
  · obtain ⟨s, hs, hwritten⟩ := Outcome.bind_eq_ok.mp hend
    obtain ⟨response, content, hresult, -, hcontent, hline⟩ := ending_eq_ok.mp hs
    refine ⟨response, content, hresult, hcontent, ?_⟩
    rw [(Sink.write_eq_ok.mp hwritten).2]
    exact hline

end Report

theorem run_of_create {env : Environment} {overrides : Settings.Inputs} {c : Client}
    (h : Client.create env overrides = .ok c) (t : Transport) (out : Sink) :
    run env overrides t out = .ofExchange c (c.complete t) out := by
  rw [run, h]

/-! ### A client with a key -/

/-- A key, which is what an environment has to give at least. -/
def keyedEnvironment : Environment := ⟨[("OPENAI_API_KEY", "sk-test")]⟩

/-- The client of a key at the usual address. -/
def keyedClient : Client where
  baseUrl := ⟨"https", "", "api.openai.com", none, "/v1/", none, none⟩
  apiKey := .str "sk-test"
  organization := .null
  project := .null
  headers := .null
  maxRetries := .int 2

theorem create_keyed : Client.create keyedEnvironment [] = .ok keyedClient := by cbv

/-- The address that this client asks. -/
def keyedUrl : Url := ⟨"https", "", "api.openai.com", none, "/v1/chat/completions", none, none⟩

theorem withRawPath_keyed :
    keyedClient.baseUrl.withRawPath (keyedClient.baseUrl.rawPath ++ Client.chatPath)
      = .ok keyedUrl := by cbv

theorem isOk_outgoing_keyed : keyedClient.outgoing.isOk = true :=
  Client.isOk_outgoing (by cbv) (by rw [withRawPath_keyed]; rfl)

theorem prepared_keyed : ∃ r, keyedClient.prepared = .ok (2, r) := by
  obtain ⟨r, hr⟩ := Outcome.isOk_iff.mp isOk_outgoing_keyed
  exact ⟨r, Client.prepared_eq_ok.mpr ⟨rfl, hr⟩⟩

/-- This client always gets to ask. -/
theorem requests_keyed (t : Transport) (out : Sink) :
    (run keyedEnvironment [] t out).requests ≠ [] := by
  obtain ⟨r, hr⟩ := prepared_keyed
  rw [run_of_create create_keyed, Report.requests_ofExchange, Client.complete_of_prepared hr]
  exact List.ne_nil_of_mem (t.requests_attempt r 2).1

/-! ### All or nothing -/

/-- Nothing is repeated by a client that is told so, and its header fields are those that its caller
and the environment add. -/
theorem create_once {env : Environment} {overrides : Settings.Inputs} {c : Client}
    (h : Client.create env (("max_retries", .int 0) :: overrides) = .ok c) :
    c.maxRetries = .int 0 ∧ c.headers = Client.headersOf env overrides := by
  unfold Client.create at h
  dsimp only at h
  -- Names, credentials, address: what is refused here makes no client.
  split at h
  · cases h
  · split at h
    · cases h
    · obtain ⟨baseUrl, -, h⟩ := Outcome.bind_eq_ok.mp h
      split at h
      · cases h
      · cases h
        exact ⟨rfl, rfl⟩

theorem retries_of_once {c : Client} (h : c.maxRetries = .int 0) : c.retries = .ok 0 := by
  rw [Client.retries, h]
  rfl

/-- **What the probe sends.** The first request carries the question: as the fields of a form where its
content type is that of one, which only header fields of the caller or of the environment can bring
about, else as the document. Every other request is one that a redirect of the request before it asks
for, and carries the same or, as a request to get something, nothing. Where redirects are not followed
there is no other request, and where they are there are at most twenty. -/
structure Asked (env : Environment) (overrides : Settings.Inputs) (follows : Bool) (first : Outgoing)
    (others : List Outgoing) : Prop where
  method : first.method = "POST"
  content : ∃ contentType, Http.header? first.headers "content-type" = some contentType
    ∧ if "multipart/form-data".toList.isPrefixOf contentType.toList then
        ∃ boundary, first.content = .form boundary
          [("messages[][role]", "user"),
           ("messages[][content]", "Write a short poem on OpenTelemetry."), ("model", "gpt-4o-mini")]
      else first.content = .document (.object
        [("messages", .array [.object [("role", .str "user"),
          ("content", .str "Write a short poem on OpenTelemetry.")]]),
         ("model", .str "gpt-4o-mini")])
  content_of_plain : overrides.lookup "default_headers" = none →
    env.get? "OPENAI_CUSTOM_HEADERS" = none →
    first.content = .document (.object
      [("messages", .array [.object [("role", .str "user"),
        ("content", .str "Write a short poem on OpenTelemetry.")]]),
       ("model", .str "gpt-4o-mini")])
  redirects : (first :: others).IsChain Outgoing.LeadsTo
  carried : ∀ r ∈ others, (r.method = "POST" ∧ r.content = first.content)
    ∨ (r.method = "GET" ∧ r.content = .nothing)
  bounded : others.length ≤ if follows then 20 else 0

/-- What a client that repeats nothing sends over a transport. -/
theorem asked_of_prepared {env : Environment} {overrides : Settings.Inputs} {c : Client} {r : Outgoing}
    (hr : c.outgoing = .ok r) (hheaders : c.headers = Client.headersOf env overrides) (t : Transport) :
    ∃ others, (t.deliver r).requests = r :: others ∧ Asked env overrides t.follows r others := by
  obtain ⟨others, hothers, hbound, hchain⟩ :=
    t.service.requests_deliver t.follows Chat.redirectLimit r
  obtain ⟨contentType, htype, hcontent⟩ := Client.content_outgoing hr
  have hmethod := Client.method_outgoing hr
  refine ⟨others, hothers, hmethod, ⟨contentType, htype, ?_⟩, fun hnone hunlisted => ?_, hchain,
    fun sent hsent => ?_, hbound⟩
  -- The content was chosen by the content type that is sent.
  · rcases hcontent with ⟨hform, boundary, h⟩ | ⟨hform, h⟩
    · exact (if_pos hform).mpr ⟨boundary, h⟩
    · exact (if_neg (ne_true_of_eq_false hform)).mpr h
  · rw [Client.headersOf, hunlisted, hnone] at hheaders
    exact (Client.outgoing_of_plain hheaders hr).2
  · rw [← hmethod]
    exact Outgoing.continues_of_isChain hchain sent (List.mem_cons_of_mem _ hsent)

/-- **All or nothing.** Whatever the transport does and whatever the sink takes, the probe of a client
that repeats nothing sends nothing, or its question and what redirects ask for. Either the probe fails
and has written nothing, or it sent something and wrote the content of the first choice of the response
and a line break. -/
theorem run_all_or_nothing (env : Environment) (overrides : Settings.Inputs) (t : Transport)
    (out : Sink) :
    let report := run env (("max_retries", .int 0) :: overrides) t out
    (report.requests = []
        ∨ ∃ first others,
          report.requests = first :: others ∧ Asked env overrides t.follows first others)
      ∧ ((report.failure.isSome = true ∧ report.output = "")
        ∨ (report.failure = none ∧ report.requests ≠ []
          ∧ ∃ c response content,
              Client.create env (("max_retries", .int 0) :: overrides) = .ok c
              ∧ (c.complete t).result = .ok response
              ∧ Chat.firstChoiceContent response = .ok content
              ∧ ((content = .null ∧ report.output = "\n")
                ∨ (content ≠ .null ∧ ∃ s, content.text = .ok s ∧ report.output = s ++ "\n")))) := by
  dsimp only
  cases hc : Client.create env (("max_retries", .int 0) :: overrides) with
  | error e =>
    -- Without a client nothing is sent.
    rw [run, hc]
    exact ⟨.inl rfl, .inl ⟨rfl, rfl⟩⟩
  | ok c =>
    obtain ⟨honce, hheaders⟩ := create_once hc
    rw [run_of_create hc, Report.requests_ofExchange]
    constructor
    · cases hr : c.outgoing with
      | error e =>
        have hprepared : c.prepared = .error e := by
          rw [Client.prepared, retries_of_once honce, hr]
          rfl
        rw [Client.complete_of_refused hprepared]
        exact .inl rfl
      | ok r =>
        have hprepared : c.prepared = .ok (0, r) :=
          Client.prepared_eq_ok.mpr ⟨retries_of_once honce, hr⟩
        rw [Client.complete_of_prepared hprepared]
        obtain ⟨others, hothers, hasked⟩ := asked_of_prepared hr hheaders t
        exact .inr ⟨r, others, hothers, hasked⟩
    · cases hfailure : (Report.ofExchange c (c.complete t) out).failure with
      | some f =>
        rcases Report.ofExchange_cases c (c.complete t) out with ⟨-, -, houtput, -⟩ | ⟨hfine, -⟩
        · exact .inl ⟨rfl, houtput⟩
        · rw [hfailure] at hfine
          cases hfine
      | none =>
        obtain ⟨response, content, hresult, hcontent, hline⟩ := Report.output_ofExchange hfailure
        exact .inr ⟨rfl, Client.requests_of_result hresult, c, response, content, rfl, hresult,
          hcontent, line_eq_ok.mp hline⟩

/-- A client of a key that is told to repeat nothing. -/
theorem create_keyed_once :
    Client.create keyedEnvironment [("max_retries", .int 0)]
      = .ok { keyedClient with maxRetries := .int 0 } := by cbv

/-- The same client for a caller that asks for forms. -/
def formClient : Client :=
  { keyedClient with
    headers := .dict [(.str "Content-Type", .str "multipart/form-data; boundary=x")]
    maxRetries := .int 0 }

theorem create_keyed_form :
    Client.create .empty
        [("max_retries", .int 0), ("api_key", .str "sk-test"),
         ("default_headers", .dict [(.str "Content-Type", .str "multipart/form-data; boundary=x")])]
      = .ok formClient := by cbv

/-- **More than one document.** A client that repeats nothing sends a second request where it follows
redirects and the first request is answered by one. And where its caller asks for forms, what it sends
is no document. -/
theorem run_redirected_or_form :
    let elsewhere : Http.Response := ⟨307, [("location", "https://api.openai.com/v2")], []⟩
    let answer : Http.Response := .ofText 200 "application/json" "\x7b\x7d" []
    let redirecting : Transport := ⟨.once (.response elsewhere) (.always (.response answer)), true⟩
    (run keyedEnvironment [("max_retries", .int 0)] redirecting .memory).requests.length = 2
      ∧ ∃ r boundary,
          (run .empty
            [("max_retries", .int 0), ("api_key", .str "sk-test"),
             ("default_headers",
               .dict [(.str "Content-Type", .str "multipart/form-data; boundary=x")])]
            (.fixed answer) .memory).requests = [r]
          ∧ r.content = .form boundary Chat.requestForm := by
  intro elsewhere answer redirecting
  have hsuccess : answer.isSuccess = true := rfl
  constructor
  · obtain ⟨r, hr⟩ := Outcome.isOk_iff.mp isOk_outgoing_keyed
    obtain ⟨headers, url, authorization, -, hurl, hform⟩ := Client.outgoing_eq_ok hr
    have hprepared : Client.prepared { keyedClient with maxRetries := .int 0 } = .ok (0, r) :=
      Client.prepared_eq_ok.mpr ⟨rfl, hr⟩
    have hr_url : r.url = keyedUrl := by
      rw [hform]
      exact (Except.ok.inj (hurl.symm.trans withRawPath_keyed))
    obtain ⟨next, hnext⟩ : ∃ next, r.redirected 307 "https://api.openai.com/v2" = .ok next := by
      -- Where the request goes is all that counts for where it goes on.
      have hplain : r.redirectedUrl "https://api.openai.com/v2"
          = Outgoing.redirectedUrl ⟨"POST", keyedUrl, [], .nothing⟩ "https://api.openai.com/v2" := by
        rw [Outgoing.redirectedUrl, hr_url]
        rfl
      refine Outcome.isOk_iff.mp ((Outcome.isOk_map _).trans ?_)
      rw [hplain]
      cbv
    rw [run_of_create create_keyed_once, Report.requests_ofExchange,
      Client.complete_of_prepared hprepared]
    show (Chat.Service.deliver true (19 + 1) redirecting.service r).requests.length = 2
    rw [Chat.Service.deliver_of_redirect rfl (by cbv) hnext, Chat.Service.deliver_of_success rfl hsuccess]
    rfl
  · obtain ⟨r, hr⟩ := Outcome.isOk_iff.mp (Client.isOk_outgoing (c := formClient) (by cbv)
      (by rw [show formClient.baseUrl = keyedClient.baseUrl from rfl, withRawPath_keyed]; rfl))
    obtain ⟨headers, url, authorization, hheaders, -, hform⟩ := Client.outgoing_eq_ok hr
    have htype : Chat.joined? headers "content-type" = some "multipart/form-data; boundary=x" := by
      have hsent : (formClient.headerFields >>= fun fields => fields.mapM Chat.headerField)
          = .ok [("content-type", "multipart/form-data; boundary=x"),
            ("authorization", "Bearer sk-test")] := by cbv
      cases Except.ok.inj (hheaders.symm.trans hsent)
      decide +kernel
    have hformType : Chat.isFormType "multipart/form-data; boundary=x" = true := by cbv
    obtain ⟨boundary, hboundary⟩ := Chat.content_contentFor hformType
    refine ⟨r, boundary, ?_, ?_⟩
    · rw [run_of_create create_keyed_form, Report.requests_ofExchange,
        Client.complete_of_success (Client.prepared_eq_ok.mpr ⟨rfl, hr⟩) rfl hsuccess]
    · rw [hform, htype]
      exact hboundary

/-! ### Documents -/

/-- The text that is written for what stands in a document: nothing for null. -/
def textOfJson : Json → Str
  | .null => ""
  | j => j.toValue.shown

theorem line_toValue {j : Json} (h : j.WellFormed) : line j.toValue = .ok (textOfJson j ++ "\n") := by
  obtain ⟨s, hs⟩ := Outcome.isOk_iff.mp (Json.isOk_print_toValue h)
  have htext : j.toValue.text = .ok j.toValue.shown := by
    rw [Value.text, Value.shown, Value.text?, hs]
    rfl
  -- Null has a line of its own; everything else is written as its text.
  cases j with
  | null => exact congrArg Except.ok (Str.empty_append _).symm
  | bool | int | float | str | array | object =>
    rw [line_of_ne_null (by rw [Json.toValue]; exact Value.noConfusion), htext]
    rfl

theorem isOk_choiceCount_ofJson {ms : List (Str × Json)} {v : Value}
    (h : Chat.Response.ofJson (.object ms) = .ok v) (hlist : Chat.Response.hasChoiceList ms = true) :
    (choiceCount v).isOk = true := by
  rw [choiceCount]
  rcases Chat.Response.field_choices_ofJson h hlist with ⟨hv, -⟩ | ⟨js, xs, -, -, hv⟩
  · rw [hv]
    rfl
  · rw [hv]
    cases xs <;> rfl

/-- What the probe makes of a document that was read: a line, unless the document has a clash. -/
theorem ending_ofJson {ms : List (Str × Json)} (hms : Json.WellFormedMembers ms)
    (hlist : Chat.Response.hasChoiceList ms = true) (s : Str) :
    (Report.ending (Chat.Response.ofJson (.object ms))).2 = .ok s ↔
      Chat.Response.documentClash ms = false
        ∧ s = textOfJson (Chat.Response.writtenContent ms) ++ "\n" := by
  have hread := Chat.Response.isOk_ofJson ms
  rw [Report.ending_eq_ok]
  constructor
  · rintro ⟨response, content, hresponse, -, hcontent, hline⟩
    -- A document without a clash is read, and its choices can be counted in any case.
    rw [hresponse] at hread
    rw [Chat.Response.firstChoiceContent_ofJson hresponse hlist] at hcontent
    cases hcontent
    rw [line_toValue (Chat.Response.wellFormed_writtenContent hms)] at hline
    exact ⟨(Bool.not_eq_true' _).mp hread.symm, (Except.ok.inj hline).symm⟩
  · rintro ⟨hclash, rfl⟩
    rw [hclash] at hread
    obtain ⟨response, hresponse⟩ := Outcome.isOk_iff.mp hread
    exact ⟨response, _, hresponse, isOk_choiceCount_ofJson hresponse hlist,
      Chat.Response.firstChoiceContent_ofJson hresponse hlist,
      line_toValue (Chat.Response.wellFormed_writtenContent hms)⟩

/-- The transport that answers every request in the same way, with or without redirects. -/
abbrev answering (r : Http.Response) (follows : Bool) : Transport := ⟨.always (.response r), follows⟩

/-- What a client that is ready to ask gets is the reading of an answer of success. -/
theorem result_complete_answering {c : Client} {retries : Nat} {sent : Outgoing} {r : Http.Response}
    (h : c.prepared = .ok (retries, sent)) (hsuccess : r.isSuccess = true) (follows : Bool) :
    (c.complete (answering r follows)).result = Chat.Response.read r := by
  rw [Client.complete_of_success h rfl hsuccess]

/-- The answer to a request that was sent is read. -/
theorem run_answered {env : Environment} {overrides : Settings.Inputs} {r : Http.Response}
    {follows : Bool} {out : Sink} (hsuccess : r.isSuccess = true)
    (hasked : (run env overrides (answering r follows) out).requests ≠ []) :
    ∃ c e, run env overrides (answering r follows) out = .ofExchange c e out
      ∧ e.result = Chat.Response.read r := by
  cases hc : Client.create env overrides with
  | error e =>
    rw [run, hc] at hasked
    exact absurd rfl hasked
  | ok c =>
    rw [run_of_create hc, Report.requests_ofExchange] at hasked
    refine ⟨c, _, run_of_create hc _ _, ?_⟩
    -- A request was sent, so there were a client and a request.
    cases hr : c.prepared with
    | error e =>
      rw [Client.complete_of_refused hr] at hasked
      exact absurd rfl hasked
    | ok p => exact result_complete_answering hr hsuccess follows

theorem read_of_document {r : Http.Response} {ms : List (Str × Json)}
    (hsuccess : r.isSuccess = true) (hbody : Json.readBytes r.body = .ok (.object ms)) :
    Chat.Response.read r = Chat.Response.ofJson (.object ms) := by
  rw [Chat.Response.read, if_pos hsuccess, Chat.Response.readBody, hbody]

/-- **Tolerant reading.** Where a request is answered with a document whose choices are missing,
null or a list, the probe fails only where the document has a clash or the sink cannot encode the
content of the first choice, and it writes nothing then. Otherwise it writes this content on a line,
an empty line where there is none, and nothing else in the document counts. -/
theorem run_of_document (env : Environment) (overrides : Settings.Inputs) (r : Http.Response)
    (follows : Bool) (out : Sink) (ms : List (Str × Json)) (hsuccess : r.isSuccess = true)
    (hbody : Json.readBytes r.body = .ok (.object ms))
    (hlist : Chat.Response.hasChoiceList ms = true)
    (hasked : (run env overrides (answering r follows) out).requests ≠ []) :
    let report := run env overrides (answering r follows) out
    let content := Chat.Response.writtenContent ms
    (report.failure = none ↔
        Chat.Response.documentClash ms = false ∧ out.refusal? (textOfJson content) = none)
      ∧ (report.failure = none →
          (∀ s, content = .str s → report.output = s ++ "\n")
            ∧ (content = .null → report.output = "\n")
            ∧ report.output = textOfJson content ++ "\n")
      ∧ (report.failure.isSome = true → report.output = "") := by
  obtain ⟨c, e, hreport, hresult⟩ := run_answered hsuccess hasked
  rw [read_of_document hsuccess hbody] at hresult
  dsimp only
  have hms : Json.WellFormedMembers ms := (Json.wellFormed_readBytes hbody).2
  -- What is written in the end is the line of the content, if the sink takes the content.
  have hwritten : ∀ s, ((Report.ending e.result).2 >>= out.write) = .ok s ↔
      (Chat.Response.documentClash ms = false
          ∧ out.refusal? (textOfJson (Chat.Response.writtenContent ms)) = none)
        ∧ s = textOfJson (Chat.Response.writtenContent ms) ++ "\n" := by
    intro s
    simp only [Outcome.bind_eq_ok, hresult, ending_ofJson hms hlist, Sink.write_eq_ok]
    constructor
    · rintro ⟨line, ⟨hclash, rfl⟩, htakes, rfl⟩
      exact ⟨⟨hclash, Sink.refusal?_lineBreak.mp htakes⟩, rfl⟩
    · rintro ⟨⟨hclash, htakes⟩, rfl⟩
      exact ⟨_, ⟨hclash, rfl⟩, Sink.refusal?_lineBreak.mpr htakes, rfl⟩
  rw [hreport]
  rcases Report.ofExchange_cases c e out with ⟨f, hfailure, houtput, hend⟩ | ⟨hfailure, hend⟩
  · rw [hfailure]
    refine ⟨iff_of_false (fun h => by cases h) fun h => ?_, fun h => (by cases h), fun _ => houtput⟩
    have hok := (hwritten _).mpr ⟨h, rfl⟩
    rw [hend] at hok
    cases hok
  · obtain ⟨hfine, houtput⟩ := (hwritten _).mp hend
    refine ⟨iff_of_true hfailure hfine, fun _ => ⟨fun s hs => ?_, fun hnull => ?_, houtput⟩,
      fun h => ?_⟩
    · rw [houtput, hs]
      rfl
    · rw [houtput, hnull]
      exact Str.empty_append _
    · rw [hfailure] at h
      cases h

/-- Of all that stands in a document beside it, nothing but the content of the first choice counts. -/
theorem run_of_document_hi :
    let r : Http.Response :=
      .ofText 200 "application/json"
        "\x7b\"usage\":7,\"choices\":[\x7b\"message\":\x7b\"content\":\"hi\"\x7d\x7d,null]\x7d" []
    (run keyedEnvironment [] (answering r true) .standardOutput).failure = none
      ∧ (run keyedEnvironment [] (answering r true) .standardOutput).output = "hi\n" := by
  intro r
  obtain ⟨hfailure, houtput, -⟩ :=
    run_of_document keyedEnvironment [] r true .standardOutput
      [("usage", .int 7),
       ("choices", .array [.object [("message", .object [("content", .str "hi")])], .null])]
      rfl (Json.readBytes_of_text
        "\x7b\"usage\":7,\"choices\":[\x7b\"message\":\x7b\"content\":\"hi\"\x7d\x7d,null]\x7d"
          (by decide +kernel) (by cbv)) rfl (requests_keyed _ _)
  -- Standard output can encode this text.
  have hnone := hfailure.mpr ⟨rfl, rfl⟩
  exact ⟨hnone, (houtput hnone).1 "hi" rfl⟩

/-- **A document with a clash.** It is an answer with an empty list of choices, and the probe fails
on it all the same. -/
theorem run_of_spoiled_document :
    let r : Http.Response :=
      .ofText 200 "application/json" "\x7b\"_fields_set\":[],\"choices\":[]\x7d" []
    r.status = 200 ∧ Http.header? r.headers "content-type" = some "application/json"
      ∧ Json.readBytes r.body
          = .ok (.object [(Chat.Response.presenceKey, .array []), ("choices", .array [])])
      ∧ (run keyedEnvironment [] (.fixed r) .memory).requests ≠ []
      ∧ (run keyedEnvironment [] (.fixed r) .memory).failure.map Failure.className
          = some "AttributeError" := by
  intro r
  have hbody : Json.readBytes r.body
      = .ok (.object [(Chat.Response.presenceKey, .array []), ("choices", .array [])]) :=
    Json.readBytes_of_text "\x7b\"_fields_set\":[],\"choices\":[]\x7d" (by decide +kernel)
      (by cbv)
  obtain ⟨c, e, hreport, hresult⟩ := run_answered rfl (requests_keyed (.fixed r) .memory)
  refine ⟨rfl, by cbv, hbody, requests_keyed _ _, ?_⟩
  -- Reading it runs into the member that stands in the way of the record of what is present.
  rw [read_of_document rfl hbody] at hresult
  rw [hreport, Report.ofExchange, hresult]
  rfl

end Probe
end ChatProbe

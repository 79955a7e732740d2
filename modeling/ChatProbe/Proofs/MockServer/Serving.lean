import ChatProbe.Proofs.MockServer.Answering
/-!
# What the mock server serves

Whatever a server was asked before and whatever a chat request holds: if it is answered with success, the
body of the answer is the text of the completion of the settings (`serves_iff`). So a server has one body
to serve, and it always has one.

The body is as good as the settings that it comes from. Its text reads back to a document that shows six of
the settings and the sum of two of them, hence servers of different completions serve different
bodies (`served_faithful`).
-/

namespace ChatProbe

namespace Chat.Completion

/-- Nothing of a completion is lost in its document. -/
theorem toJson_inj {c d : Completion} : c.toJson = d.toJson ↔ c = d := by
  refine ⟨fun h => ?_, congrArg toJson⟩
  obtain ⟨id, created, model, content, prompt, completion⟩ := c
  obtain ⟨id', created', model', content', prompt', completion'⟩ := d
  simp only [toJson, choice, usage, Json.object.injEq, Json.array.injEq, Json.str.injEq,
    Json.int.injEq, Str.whole.injEq, List.cons.injEq, Prod.mk.injEq, true_and, and_true] at h
  obtain ⟨rfl, rfl, rfl, rfl, rfl, rfl, -⟩ := h
  rfl

/-- The bytes of an exact completion hold its document. -/
theorem readBytes_text {c : Completion} (h : c.toJson.Exact) :
    Json.readBytes (Text.Utf8.encode c.text) = .ok c.toJson :=
  Json.readBytes_write JsonStyle.regular_compact h

end Chat.Completion

namespace MockServer

open Settings (MockServerSettings)

variable {s : MockServer} {r : Http.Request}

/-! ### Successful answers -/

theorem settings_handle (s : MockServer) (r : Http.Request) : (s.handle r).1.settings = s.settings := by
  rcases s.handle_cases r with ⟨ms, -, hhandle⟩ | ⟨-, hsame⟩
  · rw [hhandle]
  · rw [hsame]

/-- No request changes the settings. -/
theorem settings_handleAll (s : MockServer) (rs : List Http.Request) :
    (s.handleAll rs).1.settings = s.settings := by
  induction rs generalizing s with
  | nil => rfl
  | cons r rs ih =>
    rw [handleAll_cons]
    exact (ih _).trans (s.settings_handle r)

/-- A report of what is wrong with a body is no success. -/
theorem status_ofReport (code : String) (place : List Json) (wording : String)
    (more : List (Str × Json)) : (Reply.ofReport code place wording more).response.status ≠ 200 := by
  unfold Reply.ofReport
  dsimp only
  split
  · exact (by decide : (500 : Nat) ≠ 200)
  · split
    · exact (by decide : (500 : Nat) ≠ 200)
    · exact (by decide : (422 : Nat) ≠ 200)

/-- **No success** without a document: every other payload is refused, or the server fails on it. -/
theorem status_chat_of_ne_members (s : MockServer) (h : ∀ ms, payload r ≠ .members ms) :
    (s.chat r).2.response.status ≠ 200 := by
  rw [chat]
  cases hpayload : payload r with
  | members ms => exact absurd hpayload (h ms)
  | document j | absent | malformed fault => exact status_ofReport _ _ _ _
  | unreadable => exact (by decide : (400 : Nat) ≠ 200)
  | bytes bs =>
    dsimp only
    -- Bytes that are not declared as JSON are a text that is no object, or no text at all.
    cases Text.Utf8.decode bs with
    | ok text => exact status_ofReport _ _ _ _
    | error fault => exact (by decide : (500 : Nat) ≠ 200)

/-- A chat request that is answered with success is answered with the completion of the settings. -/
theorem response_of_success (hmethod : r.method = "POST") (hpath : r.path = "/v1/chat/completions")
    (h : (s.handle r).2.response.status = 200) :
    (s.handle r).2.response = .ofJson 200 s.completion.toJson [] := by
  rw [handle_eq_chat s hmethod (hasPath_of_eq hpath)] at h ⊢
  obtain ⟨ms, hpayload⟩ : ∃ ms, payload r = .members ms := by
    by_contra hnone
    exact s.status_chat_of_ne_members (fun ms hpayload => hnone ⟨ms, hpayload⟩) h
  rw [chat, hpayload] at h ⊢
  rcases s.answerChat_cases ms with ⟨hresponse, -⟩ | ⟨hfailed, -⟩
  · exact hresponse
  · exact absurd (hfailed.symm.trans h) (by decide)

/-! ### Served bodies -/

/-- A server of the settings **serves** a body where, behind some requests, it answers a chat request with
success and with this body. -/
def Serves (settings : MockServerSettings) (body : List UInt8) : Prop :=
  ∃ (rs : List Http.Request) (r : Http.Request), r.method = "POST" ∧ r.path = "/v1/chat/completions"
    ∧ ((((ofSettings settings).handleAll rs).1.handle r).2.response.status = 200)
    ∧ ((((ofSettings settings).handleAll rs).1.handle r).2.response.body = body)

/-- The bytes of the completion that the settings describe. -/
def servedBody (settings : MockServerSettings) : List UInt8 :=
  Text.Utf8.encode (Chat.Completion.ofSettings settings).text

theorem saysJson_chatRequest (text : String) : (chatRequest text).saysJson = true := by
  have htype : ("content-type".toLower == "content-type".toLower) = true := by decide +kernel
  rw [Http.Request.saysJson, chatRequest, Http.header?_cons, htype, if_pos rfl]
  show (Http.MediaType.ofText "application/json").isJson = true
  decide +kernel

/-- What a chat request with a text carries. -/
theorem chatDocument?_chatRequest {text : String} {ms : List (Str × Json)}
    (hpoints : (Json.pointsOfBytes (Text.Utf8.encode text)).toOption = some (text.toList.map .char))
    (hread : Json.read text = .ok (.object ms)) : chatDocument? (chatRequest text) = some ms :=
  chatDocument?_eq_some.mpr
    ⟨rfl, rfl, saysJson_chatRequest text, Json.readBytes_of_text text hpoints hread⟩

/-- The empty document is answered. -/
theorem serves_servedBody (settings : MockServerSettings) : Serves settings (servedBody settings) := by
  have hdocument : chatDocument? (chatRequest "\x7b\x7d") = some [] :=
    chatDocument?_chatRequest (by decide +kernel) (by cbv)
  refine ⟨[], chatRequest "\x7b\x7d", rfl, rfl, ?_, ?_⟩
  · rw [handle_of_document _ hdocument]
    rfl
  · rw [handle_of_document _ hdocument]
    rfl

/-- **One body.** It is settled by the settings alone, whatever came before and whatever is asked. -/
theorem serves_iff {settings : MockServerSettings} {body : List UInt8} :
    Serves settings body ↔ body = servedBody settings := by
  refine ⟨?_, fun h => h ▸ serves_servedBody settings⟩
  rintro ⟨rs, r, hmethod, hpath, hstatus, rfl⟩
  -- The past has left its requests with the server, but the settings are as they were.
  rw [response_of_success hmethod hpath hstatus, completion, settings_handleAll]
  rfl

/-- The integers of the completion have at most 4000 digits. -/
structure HasShortIntegers (settings : MockServerSettings) : Prop where
  created : settings.responseCreated.natAbs < 10 ^ 4000
  prompt : settings.promptTokens.natAbs < 10 ^ 4000
  completion : settings.completionTokens.natAbs < 10 ^ 4000

variable {settings settings' : MockServerSettings}

theorem HasShortIntegers.exact (h : HasShortIntegers settings) :
    (Chat.Completion.ofSettings settings).toJson.Exact :=
  Chat.Completion.exact_toJson (lt_pow_of_lt h.created (by decide)) (lt_pow_of_lt h.prompt (by decide))
    (lt_pow_of_lt h.completion (by decide))
    (lt_pow_of_lt (natAbs_add_lt h.prompt h.completion) (by decide))

/-- Bodies from which the completion can be read tell completions apart. -/
theorem servedBody_inj (h : HasShortIntegers settings) (h' : HasShortIntegers settings') :
    servedBody settings = servedBody settings'
      ↔ Chat.Completion.ofSettings settings = Chat.Completion.ofSettings settings' := by
  refine ⟨fun hbody => Chat.Completion.toJson_inj.mp ?_, fun hsame => ?_⟩
  · -- Equal bodies are read back as equal documents.
    have hread := Chat.Completion.readBytes_text h.exact
    rw [show Text.Utf8.encode (Chat.Completion.ofSettings settings).text = servedBody settings' from hbody,
      servedBody, Chat.Completion.readBytes_text h'.exact] at hread
    exact (Except.ok.inj hread).symm
  · rw [servedBody, servedBody, hsame]

/-- **The completion is constant and faithful.** A server of any settings has exactly one body that it
serves, whatever its past and whatever the request that it answers.

Let the integers in the settings have at most 4000 digits. Then the text of the body is that of a document
which shows the settings as they are, with the exact sum of the two counts; and two such servers serve equal
bodies just in case their settings agree in what is shown. -/
theorem served_faithful (settings : MockServerSettings) :
    (∃! body, Serves settings body)
      ∧ ∀ body, Serves settings body → HasShortIntegers settings →
          Json.readBytes body = .ok (.object
            [("id", .str settings.responseId), ("object", .str "chat.completion"),
             ("created", .int settings.responseCreated), ("model", .str settings.model),
             ("choices", .array [.object
               [("index", .int 0),
                ("message", .object
                  [("role", .str "assistant"), ("content", .str settings.responseContent)]),
                ("finish_reason", .str "stop")]]),
             ("usage", .object
               [("prompt_tokens", .int settings.promptTokens),
                ("completion_tokens", .int settings.completionTokens),
                ("total_tokens", .int (settings.promptTokens + settings.completionTokens))])])
          ∧ ∀ settings' body', Serves settings' body' → HasShortIntegers settings' →
            (body = body' ↔
              settings.responseId = settings'.responseId
                ∧ settings.responseCreated = settings'.responseCreated
                ∧ settings.model = settings'.model
                ∧ settings.responseContent = settings'.responseContent
                ∧ settings.promptTokens = settings'.promptTokens
                ∧ settings.completionTokens = settings'.completionTokens) := by
  refine ⟨⟨servedBody settings, serves_servedBody settings, fun body h => serves_iff.mp h⟩, ?_⟩
  rintro body hbody hshort
  obtain rfl := serves_iff.mp hbody
  refine ⟨Chat.Completion.readBytes_text hshort.exact, fun settings' body' hbody' hshort' => ?_⟩
  obtain rfl := serves_iff.mp hbody'
  rw [servedBody_inj hshort hshort', Chat.Completion.ofSettings, Chat.Completion.ofSettings,
    Chat.Completion.mk.injEq]

/-- Behind a request on which it fails, a server serves the same body for an empty document and for one with
a message. A server that listens elsewhere serves it too, and one that counts differently serves
another. -/
theorem served_faithful_quoted :
    let settings : MockServerSettings :=
      ⟨"127.0.0.1", 8080, "modèle", "id\"1", -1700000000, "un \"poème\"\n\\ 😀", -5, 7⟩
    let failing := chatRequest "\x7b\"messages\":5\x7d"
    let asking := chatRequest "\x7b\"messages\":[\"hi\"]\x7d"
    let body := (((ofSettings settings).handleAll [failing]).1.handle asking).2.response.body
    Serves settings body
      ∧ Serves settings ((ofSettings settings).handle (chatRequest "\x7b\x7d")).2.response.body
      ∧ body = ((ofSettings settings).handle (chatRequest "\x7b\x7d")).2.response.body
      ∧ HasShortIntegers settings
      ∧ (Json.readBytes body).toOption.bind (·.member? "model") = some (.str "modèle")
      ∧ (∀ body', Serves { settings with host := "0.0.0.0", port := 80 } body' → body = body')
      ∧ ∀ body', Serves { settings with promptTokens := 7, completionTokens := -5 } body' →
          body ≠ body' := by
  intro settings failing asking body
  have hshort : HasShortIntegers settings :=
    ⟨lt_pow_of_lt (by decide : _ < 10 ^ 10) (by decide), lt_pow_of_lt (by decide : _ < 10 ^ 1) (by decide),
      lt_pow_of_lt (by decide : _ < 10 ^ 1) (by decide)⟩
  have hasking : chatDocument? asking = some [(Str.whole "messages", Json.array [.str "hi"])] :=
    chatDocument?_chatRequest (by decide +kernel) (by cbv)
  have hempty : chatDocument? (chatRequest "\x7b\x7d") = some [] :=
    chatDocument?_chatRequest (by decide +kernel) (by cbv)
  -- A request that fails in front of this one does not show in the answer.
  have hserves : Serves settings body := by
    refine ⟨[failing], asking, rfl, rfl, ?_, rfl⟩
    rw [handle_of_document _ hasking]
    rfl
  have hserves' :
      Serves settings ((ofSettings settings).handle (chatRequest "\x7b\x7d")).2.response.body := by
    refine ⟨[], chatRequest "\x7b\x7d", rfl, rfl, ?_, rfl⟩
    show ((ofSettings settings).handle (chatRequest "\x7b\x7d")).2.response.status = 200
    rw [handle_of_document _ hempty]
    rfl
  obtain ⟨hunique, hfaithful⟩ := served_faithful settings
  obtain ⟨hread, hagree⟩ := hfaithful body hserves hshort
  refine ⟨hserves, hserves', hunique.unique hserves hserves', hshort, ?_, fun body' h => ?_,
    fun body' h hsame => ?_⟩
  · rw [hread]
    rfl
  · exact (hagree _ body' h ⟨hshort.created, hshort.prompt, hshort.completion⟩).mpr
      ⟨rfl, rfl, rfl, rfl, rfl, rfl⟩
  -- The two counts are told apart, though their sum is the same.
  · obtain ⟨-, -, -, -, hprompt, -⟩ :=
      (hagree _ body' h ⟨hshort.created, hshort.completion, hshort.prompt⟩).mp hsame
    exact absurd hprompt (by decide)

end MockServer
end ChatProbe

import ChatProbe.Proofs.Chat.Deliveries
/-!
# What a client asks

A client that can ask sends one request below its address (`Client.outgoing_eq_ok`). What the request
carries depends on its content type alone: the fields of a form where it is that of one, else the
document (`Client.content_outgoing`). Without header fields from the caller it is the document
(`Client.outgoing_of_plain`).

With what it is ready to send, a client completes the exchange of a transport: `complete_of_prepared`.
-/

namespace ChatProbe

namespace Text

end Text

/-- The first header of a name is the one that counts. -/
theorem Http.header?_cons (name value key : String) (headers : Http.Headers) :
    Http.header? ((name, value) :: headers) key =
      if name.toLower == key.toLower then some value else Http.header? headers key := by
  rw [Http.header?, List.find?_cons]
  cases name.toLower == key.toLower with
  | true => rfl
  | false => rfl

namespace Chat

open Http (Outgoing)

/-! ### Content types -/

theorem isFormType_append (s : String) : isFormType (formType ++ s) = true := by
  rw [isFormType, String.toList_append]
  exact List.isPrefixOf_iff_prefix.mpr (List.prefix_append _ _)

theorem content_contentFor {contentType : String} (h : isFormType contentType = true) :
    ∃ boundary, (contentFor contentType).2 = .form boundary requestForm := by
  rw [contentFor, if_pos h]
  exact ⟨_, rfl⟩

/-- A request carries a form just where its content type says so. -/
theorem contentFor_cases (contentType : String) :
    (isFormType (contentFor contentType).1 = true
        ∧ ∃ boundary, (contentFor contentType).2 = .form boundary requestForm)
      ∨ (isFormType (contentFor contentType).1 = false
        ∧ (contentFor contentType).2 = .document requestJson) := by
  unfold contentFor
  cases h : isFormType contentType with
  | false => exact .inr ⟨h, rfl⟩
  | true =>
    rw [if_pos rfl, formContent]
    refine .inl ⟨?_, _, rfl⟩
    dsimp only
    split
    -- A type that names its boundary is kept, and one that does not gets it behind the prefix.
    · exact h
    · exact isFormType_append _

namespace Client

variable {c : Client} {r : Outgoing} {t : Transport}

/-- A request that is sent goes below the address of the client, and says what it carries and who
asks. -/
theorem outgoing_eq_ok (h : c.outgoing = .ok r) :
    ∃ (headers : Http.Headers) (url : Url) (authorization : Option String),
      (c.headerFields >>= fun fields => fields.mapM headerField) = .ok headers
        ∧ c.baseUrl.withRawPath (c.baseUrl.rawPath ++ chatPath) = .ok url
        ∧ r = {
          method := "POST", url
          headers := ("content-type", (contentFor ((joined? headers "content-type").getD "")).1)
            :: (authorization.map fun a => ("authorization", a)).toList
          content := (contentFor ((joined? headers "content-type").getD "")).2 } := by
  unfold outgoing at h
  -- The header comes first, then the address; the rest cannot fail.
  obtain ⟨fields, hfields, h⟩ := Outcome.bind_eq_ok.mp h
  obtain ⟨headers, hheaders, h⟩ := Outcome.bind_eq_ok.mp h
  obtain ⟨url, hurl, h⟩ := Outcome.bind_eq_ok.mp h
  exact ⟨headers, url, _, Outcome.bind_eq_ok.mpr ⟨fields, hfields, hheaders⟩,
    Outcome.mapError_eq_ok.mp hurl, (Except.ok.inj h).symm⟩

/-- A client can ask where its header fields and its address can be sent. -/
theorem isOk_outgoing
    (hheaders : (c.headerFields >>= fun fields => fields.mapM headerField).isOk = true)
    (hurl : (c.baseUrl.withRawPath (c.baseUrl.rawPath ++ chatPath)).isOk = true) :
    c.outgoing.isOk = true := by
  obtain ⟨headers, hheaders⟩ := Outcome.isOk_iff.mp hheaders
  obtain ⟨url, hurl⟩ := Outcome.isOk_iff.mp hurl
  obtain ⟨fields, hfields, hheaders⟩ := Outcome.bind_eq_ok.mp hheaders
  rw [outgoing, hfields, hurl]
  show (List.mapM headerField fields >>= _).isOk = true
  rw [hheaders]
  rfl

theorem method_outgoing (h : c.outgoing = .ok r) : r.method = "POST" := by
  obtain ⟨headers, url, authorization, -, -, rfl⟩ := outgoing_eq_ok h
  rfl

/-- **What every client asks.** The content type tells what the request carries: the question as a
document, or as the fields of a form. -/
theorem content_outgoing (h : c.outgoing = .ok r) :
    ∃ contentType, Http.header? r.headers "content-type" = some contentType
      ∧ ((isFormType contentType = true ∧ ∃ boundary, r.content = .form boundary requestForm)
        ∨ (isFormType contentType = false ∧ r.content = .document requestJson)) := by
  obtain ⟨headers, url, authorization, -, -, rfl⟩ := outgoing_eq_ok h
  refine ⟨_, ?_, contentFor_cases _⟩
  rw [Http.header?_cons, beq_self_eq_true, if_pos rfl]

/-! ### Without header fields from the caller -/

theorem optionalField_cases (name : String) (v : Value) :
    optionalField name v = [] ∨ optionalField name v = [(.str name, v)] := by
  cases v with
  | null => exact .inl rfl
  | _ => exact .inr rfl

/-- The names of the fields that may stand behind the content type. -/
def otherNames : List Value :=
  [.str "Authorization", .str "OpenAI-Organization", .str "OpenAI-Project"]

/-- The header fields of a client are its content type and others. -/
theorem headerFields_of_plain {fields : List (Value × Value)} (h : c.headers = .null)
    (hfields : c.headerFields = .ok fields) :
    ∃ others : List (Value × Value),
      fields = (.str "Content-Type", .str "application/json") :: others
        ∧ ∀ f ∈ others, f.1 ∈ otherNames := by
  have hadded : c.addedFields = .ok [] := by
    rw [addedFields, h]
    rfl
  rw [headerFields, hadded] at hfields
  obtain ⟨key, hkey, hfields⟩ := Outcome.bind_eq_ok.mp hfields
  have hkeys : key = [] ∨ ∃ v, key = [(.str "Authorization", v)] := by
    unfold keyField at hkey
    split at hkey
    · obtain ⟨k, -, rfl⟩ := Outcome.map_eq_ok.mp hkey
      exact .inr ⟨_, rfl⟩
    · cases hkey
      exact .inl rfl
  cases hfields
  -- The names differ, so that every field that is there keeps its place.
  rcases hkeys with rfl | ⟨v, rfl⟩ <;>
    rcases optionalField_cases "OpenAI-Organization" c.organization with horganization | horganization <;>
    rcases optionalField_cases "OpenAI-Project" c.project with hproject | hproject <;>
    rw [horganization, hproject] <;>
    exact ⟨_, rfl, by simp [otherNames, Value.insertEntry, Value.sameKey]⟩

/-- None of the other names is that of the content type. -/
theorem name_of_other {f : Value × Value} {field : String × String} (hname : f.1 ∈ otherNames)
    (h : headerField f = .ok field) : field.1 ≠ "content-type" := by
  unfold headerField at h
  obtain ⟨name, hheader, h⟩ := Outcome.bind_eq_ok.mp h
  obtain ⟨value, -, h⟩ := Outcome.bind_eq_ok.mp h
  cases h
  simp only [otherNames, List.mem_cons, List.not_mem_nil, or_false] at hname
  -- Three names are left, and none of them is the content type in lower case.
  rcases hname with hname | hname | hname
  all_goals
    rw [hname] at hheader
    have hlower : name = _ := (Except.ok.inj hheader).symm
    rw [hlower]
    dsimp only
    decide +kernel

/-- **Without header fields from the caller** the request says that it is JSON and carries the
document. -/
theorem outgoing_of_plain (h : c.headers = .null) (hr : c.outgoing = .ok r) :
    Http.header? r.headers "content-type" = some "application/json"
      ∧ r.content = .document requestJson := by
  obtain ⟨headers, url, authorization, hheaders, -, rfl⟩ := outgoing_eq_ok hr
  obtain ⟨fields, hfields, hheaders⟩ := Outcome.bind_eq_ok.mp hheaders
  obtain ⟨others, rfl, hothers⟩ := headerFields_of_plain h hfields
  rw [List.mapM_cons] at hheaders
  obtain ⟨contentType, hcontentType, hheaders⟩ := Outcome.bind_eq_ok.mp hheaders
  obtain ⟨rest, hrest, hheaders⟩ := Outcome.bind_eq_ok.mp hheaders
  cases hheaders
  -- The client puts its own content type in front of all other fields.
  have hfirst : contentType = ("content-type", "application/json") := by
    have hsome : (headerField (.str "Content-Type", .str "application/json")).toOption
        = some ("content-type", "application/json") := by decide +kernel
    rw [hcontentType] at hsome
    exact Option.some.inj hsome
  -- No other field has this name, so nothing is joined to it.
  have hnone : (rest.filter fun field => field.1 == "content-type") = [] := by
    refine List.filter_eq_nil_iff.mpr fun field hfield => ?_
    obtain ⟨f, hf, hname⟩ := Outcome.mem_of_mapM hrest field hfield
    exact fun heq => name_of_other (hothers f hf) hname (eq_of_beq heq)
  have htype : joined? (contentType :: rest) "content-type" = some "application/json" := by
    rw [joined?, hfirst, List.filter_cons, if_pos (beq_self_eq_true _), hnone]
    rfl
  rw [htype, Http.header?_cons, beq_self_eq_true, if_pos rfl]
  exact ⟨rfl, rfl⟩

/-! ### Exchanges -/

theorem prepared_eq_ok {retries : Nat} :
    c.prepared = .ok (retries, r) ↔ c.retries = .ok retries ∧ c.outgoing = .ok r := by
  unfold prepared
  rw [Outcome.bind_eq_ok]
  constructor
  · rintro ⟨n, hn, h⟩
    obtain ⟨request, hrequest, h⟩ := Outcome.bind_eq_ok.mp h
    cases h
    exact ⟨hn, hrequest⟩
  · rintro ⟨hn, hr⟩
    exact ⟨retries, hn, Outcome.bind_eq_ok.mpr ⟨r, hr, rfl⟩⟩

theorem complete_of_refused {e : Failure} (h : c.prepared = .error e) (t : Transport) :
    c.complete t = ⟨t, [], [], .error e⟩ := by
  rw [complete, h]

theorem complete_of_prepared {retries : Nat} (h : c.prepared = .ok (retries, r)) (t : Transport) :
    c.complete t = t.attempt r retries := by
  rw [complete, h]

/-- There is a response only where something was asked. -/
theorem requests_of_result {v : Value} (h : (c.complete t).result = .ok v) :
    (c.complete t).requests ≠ [] := by
  cases hc : c.prepared with
  | error e =>
    rw [complete_of_refused hc] at h
    cases h
  | ok p =>
    obtain ⟨retries, r⟩ := p
    rw [complete_of_prepared hc]
    exact List.ne_nil_of_mem (t.requests_attempt r retries).1

/-- What the exchange of a client comes to was read from a response. -/
theorem exists_response {v : Value} (h : (c.complete t).result = .ok v) :
    ∃ response, Response.read response = .ok v := by
  cases hc : c.prepared with
  | error e =>
    rw [complete_of_refused hc] at h
    cases h
  | ok p =>
    obtain ⟨retries, r⟩ := p
    rw [complete_of_prepared hc] at h
    exact Transport.exists_response h

/-- **An answer of success** to the request of a client is read, and nothing more is sent. -/
theorem complete_of_success {retries : Nat} {service : Service} {log : List Logging.Entry}
    {response : Http.Response} (h : c.prepared = .ok (retries, r))
    (hanswer : t.service.answer r = (service, log, .ok response))
    (hsuccess : response.isSuccess = true) :
    c.complete t = ⟨{ t with service }, [r], log, Response.read response⟩ := by
  have hdeliver : t.deliver r = ⟨service, [r], log, .ok response⟩ :=
    Service.deliver_of_success hanswer hsuccess
  have hsettled : (t.deliver r).asksAgain = false := by
    rw [hdeliver]
    exact asksAgain_of_isSuccess hsuccess
  rw [complete_of_prepared h, Transport.attempt_of_settled hsettled, hdeliver]
  rfl

end Client
end Chat
end ChatProbe

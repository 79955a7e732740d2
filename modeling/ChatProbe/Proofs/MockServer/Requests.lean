import ChatProbe.MockServer.Basic
import ChatProbe.Proofs.Chat.Reading
import ChatProbe.Proofs.Json.Bytes
import ChatProbe.Proofs.Value.Writable
/-!
# What the mock server keeps and answers

The server keeps the documents of its chat requests and nothing else: behind any requests, what it has
kept is what these requests carried, in the order in which they arrived (`MockServer.requests_handleAll`).
Which requests carry a document can be told from the request alone (`chatDocument?`), whatever the server
has seen before.

A document is kept before it is looked at, and the line that is logged for it asks for the number of its
messages. So a document can be kept and its request fail: it is answered with the completion of the
settings exactly where its messages are nothing, or have a length (`MockServer.answers_iff_countable`).

The proofs rest on one list of what a request can lead to, `MockServer.handle_cases`.
-/

namespace ChatProbe

/-- Whether something in the place of the messages can be counted: all but the truth value true and the
numbers other than zero. What counts as nothing has no messages. -/
def Json.countable : Json → Bool
  | .bool b => !b
  | .int i => i == 0
  | .float x => x.isZero
  | _ => true

namespace MockServer

/-- The document that a request carries: one in JSON, to the route of chat requests, that holds an object. -/
def chatDocument? (r : Http.Request) : Option (List (Str × Json)) :=
  if r.method = "POST" ∧ Route.completion.hasPath r.path = true ∧ r.saysJson = true then
    match Json.readBytes r.body with
    | .ok (.object ms) => some ms
    | _ => none
  else none

/-- A chat request in JSON with a text as its body. -/
def chatRequest (text : String) : Http.Request :=
  ⟨"POST", Route.completion.path, "", [("content-type", "application/json")], Text.Utf8.encode text⟩

/-- A server of the settings that hold where nothing is set. -/
def unconfigured : MockServer :=
  ofSettings
    ⟨"127.0.0.1", 8080, "gpt-4o-mini", "chatcmpl-1234", 1677652281,
      "This is a mock response from the server.", 5, 7⟩

variable {s : MockServer} {r : Http.Request} {ms : List (Str × Json)}

theorem chatDocument?_eq_some : chatDocument? r = some ms ↔
    r.method = "POST" ∧ Route.completion.hasPath r.path = true ∧ r.saysJson = true
      ∧ Json.readBytes r.body = .ok (.object ms) := by
  unfold chatDocument?
  -- The conditions on the header hold together or not at all; only then the body is looked at.
  split
  · next h =>
    obtain ⟨hmethod, hpath, hjson⟩ := h
    constructor
    · intro hsome
      refine ⟨hmethod, hpath, hjson, ?_⟩
      split at hsome
      · next ms' hread =>
        rw [hread, Option.some.inj hsome]
      · cases hsome
    · rintro ⟨-, -, -, hread⟩
      rw [hread]
  · next h =>
    constructor
    · intro hnone
      cases hnone
    · rintro ⟨hmethod, hpath, hjson, -⟩
      exact absurd ⟨hmethod, hpath, hjson⟩ h

/-! ### One request -/

theorem hasPath_of_eq {path : String} {route : Route} (h : path = route.path) :
    route.hasPath path = true := by
  rw [Route.hasPath, h, beq_self_eq_true, Bool.true_or]

/-- A path belongs to one route at most. -/
theorem Route.eq_of_hasPath {path : String} {route other : Route} (h : route.hasPath path = true)
    (hother : other.hasPath path = true) : route = other := by
  have hpath : ∀ {route : Route}, route.hasPath path = true →
      path = route.path ∨ path = route.path ++ "\n" := fun h => by
    rwa [Route.hasPath, Bool.or_eq_true, beq_iff_eq, beq_iff_eq] at h
  -- The four texts that belong to a route, the line break included, are those of this route only.
  have hapart : ∀ route other : Route, route ≠ other →
      route.path ≠ other.path ∧ route.path ≠ other.path ++ "\n"
        ∧ route.path ++ "\n" ≠ other.path ∧ route.path ++ "\n" ≠ other.path ++ "\n" := by
    intro route other hne
    cases route <;> cases other <;> first | exact absurd rfl hne | decide +kernel
  by_contra hne
  obtain ⟨hplain, hleft, hright, hboth⟩ := hapart route other hne
  rcases hpath h with rfl | rfl
  · exact (hpath hother).elim hplain hleft
  · exact (hpath hother).elim hright hboth

theorem ofPath?_eq_some {path : String} {route : Route} :
    Route.ofPath? path = some route ↔ route.hasPath path = true := by
  have hfinds : ∀ {route : Route}, Route.ofPath? path = some route → route.hasPath path = true :=
    fun h => List.find?_some (p := fun r : Route => r.hasPath path) h
  refine ⟨hfinds, fun h => ?_⟩
  cases hfound : Route.ofPath? path with
  -- Another route that was found would have the path as well.
  | some other => rw [Route.eq_of_hasPath h (hfinds hfound)]
  | none =>
    have hmem : route ∈ Route.all := by
      cases route with
      | completion | health => decide
    exact absurd h (List.find?_eq_none.mp hfound route hmem)

/-- The payload of a request that is no object is another one. -/
theorem payload_eq_members : payload r = .members ms ↔
    r.saysJson = true ∧ Json.readBytes r.body = .ok (.object ms) := by
  constructor
  · intro h
    unfold payload at h
    -- In the order in which the body is looked at; only the object in JSON has members.
    split at h
    · cases h
    split at h
    · cases h
    · next hjson =>
      rw [Bool.not_eq_true', Bool.not_eq_false] at hjson
      refine ⟨hjson, ?_⟩
      split at h
      · next ms' hread =>
        cases h
        exact hread
      · cases h
      · cases h
      · cases h
      · split at h
        · cases h
        · cases h
  · rintro ⟨hjson, hread⟩
    rw [payload, Json.isEmpty_of_readBytes hread, if_neg Bool.false_ne_true, hjson, hread]
    rfl

/-- A request to the route of chat requests is answered as such. -/
theorem handle_eq_chat (s : MockServer) (hmethod : r.method = "POST")
    (hpath : Route.completion.hasPath r.path = true) : s.handle r = s.chat r := by
  have hroute : Route.ofPath? r.path = some .completion := ofPath?_eq_some.mpr hpath
  rw [handle, hroute]
  exact if_neg (not_not_intro hmethod)

/-- The answer to a document is that of the server, or that of a failure of its own. -/
theorem answerChat_cases (s : MockServer) (ms : List (Str × Json)) :
    ((s.answerChat ms).response = .ofJson 200 s.completion.toJson [] ∧ (s.answerChat ms).failure = none)
      ∨ ((s.answerChat ms).response.status = 500 ∧ ∃ e, (s.answerChat ms).failure = some e) := by
  rw [answerChat]
  cases messageCount ms with
  | ok count => exact .inl ⟨rfl, rfl⟩
  | error e => exact .inr ⟨rfl, e, rfl⟩

/-- What a payload other than an object leads to leaves the server as it was. -/
theorem chat_of_ne_members (s : MockServer) (h : ∀ ms, payload r ≠ .members ms) : (s.chat r).1 = s := by
  rw [chat]
  cases hpayload : payload r with
  | members ms => exact absurd hpayload (h ms)
  | document j | absent | malformed fault | unreadable => rfl
  | bytes bs =>
    dsimp only
    cases Text.Utf8.decode bs with
    | ok text => rfl
    | error fault => rfl

/-- **A request** that carries a document adds it to what is kept and is answered. Any other one leaves
the server as it was. -/
theorem handle_cases (s : MockServer) (r : Http.Request) :
    (∃ ms, chatDocument? r = some ms
        ∧ s.handle r = ({ s with requests := s.requests ++ [ms] }, s.answerChat ms))
      ∨ (chatDocument? r = none ∧ (s.handle r).1 = s) := by
  by_cases hchat : r.method = "POST" ∧ Route.completion.hasPath r.path = true
  · rw [handle_eq_chat s hchat.1 hchat.2]
    cases hdocument : chatDocument? r with
    | some ms =>
      -- A document is kept before it is answered, whatever the answer is.
      obtain ⟨-, -, hread⟩ := chatDocument?_eq_some.mp hdocument
      refine .inl ⟨ms, rfl, ?_⟩
      rw [chat, payload_eq_members.mpr hread]
    | none =>
      refine .inr ⟨rfl, chat_of_ne_members s fun ms hpayload => ?_⟩
      have hsome := chatDocument?_eq_some.mpr ⟨hchat.1, hchat.2, payload_eq_members.mp hpayload⟩
      rw [hdocument] at hsome
      cases hsome
  · -- No other route and no other method touches what is kept.
    refine .inr ⟨?_, ?_⟩
    · rw [chatDocument?, if_neg fun h => hchat ⟨h.1, h.2.1⟩]
    · rw [handle]
      cases hroute : Route.ofPath? r.path with
      | none =>
        dsimp only
        split
        · rfl
        · rfl
      | some route =>
        dsimp only
        split
        · rfl
        · next hmethod =>
          rw [not_not] at hmethod
          cases route with
          | completion => exact absurd ⟨hmethod, ofPath?_eq_some.mp hroute⟩ hchat
          | health => rfl

/-- A document is kept and answered. -/
theorem handle_of_document (s : MockServer) (h : chatDocument? r = some ms) :
    s.handle r = ({ s with requests := s.requests ++ [ms] }, s.answerChat ms) := by
  rcases s.handle_cases r with ⟨ms', hdocument, hhandle⟩ | ⟨hnone, -⟩
  · obtain rfl : ms = ms' := Option.some.inj (h.symm.trans hdocument)
    exact hhandle
  · rw [h] at hnone
    cases hnone

/-- What is kept grows by what the request carries. -/
theorem requests_handle (s : MockServer) (r : Http.Request) :
    (s.handle r).1.requests = s.requests ++ (chatDocument? r).toList := by
  rcases s.handle_cases r with ⟨ms, hdocument, hhandle⟩ | ⟨hnone, hsame⟩
  · rw [hhandle, hdocument]
    rfl
  · rw [hsame, hnone]
    exact (List.append_nil _).symm

/-! ### Many requests -/

theorem handleAll_cons (s : MockServer) (r : Http.Request) (rs : List Http.Request) :
    s.handleAll (r :: rs) =
      (((s.handle r).1.handleAll rs).1, (s.handle r).2 :: ((s.handle r).1.handleAll rs).2) := rfl

theorem handleAll_append_singleton (s : MockServer) (rs : List Http.Request) (r : Http.Request) :
    s.handleAll (rs ++ [r]) =
      (((s.handleAll rs).1.handle r).1, (s.handleAll rs).2 ++ [((s.handleAll rs).1.handle r).2]) := by
  induction rs generalizing s with
  | nil => rfl
  | cons r' rs ih =>
    rw [List.cons_append, handleAll_cons, ih, handleAll_cons]
    rfl

/-- What is kept behind any requests is what was kept before them and what they carry. -/
theorem requests_handleAll_of (s : MockServer) (rs : List Http.Request) :
    (s.handleAll rs).1.requests = s.requests ++ rs.filterMap chatDocument? := by
  -- The first request changes the server that the others come to.
  induction rs generalizing s with
  | nil => exact (List.append_nil _).symm
  | cons r rs ih =>
    calc (s.handleAll (r :: rs)).1.requests
        = ((s.handle r).1.handleAll rs).1.requests := by rw [handleAll_cons]
      _ = (s.handle r).1.requests ++ rs.filterMap chatDocument? := ih (s.handle r).1
      _ = s.requests ++ ((chatDocument? r).toList ++ rs.filterMap chatDocument?) := by
          rw [requests_handle, List.append_assoc]
      _ = s.requests ++ (r :: rs).filterMap chatDocument? := by
          cases hdocument : chatDocument? r with
          | none => rw [List.filterMap_cons_none hdocument]; rfl
          | some ms => rw [List.filterMap_cons_some hdocument]; rfl

/-- **What is kept is exact.** Behind any requests to a server of any settings, what it has kept is the
documents that these requests carried, in their order.

A request that comes next and carries a document adds this document once, whether it is answered with
success or the server then fails. A request that carries none, and every request that is redirected
or refused, leaves the server as it was. -/
theorem requests_handleAll (settings : Settings.MockServerSettings) (rs : List Http.Request)
    (r : Http.Request) :
    let s := ((ofSettings settings).handleAll rs).1
    let t := (s.handle r).1
    let reply := (s.handle r).2
    s.requests = rs.filterMap chatDocument?
      ∧ (ofSettings settings).handleAll (rs ++ [r])
          = (t, ((ofSettings settings).handleAll rs).2 ++ [reply])
      ∧ (∀ ms, chatDocument? r = some ms → t.requests = s.requests ++ [ms]
          ∧ (reply.response.status = 200 ∧ reply.failure = none
            ∨ reply.response.status = 500 ∧ ∃ e, reply.failure = some e))
      ∧ (chatDocument? r = none → t = s)
      ∧ (reply.response.status ∈ [307, 400, 404, 405, 422] → t = s) := by
  intro s t reply
  have hkept : s.requests = rs.filterMap chatDocument? :=
    requests_handleAll_of (ofSettings settings) rs
  refine ⟨hkept, handleAll_append_singleton _ rs r, ?_⟩
  -- What is kept depends on the document alone, so the cases are those of the next request.
  rcases s.handle_cases r with ⟨ms, hdocument, hhandle⟩ | ⟨hnone, hsame⟩
  · have hreply : reply = s.answerChat ms := congrArg Prod.snd hhandle
    have hstatus : reply.response.status = 200 ∧ reply.failure = none
        ∨ reply.response.status = 500 ∧ ∃ e, reply.failure = some e := by
      rw [hreply]
      rcases s.answerChat_cases ms with ⟨hresponse, hfine⟩ | hfailed
      · rw [hresponse]
        exact .inl ⟨rfl, hfine⟩
      · exact .inr hfailed
    refine ⟨fun ms' h => ?_, fun h => ?_, fun h => ?_⟩
    · obtain rfl : ms = ms' := Option.some.inj (hdocument.symm.trans h)
      exact ⟨congrArg (fun p => p.1.requests) hhandle, hstatus⟩
    · rw [hdocument] at h
      cases h
    · -- An answered document is neither redirected nor refused.
      rcases hstatus with ⟨hstatus, -⟩ | ⟨hstatus, -⟩
      · rw [hstatus] at h
        exact absurd h (by decide)
      · rw [hstatus] at h
        exact absurd h (by decide)
  · refine ⟨fun ms h => ?_, fun _ => hsame, fun _ => hsame⟩
    rw [hnone] at h
    cases h

/-- A request that the server fails on is kept, also where a line break ends its path. What is no object
and what goes elsewhere is not kept, and the next document is added behind. -/
theorem requests_handleAll_failing :
    let failing := chatRequest "\x7b\"messages\":true\x7d"
    let rs := [failing, chatRequest "[1]", { failing with path := "/health" },
      { failing with path := "/v1/chat/completions\n" }]
    let r := chatRequest "\x7b\"a\":1,\"a\":2\x7d"
    let s := (unconfigured.handleAll rs).1
    let uncounted : List (Str × Json) := [("messages", .bool true)]
    let next : List (Str × Json) := [("a", .int 2)]
    s.requests = [uncounted, uncounted]
      ∧ (unconfigured.handle failing).2.response.status = 500
      ∧ (s.handle r).1.requests = [uncounted, uncounted, next]
      ∧ (s.handle r).2.response.status = 200 := by
  intro failing rs r s uncounted next
  have huncounted : Json.readBytes failing.body = .ok (.object uncounted) :=
    Json.readBytes_of_text "\x7b\"messages\":true\x7d" (by decide +kernel) (by cbv)
  have hfailing : chatDocument? failing = some uncounted :=
    chatDocument?_eq_some.mpr ⟨rfl, rfl, by decide +kernel, huncounted⟩
  have hbroken : chatDocument? { failing with path := "/v1/chat/completions\n" } = some uncounted :=
    chatDocument?_eq_some.mpr ⟨rfl, by decide +kernel, by decide +kernel, huncounted⟩
  have hlist : chatDocument? (chatRequest "[1]") = none := by
    have hread : Json.readBytes (chatRequest "[1]").body = .ok (.array [.int 1]) :=
      Json.readBytes_of_text "[1]" (by decide +kernel) (by cbv)
    cases hdocument : chatDocument? (chatRequest "[1]") with
    | none => rfl
    | some ms =>
      obtain ⟨-, -, -, hobject⟩ := chatDocument?_eq_some.mp hdocument
      rw [hread] at hobject
      cases hobject
  have helsewhere : chatDocument? { failing with path := "/health" } = none := rfl
  have hnext : chatDocument? r = some next :=
    chatDocument?_eq_some.mpr ⟨rfl, rfl, by decide +kernel,
      Json.readBytes_of_text "\x7b\"a\":1,\"a\":2\x7d" (by decide +kernel) (by cbv)⟩
  -- Of the four requests the first and the last carry a document.
  have hcarried : rs.filterMap chatDocument? = [uncounted, uncounted] := by
    rw [List.filterMap_cons_some hfailing, List.filterMap_cons_none hlist,
      List.filterMap_cons_none helsewhere, List.filterMap_cons_some hbroken]
    rfl
  obtain ⟨hkept, -, hadded, -, -⟩ := requests_handleAll unconfigured.settings rs r
  have hrequests : s.requests = [uncounted, uncounted] := hkept.trans hcarried
  refine ⟨hrequests, ?_, ?_, ?_⟩
  · rw [handle_of_document _ hfailing]
    rfl
  · calc (s.handle r).1.requests = s.requests ++ [next] := (hadded _ hnext).1
      _ = [uncounted, uncounted, next] := by
        rw [hrequests]
        rfl
  · rw [handle_of_document _ hnext]
    rfl

/-! ### Answers -/

/-- What can be counted is nothing or has a length. -/
theorem exists_length_of_countable {j : Json} (h : j.countable = true)
    (htruthy : j.toValue.truthy = true) : ∃ n, j.toValue.length = .ok n := by
  cases j with
  | null => cases htruthy
  | bool b =>
    cases b with
    | false => cases htruthy
    | true => cases h
  | int i =>
    -- Zero counts as nothing.
    obtain rfl : i = 0 := beq_iff_eq.mp h
    cases htruthy
  | float x =>
    have hnot : (!x.isZero) = true := htruthy
    rw [show x.isZero = true from h] at hnot
    cases hnot
  | str text | array xs | object members => exact ⟨_, rfl⟩

/-- What cannot be counted is something without a length. -/
theorem length_of_not_countable {j : Json} (h : j.countable = false) :
    j.toValue.truthy = true
      ∧ j.toValue.length = .error (.misuse (.noLength j.toValue.typeName)) := by
  -- Only truth values and numbers are in question; the rest has a length.
  cases j with
  | null | str | array | object => cases h
  | bool b =>
    cases b with
    | false => cases h
    | true => exact ⟨rfl, rfl⟩
  | int i => exact ⟨congrArg (!·) h, rfl⟩
  | float x => exact ⟨congrArg (!·) h, rfl⟩

theorem exists_messageCount (h : ∀ j, ms.lookup ↑"messages" = some j → j.countable = true) :
    ∃ count, messageCount ms = .ok count := by
  -- Missing messages count as null, which has no messages.
  have hcountable : ((ms.lookup ↑"messages").getD .null).countable = true := by
    cases hmessages : ms.lookup ↑"messages" with
    | none => rfl
    | some j => exact h j hmessages
  unfold messageCount
  dsimp only
  split
  · next htruthy => exact exists_length_of_countable hcountable htruthy
  · exact ⟨0, rfl⟩

theorem messageCount_of_not_countable {j : Json} (hmessages : ms.lookup ↑"messages" = some j)
    (h : j.countable = false) : messageCount ms = .error (.misuse (.noLength j.toValue.typeName)) := by
  obtain ⟨htruthy, hlength⟩ := length_of_not_countable h
  rw [messageCount, hmessages, Option.getD_some, if_pos htruthy]
  exact hlength

/-- **Which documents are answered.** Let a request carry a document to a server of any settings and any
past. What it holds as its model has a text. The request is answered with the completion of the settings, and
the server does not fail, exactly where its messages are missing or countable. Where they are not, the
server fails for want of a length. -/
theorem answers_iff_countable (s : MockServer) (hmethod : r.method = "POST")
    (hpath : r.path = "/v1/chat/completions") (htype : r.saysJson = true)
    (hbody : Json.readBytes r.body = .ok (.object ms)) :
    let reply := (s.handle r).2
    ((ms.lookup ↑"model").getD .null).toValue.text?.isSome = true
      ∧ (reply.response = .ofJson 200 s.completion.toJson [] ∧ reply.failure = none
        ↔ ∀ messages, ms.lookup ↑"messages" = some messages → messages.countable = true)
      ∧ ∀ messages, ms.lookup ↑"messages" = some messages → messages.countable = false →
          reply.response.status = 500
            ∧ reply.failure = some (.misuse (.noLength messages.toValue.typeName)) := by
  intro reply
  have hdocument : chatDocument? r = some ms :=
    chatDocument?_eq_some.mpr ⟨hmethod, hasPath_of_eq hpath, htype, hbody⟩
  have hreply : reply = s.answerChat ms := congrArg Prod.snd (handle_of_document s hdocument)
  have hfails : ∀ messages, ms.lookup ↑"messages" = some messages → messages.countable = false →
      reply = .ofFailure (.misuse (.noLength messages.toValue.typeName)) := by
    intro messages hmessages hcountable
    rw [hreply, answerChat, messageCount_of_not_countable hmessages hcountable]
  -- What was read has a text, since its integers are not too long.
  have hmodel : ((ms.lookup ↑"model").getD .null).WellFormed := by
    cases hlook : ms.lookup (Str.whole "model") with
    | none => trivial
    | some j => exact Json.wellFormed_of_lookup (Json.wellFormed_readBytes hbody).2 hlook
  refine ⟨(Value.isSome_text? _).trans (Json.isOk_print_toValue hmodel),
    ⟨fun hanswered messages hmessages => ?_, fun hcountable => ?_⟩, ?_⟩
  · cases hcountable : messages.countable with
    | true => rfl
    | false =>
      have hfine := hanswered.2
      rw [hfails messages hmessages hcountable] at hfine
      cases hfine
  · obtain ⟨count, hcount⟩ := exists_messageCount hcountable
    rw [hreply, answerChat, hcount]
    exact ⟨rfl, rfl⟩
  · intro messages hmessages hcountable
    rw [hfails messages hmessages hcountable]
    exact ⟨rfl, rfl⟩

/-- Neither a text as the messages nor a list as the model keeps a server from answering. -/
theorem answers_of_text_messages :
    let r := chatRequest "\x7b\"model\":[1],\"messages\":\"hi\"\x7d"
    let reply := (unconfigured.handle r).2
    Json.readBytes r.body = .ok (.object [("model", .array [.int 1]), ("messages", .str "hi")])
      ∧ reply.response = .ofJson 200 unconfigured.completion.toJson []
      ∧ reply.failure = none := by
  intro r reply
  have hbody : Json.readBytes r.body
      = .ok (.object [("model", .array [.int 1]), ("messages", .str "hi")]) :=
    Json.readBytes_of_text "\x7b\"model\":[1],\"messages\":\"hi\"\x7d" (by decide +kernel) (by cbv)
  obtain ⟨-, hanswered, -⟩ :=
    answers_iff_countable unconfigured (r := r) rfl rfl (by decide +kernel) hbody
  refine ⟨hbody, hanswered.mpr fun messages hmessages => ?_⟩
  cases hmessages
  rfl

/-- **A document that is not answered.** The server has the settings that hold where nothing is set, the body
is an object, and the server fails on it for want of the length of a number. -/
theorem unanswered_of_number :
    let r := chatRequest "\x7b\"messages\":5\x7d"
    let reply := (unconfigured.handle r).2
    Settings.MockServerSettings.build .empty [] = .ok unconfigured.settings
      ∧ r.method = "POST" ∧ r.path = "/v1/chat/completions" ∧ r.saysJson = true
      ∧ Json.readBytes r.body = .ok (.object [(Str.whole "messages", Json.int 5)])
      ∧ reply.response.status = 500
      ∧ reply.failure.map Failure.className = some "TypeError"
      ∧ reply.failure.map Failure.message = some "object of type 'int' has no len()" := by
  intro r reply
  have hjson : r.saysJson = true := by decide +kernel
  have hbody : Json.readBytes r.body = .ok (.object [(Str.whole "messages", Json.int 5)]) :=
    Json.readBytes_of_text "\x7b\"messages\":5\x7d" (by decide +kernel) (by cbv)
  have hdocument : chatDocument? r = some [(Str.whole "messages", Json.int 5)] :=
    chatDocument?_eq_some.mpr ⟨rfl, rfl, hjson, hbody⟩
  have hreply : reply = unconfigured.answerChat [(Str.whole "messages", Json.int 5)] :=
    congrArg Prod.snd (handle_of_document unconfigured hdocument)
  rw [hreply]
  exact ⟨rfl, rfl, rfl, hjson, hbody, rfl, rfl, rfl⟩

end MockServer
end ChatProbe

import Mathlib
import ChatProbe.Chat.Exchange
import ChatProbe.Proofs.Outcome
/-!
# What is sent

For one request that is to be delivered, an HTTP client can send more than one. Every request after the
first is one that a response to the request before it asks for (`LeadsTo`), and so it carries the same
or, as a request to get something, nothing (`Continues`). There is no second request where redirects
are not followed, and a bounded number where they are (`Service.deliver_cases` is the step, and
`Service.requests_deliver` the run).

A client repeats deliveries as often as it may (`Transport.requests_attempt`), and stops at the first
that does not ask for another one (`Transport.attempt_of_settled`).
-/

namespace ChatProbe

namespace Http

/-- One of the two methods of a redirected request is the method that it had. -/
theorem redirectedMethod_cases (status : Nat) (method : String) :
    redirectedMethod status method = method ∨ redirectedMethod status method = "GET" := by
  unfold redirectedMethod
  split
  · exact .inr rfl
  · exact .inl rfl

namespace Outgoing

variable {first r next : Outgoing}

/-- The second request is the one that is made where a response sends the first one elsewhere. -/
def LeadsTo (r next : Outgoing) : Prop :=
  ∃ status location, status ∈ redirectStatuses ∧ r.redirected status location = .ok next

/-- A request carries the same as the first one, or is one to get something and carries nothing. -/
def Continues (first r : Outgoing) : Prop :=
  (r.method = first.method ∧ r.content = first.content) ∨ (r.method = "GET" ∧ r.content = .nothing)

/-- **One redirect.** What continues a first request is sent on as something that continues it. -/
theorem LeadsTo.continues (h : r.LeadsTo next) (hr : first.Continues r) : first.Continues next := by
  obtain ⟨status, location, -, hnext⟩ := h
  obtain ⟨url, -, rfl⟩ := Outcome.map_eq_ok.mp hnext
  show (redirectedMethod status r.method = _ ∧ (if _ then _ else _) = _)
    ∨ (redirectedMethod status r.method = _ ∧ (if _ then _ else _) = _)
  -- A redirect that keeps the method keeps the content. One that does not asks to get something, and that
  -- carries nothing whatever was carried before.
  by_cases hmethod : redirectedMethod status r.method = r.method
  · rw [if_pos hmethod, hmethod]
    exact hr
  · rw [if_neg hmethod]
    exact .inr ⟨(redirectedMethod_cases status r.method).resolve_left hmethod, rfl⟩

/-- **A chain of redirects.** Every request in it continues the first one. -/
theorem continues_of_isChain {rest : List Outgoing} (h : (first :: rest).IsChain LeadsTo) :
    ∀ r ∈ first :: rest, first.Continues r :=
  h.induction first.Continues _ (fun _ _ hlead hr => hlead.continues hr) fun _ => .inl ⟨rfl, rfl⟩

end Outgoing
end Http

namespace Chat

open Http (Outgoing)

variable {follows : Bool} {limit : Nat} {s : Service} {t : Transport} {r : Outgoing}

/-! ### Turns -/

/-- A response without a location is the end. -/
theorem Turn.of_eq_done {response : Http.Response} (h : response.location? = none) :
    Turn.of follows r response = .done (.ok response) := by
  rw [Turn.of, h]

/-- Only a response that redirects leads on, and only a client that follows. -/
theorem Turn.leadsTo {response : Http.Response} {next : Outgoing}
    (h : Turn.of follows r response = .onward next) : follows = true ∧ r.LeadsTo next := by
  unfold Turn.of at h
  split at h
  · cases h
  · next location hlocation =>
    split at h
    · cases h
    · next onward hnext =>
      -- The next request is made up in any case, but only sent on where redirects are followed.
      cases follows with
      | false => cases h
      | true =>
        cases h
        unfold Http.Response.location? at hlocation
        split at hlocation
        · next hstatus => exact ⟨rfl, response.status, location, List.elem_iff.mp hstatus, hnext⟩
        · cases hlocation

/-- A response of success redirects nobody. -/
theorem location?_of_isSuccess {response : Http.Response} (h : response.isSuccess = true) :
    response.location? = none := by
  rw [Http.Response.isSuccess, Bool.and_eq_true, decide_eq_true_iff, decide_eq_true_iff] at h
  rw [Http.Response.location?, if_neg]
  intro hstatus
  have hmem : response.status ∈ Http.redirectStatuses := List.elem_iff.mp hstatus
  simp only [Http.redirectStatuses, List.mem_cons, List.not_mem_nil, or_false] at hmem
  omega

/-! ### Deliveries -/

/-- **One step of a delivery.** The request is all that is sent, or a redirect of it is followed while
the limit allows. -/
theorem Service.deliver_cases (follows : Bool) (limit : Nat) (s : Service) (r : Outgoing) :
    (∃ s' log result, s.deliver follows limit r = ⟨s', [r], log, result⟩)
      ∨ ∃ (n : Nat) (s' : Service) (log : List Logging.Entry) (next : Outgoing),
        follows = true ∧ limit = n + 1 ∧ r.LeadsTo next
          ∧ s.deliver follows limit r = (s'.deliver follows n next).after r log := by
  rw [Service.deliver.eq_def]
  rcases s.answer r with ⟨s', log, e | response⟩
  · exact .inl ⟨s', log, _, rfl⟩
  · dsimp only
    cases hturn : Turn.of follows r response with
    | done result => exact .inl ⟨s', log, result, rfl⟩
    | onward next =>
      obtain ⟨hfollows, hlead⟩ := Turn.leadsTo hturn
      cases limit with
      -- The limit is reached: a redirect that would be one too many ends the delivery.
      | zero => exact .inl ⟨s', log, _, rfl⟩
      | succ n => exact .inr ⟨n, s', log, next, hfollows, rfl, hlead, rfl⟩

/-- **What a delivery sends:** the request, and behind it a chain of redirects, none where they are not
followed and a bounded number where they are. -/
theorem Service.requests_deliver (follows : Bool) (limit : Nat) (s : Service) (r : Outgoing) :
    ∃ rest, (s.deliver follows limit r).requests = r :: rest
      ∧ rest.length ≤ (if follows then limit else 0) ∧ (r :: rest).IsChain Outgoing.LeadsTo := by
  -- The induction is on the number of redirects that may still be followed.
  induction limit generalizing s r with
  | zero =>
    rcases Service.deliver_cases follows 0 s r with ⟨s', log, result, h⟩ | ⟨n, -, -, -, -, hn, -⟩
    · exact ⟨[], by rw [h], Nat.zero_le _, .singleton r⟩
    · cases hn
  | succ limit ih =>
    rcases Service.deliver_cases follows (limit + 1) s r
      with ⟨s', log, result, h⟩ | ⟨n, s', log, next, hfollows, hn, hlead, h⟩
    · exact ⟨[], by rw [h], Nat.zero_le _, .singleton r⟩
    · cases hn
      obtain ⟨rest, hrest, hlength, hchain⟩ := ih s' next
      refine ⟨next :: rest, ?_, ?_, .cons_cons hlead hchain⟩
      · rw [h, Delivery.after, hrest]
      · rw [hfollows, if_pos rfl] at hlength ⊢
        exact Nat.succ_le_succ hlength

/-- An answer of success is what a delivery brings. -/
theorem Service.deliver_of_success {s' : Service} {log : List Logging.Entry}
    {response : Http.Response} (h : s.answer r = (s', log, .ok response))
    (hsuccess : response.isSuccess = true) :
    s.deliver follows limit r = ⟨s', [r], log, .ok response⟩ := by
  rw [Service.deliver.eq_def, h]
  dsimp only
  rw [Turn.of_eq_done (location?_of_isSuccess hsuccess)]

/-- Where redirects are followed, a delivery goes on from a response that redirects. -/
theorem Service.deliver_of_redirect {s' : Service} {log : List Logging.Entry}
    {response : Http.Response} {location : String} {next : Outgoing}
    (h : s.answer r = (s', log, .ok response)) (hlocation : response.location? = some location)
    (hnext : r.redirected response.status location = .ok next) :
    s.deliver true (limit + 1) r = (s'.deliver true limit next).after r log := by
  have hturn : Turn.of true r response = .onward next := by
    rw [Turn.of, hlocation]
    dsimp only
    rw [hnext]
    rfl
  rw [Service.deliver.eq_def, h]
  dsimp only
  rw [hturn]

/-- A response of success is not asked for again. -/
theorem asksAgain_of_isSuccess {response : Http.Response} (h : response.isSuccess = true) :
    response.asksAgain = false := by
  rw [Http.Response.asksAgain, h]
  rfl

/-- A delivery that does not ask for another one is the last. -/
theorem Transport.attempt_of_settled (h : (t.deliver r).asksAgain = false) (retries : Nat) :
    t.attempt r retries = .ofDelivery t (t.deliver r) := by
  cases retries with
  | zero => rfl
  | succ n =>
    rw [Transport.attempt]
    exact if_neg (by rw [h]; exact Bool.false_ne_true)

/-- How many requests one delivery can take. -/
def Transport.bound (t : Transport) : Nat := if t.follows then redirectLimit + 1 else 1

/-- **What one delivery sends over a transport.** -/
theorem Transport.requests_deliver (t : Transport) (r : Outgoing) :
    ∃ rest, (t.deliver r).requests = r :: rest ∧ (r :: rest).length ≤ t.bound
      ∧ (r :: rest).IsChain Outgoing.LeadsTo := by
  obtain ⟨rest, hrest, hlength, hchain⟩ := t.service.requests_deliver t.follows redirectLimit r
  refine ⟨rest, hrest, ?_, hchain⟩
  rw [List.length_cons, Transport.bound]
  -- Followed or not, the first request comes on top of the others.
  split at hlength
  · next h =>
    rw [if_pos h]
    exact Nat.succ_le_succ hlength
  · next h =>
    rw [if_neg h]
    exact Nat.succ_le_succ hlength

/-- **What all attempts send.** Each attempt sends a request and its redirects; there are no more than
one attempt and the repetitions. -/
theorem Transport.requests_attempt (t : Transport) (r : Outgoing) (retries : Nat) :
    r ∈ (t.attempt r retries).requests
      ∧ (t.attempt r retries).requests.length ≤ (retries + 1) * t.bound
      ∧ ∀ sent ∈ (t.attempt r retries).requests, r.Continues sent := by
  induction retries generalizing t with
  | zero =>
    obtain ⟨rest, hrest, hlength, hchain⟩ := t.requests_deliver r
    show r ∈ (t.deliver r).requests ∧ (t.deliver r).requests.length ≤ _ ∧ _
    rw [Transport.attempt, Exchange.ofDelivery, hrest]
    exact ⟨List.mem_cons_self, by rwa [Nat.zero_add, Nat.one_mul],
      Outgoing.continues_of_isChain hchain⟩
  | succ n ih =>
    obtain ⟨rest, hrest, hlength, hchain⟩ := t.requests_deliver r
    have hcontinues := Outgoing.continues_of_isChain hchain
    rw [Transport.attempt]
    split
    -- A repeated request is the first one of a new delivery, so the induction hypothesis is for the
    -- service that is left.
    · obtain ⟨-, hmore, hothers⟩ := ih { t with service := (t.deliver r).service }
      show r ∈ (t.deliver r).requests ++ _ ∧ ((t.deliver r).requests ++ _).length ≤ _ ∧ _
      rw [Exchange.after, hrest]
      refine ⟨List.mem_append_left _ List.mem_cons_self, ?_, fun sent hsent => ?_⟩
      · rw [List.length_append, Nat.succ_mul, Nat.add_comm]
        exact Nat.add_le_add hmore hlength
      · rcases List.mem_append.mp hsent with h | h
        · exact hcontinues sent h
        · exact hothers sent h
    · show r ∈ (t.deliver r).requests ∧ (t.deliver r).requests.length ≤ _ ∧ _
      rw [Exchange.ofDelivery, hrest]
      exact ⟨List.mem_cons_self, hlength.trans (Nat.le_mul_of_pos_left _ (Nat.succ_pos _)),
        hcontinues⟩

/-- What an exchange comes to was read from a response. -/
theorem Transport.exists_response {retries : Nat} {v : Value}
    (h : (t.attempt r retries).result = .ok v) : ∃ response, Response.read response = .ok v := by
  -- Whichever delivery is the last one, its response is what was read.
  have hlast : ∀ t : Transport, (Exchange.ofDelivery t (t.deliver r)).result = .ok v →
      ∃ response, Response.read response = .ok v := by
    intro t h
    obtain ⟨response, -, hread⟩ := Outcome.bind_eq_ok.mp h
    exact ⟨response, hread⟩
  induction retries generalizing t with
  | zero => exact hlast t h
  | succ n ih =>
    rw [Transport.attempt] at h
    split at h
    · exact ih h
    · exact hlast t h

end Chat
end ChatProbe

import ChatProbe.Failure.Basic
import ChatProbe.Http.Outgoing
import ChatProbe.MockServer.Basic
/-!
# Transports

A `Service` answers requests: always in the same way, as a mock server, or in one way once and as
another service from then on. A `Transport` is the HTTP client in front of a service. It may follow
redirects, and then more than one request can be sent for one that is to be delivered
(`Transport.deliver`); the `Delivery` says which.
-/

namespace ChatProbe
namespace Chat

/-- What comes back for a request: a response, or nothing, in time or not. -/
inductive Answer where
  | response (r : Http.Response)
  | broken (timedOut : Bool)

/-- The response of an answer. -/
def Answer.result : Answer → Except Failure Http.Response
  | response r => .ok r
  | broken timedOut => .error (if timedOut then .timedOut else .disconnected)

/-- What answers requests. -/
inductive Service where
  | always (a : Answer)
  | server (s : MockServer)
  | once (a : Answer) (rest : Service)

namespace Service

/-- Answer a request. A mock server that fails closes the connection. -/
def answer (s : Service) (r : Http.Outgoing) :
    Service × List Logging.Entry × Except Failure Http.Response :=
  match s with
  | always a => (always a, [], a.result)
  | server s =>
    let (s, reply) := s.handle r.received
    (server s, reply.log,
      if reply.failure.isSome then .error .disconnected else .ok reply.response)
  | once a rest => (rest, [], a.result)

/-- The documents that the mock server in the end keeps. -/
def kept : Service → List (List (Str × Json))
  | always _ => []
  | server s => s.requests
  | once _ rest => rest.kept

end Service

/-- What became of a request: all that were sent for it, what was logged on the way, and what came
back in the end. -/
structure Delivery where
  service : Service
  requests : List Http.Outgoing
  log : List Logging.Entry
  result : Except Failure Http.Response

/-- A delivery with a request in front that was sent before. -/
def Delivery.after (r : Http.Outgoing) (log : List Logging.Entry) (d : Delivery) : Delivery :=
  { d with requests := r :: d.requests, log := log ++ d.log }

/-- What an HTTP client does with what came back: it is done, or goes on with another request. -/
inductive Turn where
  | done (result : Except Failure Http.Response)
  | onward (next : Http.Outgoing)

/-- The turn that a response makes. The next request is always made up, so that a location that
cannot be read fails, but it is sent only where redirects are followed. -/
def Turn.of (follows : Bool) (r : Http.Outgoing) (response : Http.Response) : Turn :=
  match response.location? with
  | none => done (.ok response)
  | some location =>
    match r.redirected response.status location with
    | .error _ => done (.error .disconnected)
    | .ok next => if follows then onward next else done (.ok response)

/-- Send a request to a service, and follow its redirects up to a limit. -/
def Service.deliver (follows : Bool) (limit : Nat) (s : Service) (r : Http.Outgoing) : Delivery :=
  match s.answer r with
  | (s, log, .error e) => ⟨s, [r], log, .error e⟩
  | (s, log, .ok response) =>
    match Turn.of follows r response, limit with
    | .done result, _ => ⟨s, [r], log, result⟩
    -- One redirect too many is a failure, and its request is not sent.
    | .onward _, 0 => ⟨s, [r], log, .error .disconnected⟩
    | .onward next, limit + 1 => (s.deliver follows limit next).after r log

/-- How many redirects are followed one after the other. -/
def redirectLimit : Nat := 20

/-- What carries requests and brings responses. -/
structure Transport where
  service : Service
  /-- Whether redirects are followed. -/
  follows : Bool

namespace Transport

/-- A transport that brings the same response every time. -/
abbrev fixed (response : Http.Response) : Transport := ⟨.always (.response response), false⟩

/-- A transport that brings no response. -/
abbrev broken (timedOut : Bool) : Transport := ⟨.always (.broken timedOut), false⟩

/-- The transport to a mock server. -/
abbrev server (s : MockServer) : Transport := ⟨.server s, false⟩

/-- Deliver a request. -/
def deliver (t : Transport) (r : Http.Outgoing) : Delivery :=
  t.service.deliver t.follows redirectLimit r

/-- The documents that a mock server behind the transport keeps. -/
def kept (t : Transport) : List (List (Str × Json)) := t.service.kept

end Transport
end Chat
end ChatProbe

import ChatProbe.Chat.Request
import ChatProbe.Chat.Response
import ChatProbe.Chat.Transport
/-!
# Exchanges with the service

`Client.complete` delivers the request of the probe over a transport and reads what comes back. A
delivery without a response, and one with a response that asks for it (`Response.asksAgain`), is
repeated as often as the client allows. The `Exchange` says what was sent, what was logged on the
way and what the outcome is.
-/

namespace ChatProbe

/-- Whether a response that is no success asks for another attempt: as it says itself, else by its
status. -/
def Http.Response.asksAgain (r : Http.Response) : Bool :=
  !r.isSuccess &&
    match Http.header? r.headers "x-should-retry" with
    | some "true" => true
    | some "false" => false
    | _ => [408, 409, 429].contains r.status || 500 ≤ r.status

namespace Chat

/-- What a request leads to. -/
structure Exchange where
  transport : Transport
  requests : List Http.Outgoing
  log : List Logging.Entry
  result : Except Failure Value

/-- The exchange that ends with a delivery. -/
def Exchange.ofDelivery (t : Transport) (d : Delivery) : Exchange :=
  ⟨{ t with service := d.service }, d.requests, d.log, d.result >>= Response.read⟩

/-- An exchange with a delivery in front that was made before. -/
def Exchange.after (d : Delivery) (e : Exchange) : Exchange :=
  { e with requests := d.requests ++ e.requests, log := d.log ++ e.log }

/-- Whether a delivery is repeated where it may be. -/
def Delivery.asksAgain (d : Delivery) : Bool :=
  match d.result with
  | .error _ => true
  | .ok r => r.asksAgain

/-- Deliver a request, and repeat this up to a limit. -/
def Transport.attempt (t : Transport) (r : Http.Outgoing) : Nat → Exchange
  | 0 => .ofDelivery t (t.deliver r)
  | retries + 1 =>
    let d := t.deliver r
    if d.asksAgain then ((Transport.attempt { t with service := d.service } r retries)).after d
    else .ofDelivery t d

/-- Ask for a completion. -/
def Client.complete (c : Client) (t : Transport) : Exchange :=
  match c.prepared with
  | .error e => ⟨t, [], [], .error e⟩
  | .ok (retries, r) => t.attempt r retries

end Chat
end ChatProbe

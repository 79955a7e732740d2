import ChatProbe.Http.Message
import ChatProbe.Text.Base64
import ChatProbe.Url.Join
/-!
# Requests to be sent

An `Outgoing` request carries its `Content` to an address. A server sees it as a `Request`: the
path with its escapes resolved, the query, and the bytes of the content (`Outgoing.received`).

A response can send a request elsewhere (`Response.location?`), and `Outgoing.redirected` is the
request that an HTTP client then makes. Some of these statuses turn it into a request to get
something, which carries nothing, and who asks is not told to another server.
-/

namespace ChatProbe
namespace Http

/-- What a request carries. -/
inductive Content where
  | nothing
  | document (j : Json)
  /-- The fields of a form, each behind a boundary. -/
  | form (boundary : String) (fields : List (String × String))
deriving Repr

namespace Content

/-- A field of a form behind its boundary. -/
def fieldText (boundary : String) (field : String × String) : String :=
  "--" ++ boundary ++ "\r\nContent-Disposition: form-data; name=\"" ++ field.1 ++ "\"\r\n\r\n"
    ++ field.2 ++ "\r\n"

/-- The bytes of a content. -/
def bytes : Content → List UInt8
  | nothing => []
  | document j => Text.Utf8.encode (j.write .compact)
  | form boundary fields =>
    Text.Utf8.encode (String.join (fields.map (fieldText boundary)) ++ "--" ++ boundary ++ "--\r\n")

end Content

/-- A request for an address, with what it carries. -/
structure Outgoing where
  method : String
  url : Url
  headers : Headers
  content : Content
deriving Repr

/-- The request as the server at the address sees it. -/
def Outgoing.received (r : Outgoing) : Request where
  method := r.method
  path := Text.Percent.decode r.url.path
  query := r.url.query.getD ""
  headers := ("host", r.url.host) :: r.headers
  body := r.content.bytes

/-- A name and a password as a proof of who asks. -/
def basicCredentials (name password : String) : String :=
  "Basic " ++ String.ofList (Text.Base64.encode (Text.Utf8.encode (name ++ ":" ++ password)))

/-- The credentials that the user information of an address gives: a name and, behind a colon, a
password, both with percent escapes. -/
def credentialsOf? (u : Url) : Option String :=
  if u.userInfo.isEmpty then none
  else
    let (name, password) := u.userInfo.toList.span (· != ':')
    let name := Text.Percent.decode (String.ofList name)
    let password := Text.Percent.decode (String.ofList (password.drop 1))
    if name.isEmpty && password.isEmpty then none else some (basicCredentials name password)

/-! ### Redirects -/

/-- The statuses that send a request elsewhere. -/
def redirectStatuses : List Nat := [301, 302, 303, 307, 308]

/-- Where a response sends its request. -/
def Response.location? (r : Response) : Option String :=
  if redirectStatuses.contains r.status then header? r.headers "location" else none

/-- The method with which a redirected request goes on. -/
def redirectedMethod (status : Nat) (method : String) : String :=
  -- As browsers do it, not as the statuses are defined.
  if (status = 302 ∨ status = 303) ∧ method ≠ "HEAD" ∨ status = 301 ∧ method = "POST" then "GET"
  else method

namespace Outgoing

/-- The address to which a request is sent on. What the location leaves out, the fragment too, comes
from the address so far. -/
def redirectedUrl (r : Outgoing) (location : String) : Except Url.Problem Url := do
  let url ← Url.ofText location
  -- A scheme without a host keeps the host so far.
  let url ← if !url.scheme.isEmpty && url.host.isEmpty then url.withHost r.url.host else pure url
  let url ← if url.isRelative then r.url.join url else pure url
  return if (url.fragment.getD "").isEmpty && !(r.url.fragment.getD "").isEmpty then
      { url with fragment := r.url.fragment }
    else url

/-- The headers that go on to another address. -/
def redirectedHeaders (r : Outgoing) (url : Url) : Headers :=
  if r.url.isSameOrigin url || r.url.isSecuredBy url then r.headers
  -- Credentials do not go to a stranger.
  else r.headers.filter fun h => h.1 != "authorization"

/-- The request that is made where a response sends one elsewhere. -/
def redirected (r : Outgoing) (status : Nat) (location : String) :
    Except Url.Problem Outgoing :=
  (r.redirectedUrl location).map fun url =>
    let method := redirectedMethod status r.method
    { method, url
      headers := r.redirectedHeaders url
      -- What was carried is dropped together with the method that carried it.
      content := if method = r.method then r.content else .nothing }

end Outgoing
end Http
end ChatProbe

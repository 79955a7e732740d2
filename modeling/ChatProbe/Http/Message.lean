import ChatProbe.Json.Writer
import ChatProbe.Text.Blank
import ChatProbe.Text.Percent
/-!
# HTTP messages

Requests and responses as values: a method, a path with its query, headers, and a body of bytes.
Header names agree up to letter case. A `MediaType` is the part of a content type in front of its
parameters; a text that names no type and subtype counts as plain text.
-/

namespace ChatProbe
namespace Http

/-- Header fields in order. -/
abbrev Headers := List (String × String)

/-- The first value of a header. -/
def header? (headers : Headers) (name : String) : Option String :=
  (headers.find? fun h => h.1.toLower == name.toLower).map (·.2)

/-- A request. -/
structure Request where
  method : String
  path : String
  /-- What stands behind the question mark. -/
  query : String
  headers : Headers
  body : List UInt8
deriving Repr

/-- A response. -/
structure Response where
  status : Nat
  headers : Headers
  body : List UInt8
deriving DecidableEq, Repr

/-- A type of content. -/
structure MediaType where
  main : String
  sub : String
deriving DecidableEq, Repr

namespace MediaType

/-- Text without further structure. -/
def plainText : MediaType := ⟨"text", "plain"⟩

/-- The type that a content-type header names. -/
def ofText (s : String) : MediaType :=
  let name := (Text.trimList Text.isBlank (s.toList.takeWhile (· != ';'))).map Char.toLower
  match name.span (· != '/') with
  | (main, _ :: sub) =>
    if sub.contains '/' then plainText else ⟨String.ofList main, String.ofList sub⟩
  | _ => plainText

/-- Whether content of this type is JSON, possibly with further rules. -/
def isJson (t : MediaType) : Bool :=
  t.main == "application" && (t.sub == "json" || t.sub.endsWith "+json")

end MediaType

/-- Whether a request says that its body is JSON. -/
def Request.saysJson (r : Request) : Bool :=
  match header? r.headers "content-type" with
  | some t => (MediaType.ofText t).isJson
  | none => false

namespace Response

/-- The name of the character set that a content type asks for. -/
def charsetOf? (contentType : String) : Option String :=
  (contentType.splitOn ";").tail.findSome? fun parameter =>
    match parameter.toList.span (· != '=') with
    | (name, _ :: value) =>
      if (Text.trimList Text.isBlank name).map Char.toLower = "charset".toList then
        let value := Text.trimList (· == '"') (Text.trimList Text.isBlank value)
        some (String.ofList (value.map Char.toLower))
      else none
    | _ => none

/-- The names of the character set whose code points are bytes. -/
def byteCharsets : List String := ["iso-8859-1", "iso8859-1", "latin-1", "latin1", "l1", "cp819"]

/-- The text of a response: in the named character set, and in UTF-8 where none or an unknown one
is named; bytes that mean nothing are replaced. -/
def text (r : Response) : String :=
  match (header? r.headers "content-type").bind charsetOf? with
  | some name =>
    if byteCharsets.contains name then Text.decodeLatin1 r.body
    else Text.Utf8.decodeLossy r.body
  | none => Text.Utf8.decodeLossy r.body

/-- Whether the content type ends like the one of JSON, parameters left aside. -/
def saysJson (r : Response) : Bool :=
  match header? r.headers "content-type" with
  | some t => (String.ofList (t.toList.takeWhile (· != ';'))).endsWith "json"
  | none => false

/-- Whether the status is one of success. -/
def isSuccess (r : Response) : Bool := 200 ≤ r.status && r.status < 300

/-- A response with a body of the given content type and its length. -/
def ofText (status : Nat) (contentType text : String) (more : Headers) : Response :=
  let body := Text.Utf8.encode text
  ⟨status, [("content-length", toString body.length), ("content-type", contentType)] ++ more, body⟩

/-- A response that holds a document. -/
def ofJson (status : Nat) (j : Json) (more : Headers) : Response :=
  ofText status "application/json" (j.write .compact) more

@[simp] theorem status_ofJson (status : Nat) (j : Json) (more : Headers) :
    (ofJson status j more).status = status := rfl

@[simp] theorem body_ofJson (status : Nat) (j : Json) (more : Headers) :
    (ofJson status j more).body = Text.Utf8.encode (j.write .compact) := rfl

end Response

/-- Characters that stand for themselves in an address. -/
def isAddressChar (c : Char) : Bool :=
  c.isAlphanum || "_.-~:/%#?=@[]!$&'()*+,;".toList.contains c

/-- A text as an address, with every other character written by percent escapes. -/
def addressText (s : String) : String :=
  String.ofList (Text.Percent.encodeList isAddressChar s.toList)

end Http
end ChatProbe

import ChatProbe.Chat.Client
import ChatProbe.Chat.Message
import ChatProbe.Http.Outgoing
/-!
# The request of a client

Every client asks the same: the prompt of one user, for one model (`requestJson`). The header says
who asks and that the content is JSON; a caller can add fields of its own and put them in the place
of others (`Client.headerFields`). Where the content type that comes out is that of a form, the
request carries the same as the fields of a form (`contentFor`).

`Client.prepared` is the request together with the number of times that it may be repeated.
-/

namespace ChatProbe
namespace Chat

/-- The document of a request: the prompt, for the model. -/
def requestJson : Json :=
  .object
    [("messages", .array [.object [("role", .str "user"), ("content", .str poemPrompt)]]),
     ("model", .str requestModel)]

/-- The same as the fields of a form. -/
def requestForm : List (String × String) :=
  [("messages[][role]", "user"), ("messages[][content]", poemPrompt), ("model", requestModel)]

/-! ### Header fields -/

/-- A text in a header, which holds ASCII only. -/
def headerText (s : Str) : Except Failure String :=
  match Text.Encoding.ascii.refusal? s with
  | some r => .error (.unencodable r)
  | none => .ok s.mended

/-- The name of a header field, in lower case. -/
def headerName : Value → Except Failure String
  | .str s => (headerText s).map String.toLower
  | .bytes bs => .ok (Text.decodeLatin1 bs).toLower
  | v => .error (.misuse (.noAttribute v.typeName "encode"))

/-- The value of a header field. -/
def headerValue : Value → Except Failure String
  | .str s => headerText s
  | .bytes bs => .ok (Text.decodeLatin1 bs)
  | v => .error (.misuse (.headerType v.typeName))

/-- A header field as it is sent. -/
def headerField (field : Value × Value) : Except Failure (String × String) := do
  let name ← headerName field.1
  let value ← headerValue field.2
  return (name, value)

/-- All values under a name together. -/
def joined? (headers : Http.Headers) (name : String) : Option String :=
  match (headers.filter fun h => h.1 == name).map (·.2) with
  | [] => none
  | values => some (String.intercalate ", " values)

/-! ### Forms -/

/-- The content type of forms. -/
def formType : String := "multipart/form-data"

/-- Stands for the boundary that is drawn at random where a content type names none. -/
def drawnBoundary : String := String.ofList (List.replicate 32 '0')

/-- Whether characters stand somewhere among others. -/
def standsIn (part : List Char) : List Char → Bool
  | [] => part.isEmpty
  | c :: cs => part.isPrefixOf (c :: cs) || standsIn part cs

/-- The boundary that a content type names. -/
def boundaryOf? (contentType : String) : Option String :=
  (Url.splitChars (· == ';') contentType.toList).findSome? fun piece =>
    let parameter := Text.trimList Text.isBlank piece
    if "boundary=".toList.isPrefixOf (parameter.map Char.toLower) then
      some (String.ofList (Text.trimList (· == '"') (parameter.drop 9)))
    else none

/-- Whether a content type is that of a form. -/
def isFormType (contentType : String) : Bool := formType.toList.isPrefixOf contentType.toList

/-- What a form is sent as, and the content type under which this is done. A content type that does
not speak of a boundary is replaced by one that does. -/
def formContent (contentType : String) : String × Http.Content :=
  let boundary := (boundaryOf? contentType).getD drawnBoundary
  -- The word alone is looked for, wherever it stands.
  (if standsIn "boundary".toList contentType.toList then contentType
    else formType ++ ("; boundary=" ++ boundary),
   .form boundary requestForm)

/-- What a request with a content type carries, and the content type under which it is sent. -/
def contentFor (contentType : String) : String × Http.Content :=
  if isFormType contentType then formContent contentType else (contentType, .document requestJson)

namespace Client

/-- The field that shows the key. -/
def keyField (c : Client) : Except Failure (List (Value × Value)) :=
  if c.apiKey.truthy then
    c.apiKey.text.map fun k => [(.str "Authorization", .str ("Bearer " ++ k))]
  else .ok []

/-- The fields that the caller adds. -/
def addedFields (c : Client) : Except Failure (List (Value × Value)) :=
  match c.headers with
  | .dict fields => .ok fields
  | v => if v.truthy then .error (.misuse (.notMapping v.typeName)) else .ok []

/-- A field that is left out where there is nothing to say. -/
def optionalField (name : String) : Value → List (Value × Value)
  | .null => []
  | v => [(.str name, v)]

/-- The header fields: those of the client, and those of its caller in their place. -/
def headerFields (c : Client) : Except Failure (List (Value × Value)) := do
  let key ← c.keyField
  let added ← c.addedFields
  -- The fields of the caller are written twice: before the optional ones and once more over them.
  return Value.entriesOf
    ((.str "Content-Type", .str "application/json") :: key ++ added
      ++ optionalField "OpenAI-Organization" c.organization
      ++ optionalField "OpenAI-Project" c.project ++ added)

/-- The path of chat requests below the address of the service. -/
def chatPath : String := "chat/completions"

/-- The request that the client sends. Credentials in the address say who asks, else the header. -/
def outgoing (c : Client) : Except Failure Http.Outgoing := do
  -- The headers are checked before the address is made.
  let headers ← (← c.headerFields).mapM headerField
  let url ← (c.baseUrl.withRawPath (c.baseUrl.rawPath ++ chatPath)).mapError .url
  let (contentType, content) := contentFor ((joined? headers "content-type").getD "")
  let authorization := Http.credentialsOf? c.baseUrl <|> joined? headers "authorization"
  return {
    method := "POST", url
    headers := ("content-type", contentType)
      :: (authorization.map fun a => ("authorization", a)).toList
    content }

/-- How often a request is repeated. -/
def retries (c : Client) : Except Failure Nat :=
  match c.maxRetries with
  -- A float can be added to but not counted up to.
  | .float _ => .error (.misuse (.notInteger "float"))
  | v =>
    match v.toInt? with
    | none => .error (.misuse (.notSummable v.typeName))
    | some n => if n < 0 then .error .unattempted else .ok n.toNat

/-- How often the client repeats its request, and the request. -/
def prepared (c : Client) : Except Failure (Nat × Http.Outgoing) := do
  let retries ← c.retries
  let request ← c.outgoing
  return (retries, request)

end Client
end Chat
end ChatProbe

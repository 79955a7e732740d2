import ChatProbe.Failure.Raised
import ChatProbe.Json.Reader
import ChatProbe.Settings.Problem
import ChatProbe.Template.Basic
import ChatProbe.Text.Encoding
import ChatProbe.Url.Basic
/-!
# Failures

Everything that can end a call early is a `Failure`, by its cause. A failure has a class name
(`Failure.className`), a message (`Failure.message`) and, where a server answered with an error
status, that status (`Failure.status?`). Class names are part of the program's output: spans
carry them as the attribute `error.type`.
-/

namespace ChatProbe

/-- A value used as what it is not. -/
inductive Misuse where
  | notIterable (type : String)
  | noLength (type : String)
  | notSubscriptable (type : String)
  | noAttribute (type name : String)
  | attributeNameType (type : String)
  | missingKey (key : Value)
  | notOrdered (left right : String)
  | entryLength (index length : Nat)
  | entryNotSequence (index : Nat)
  | keyNotText (type : String)
  | repeatedArgument (function argument : String)
  | unhashable (type : String)
  | unknownArgument (function argument : String)
  | notAddress (type literal : String)
  | headerType (type : String)
  | notMapping (type : String)
  | notInteger (type : String)
  | notSummable (type : String)
deriving Repr

/-- Why a call ended early. -/
inductive Failure where
  | misuse (m : Misuse)
  | template (p : Template.Problem)
  | undecodable (fault : Text.Utf8.Fault)
  | undecodableUnits (fault : Text.Units.Fault)
  | json (fault : Json.Fault)
  | settings (title : String) (faults : List Settings.Fault)
  | settingsSource (field source : String)
  | unknownLevel (literal : String)
  | levelType (text : String)
  | noLevelName (name : String)
  | missingCredentials
  | missingRetryLimit
  /-- A client that makes no attempt at all. -/
  | unattempted
  | url (p : Url.Problem)
  | timedOut
  | disconnected
  | status (code : Nat) (message : Str)
  | countLimit (name text : String)
  | nonFiniteJson
  | unencodable (refusal : Text.Refusal)
  /-- A document whose text holds half a surrogate pair, where it is to be encoded. -/
  | tornJson
  /-- A value that cannot be printed. -/
  | unprintable (complaint : Complaint)
  | zeroByte
  | variableName
  | emptyVariableName
  | raised (e : Raised)
deriving Repr

namespace Misuse

/-- The class name of a misuse. -/
def className : Misuse → String
  | .noAttribute .. => "AttributeError"
  | .missingKey _ => "KeyError"
  | .entryLength .. => "ValueError"
  | _ => "TypeError"

/-- The wording of a misuse. -/
def message : Misuse → String
  | .notIterable t => "'" ++ t ++ "' object is not iterable"
  | .noLength t => "object of type '" ++ t ++ "' has no len()"
  | .notSubscriptable t => "'" ++ t ++ "' object is not subscriptable"
  | .noAttribute t name => "'" ++ t ++ "' object has no attribute '" ++ name ++ "'"
  | .attributeNameType t => "attribute name must be string, not '" ++ t ++ "'"
  | .missingKey k => (k.literal.toOption).getD ""
  | .notOrdered l r => "'<' not supported between instances of '" ++ l ++ "' and '" ++ r ++ "'"
  | .entryLength i n =>
    "dictionary update sequence element #" ++ toString i ++ " has length " ++ toString n
      ++ "; 2 is required"
  | .entryNotSequence i =>
    "cannot convert dictionary update sequence element #" ++ toString i ++ " to a sequence"
  | .keyNotText t => "keys must be str, int, float, bool or None, not " ++ t
  | .repeatedArgument f a => f ++ "() got multiple values for argument '" ++ a ++ "'"
  | .unhashable t => "unhashable type: '" ++ t ++ "'"
  | .unknownArgument f a => f ++ "() got an unexpected keyword argument '" ++ a ++ "'"
  | .notAddress t literal =>
    "Invalid type for url.  Expected str or httpx.URL, got <class '" ++ t ++ "'>: " ++ literal
  | .headerType t => "Header value must be str or bytes, not <class '" ++ t ++ "'>"
  | .notMapping t => "'" ++ t ++ "' object is not a mapping"
  | .notInteger t => "'" ++ t ++ "' object cannot be interpreted as an integer"
  | .notSummable t =>
    if ["str", "list", "tuple"].contains t then
      "can only concatenate " ++ t ++ " (not \"int\") to " ++ t
    else if t == "bytes" then "can't concat int to bytes"
    else "unsupported operand type(s) for +: '" ++ t ++ "' and 'int'"

end Misuse

namespace Template.Problem

/-- The class name of a template problem. -/
def className : Template.Problem → String
  | .incomplete | .incompleteName | .unsupported .. | .nanToInteger | .widthTooLarge
  | .precisionTooLarge => "ValueError"
  | .characterRange | .infinityToInteger | .integerTooLarge | .amountTooLarge _ => "OverflowError"
  | .missingName _ => "KeyError"
  | .unprintable c => c.className
  | _ => "TypeError"

/-- The wording of a template problem. -/
def message : Template.Problem → String
  | .tooFewArguments => "not enough arguments for format string"
  | .tooManyArguments => "not all arguments converted during string formatting"
  | .mappingNeeded => "format requires a mapping"
  | .incomplete => "incomplete format"
  | .incompleteName => "incomplete format key"
  | .unsupported p i =>
    let shown := if 31 ≤ p.value ∧ p.value < 126 then p.mended else '?'
    "unsupported format character '" ++ shown.toString ++ "' (0x"
      ++ String.ofList (Nat.toDigits 16 p.value) ++ ") at index " ++ toString i
  | .numberNeeded c t => "%" ++ c.toString ++ " format: a real number is required, not " ++ t
  | .integerNeeded c t => "%" ++ c.toString ++ " format: an integer is required, not " ++ t
  | .realNeeded t => "must be real number, not " ++ t
  | .starNeedsInteger => "* wants int"
  | .characterNeeded => "%c requires int or char"
  | .characterRange => "%c arg not in range(0x110000)"
  | .infinityToInteger => "cannot convert float infinity to integer"
  | .nanToInteger => "cannot convert float NaN to integer"
  | .integerTooLarge => "int too large to convert to float"
  | .widthTooLarge => "width too big"
  | .precisionTooLarge => "precision too big"
  | .amountTooLarge t => "Python int too large to convert to C " ++ t
  | .missingName name => Text.quotedStr name
  | .unprintable c => c.message

end Template.Problem

namespace Failure

/-- The class name of an error status. -/
def statusClass (code : Nat) : String :=
  if code = 400 then "BadRequestError"
  else if code = 401 then "AuthenticationError"
  else if code = 403 then "PermissionDeniedError"
  else if code = 404 then "NotFoundError"
  else if code = 409 then "ConflictError"
  else if code = 422 then "UnprocessableEntityError"
  else if code = 429 then "RateLimitError"
  else if 500 ≤ code then "InternalServerError"
  else "APIStatusError"

/-- The class name of a failure. -/
def className : Failure → String
  | .misuse m => m.className
  | .template p => p.className
  | .undecodable _ | .undecodableUnits _ => "UnicodeDecodeError"
  | .json f => match f.problem with
    | .longInteger _ => "ValueError"
    | _ => "JSONDecodeError"
  | .settings .. => "ValidationError"
  | .settingsSource .. => "SettingsError"
  | .unknownLevel _ | .countLimit .. | .nonFiniteJson | .zeroByte | .variableName => "ValueError"
  | .levelType _ | .missingRetryLimit => "TypeError"
  | .noLevelName _ => "AttributeError"
  | .missingCredentials => "OpenAIError"
  | .unattempted => "AssertionError"
  | .url _ => "InvalidURL"
  | .timedOut => "APITimeoutError"
  | .disconnected => "APIConnectionError"
  | .status code _ => statusClass code
  | .unencodable _ | .tornJson => "UnicodeEncodeError"
  | .unprintable c => c.className
  | .emptyVariableName => "OSError"
  | .raised e => e.className

/-- The message of a failure. -/
def message : Failure → Str
  | .misuse m => m.message
  | .template p => p.message
  | .undecodable f => f.message
  | .undecodableUnits f => f.message
  | .json f => f.message
  | .settings title _ => title
  | .settingsSource field source =>
    "error parsing value for field \"" ++ field ++ "\" from source \"" ++ source ++ "\""
  | .unknownLevel literal => "Unknown level: " ++ literal
  | .levelType text => "Level not an integer or a valid string: " ++ text
  | .noLevelName name => "module 'logging' has no attribute '" ++ name ++ "'"
  | .missingCredentials =>
    "Missing credentials. Please pass an `api_key`, `workload_identity`, `admin_api_key`, or set "
      ++ "the `OPENAI_API_KEY` or `OPENAI_ADMIN_KEY` environment variable."
  | .missingRetryLimit =>
    "max_retries cannot be None. If you want to disable retries, pass `0`; if you want unlimited "
      ++ "retries, pass `math.inf` or a very high number; if you want the default behavior, pass "
      ++ "`openai.DEFAULT_MAX_RETRIES`"
  | .unattempted => "could not resolve response (should never happen)"
  | .url p => p.message
  | .timedOut => "Request timed out."
  | .disconnected => "Connection error."
  | .status _ text => text
  | .countLimit name text => name ++ " must be a non-negative integer but got " ++ text
  | .nonFiniteJson => "Out of range float values are not JSON compliant"
  | .unencodable r => r.message
  | .tornJson => Text.Encoding.utf8.reason
  | .unprintable c => c.message
  | .zeroByte => "embedded null byte"
  | .variableName => "illegal environment variable name"
  | .emptyVariableName => "[Errno 22] Invalid argument"
  | .raised e => e.message

/-- The failure of bytes that should be JSON. -/
def ofByteFault : Json.ByteFault → Failure
  | .text f => .undecodable f
  | .units f => .undecodableUnits f
  | .json f => .json f

/-- The error status with which a server answered, where that is the cause. -/
def status? : Failure → Option Nat
  | .status code _ => some code
  | _ => none

/-- The faults of refused settings. -/
def faults : Failure → List Settings.Fault
  | .settings _ fs => fs
  | _ => []

end Failure

/-- The text of a value, as a call that can fail. -/
def Value.text (v : Value) : Except Failure Str := v.print.mapError .unprintable

end ChatProbe

import ChatProbe.Clock
import ChatProbe.Json.OfValue
/-!
# Log records

A `Record` is one thing that was logged: where, when, how important, a message with arguments,
an exception and extra fields. It is written on one line, either as a JSON object
(`Record.jsonLine`) or as text with the fields behind it (`Record.textLine`).

The JSON line holds the standard members and then the extra fields; a field named like a
standard member takes its place. Both writers fail where a message or a field has no text, and
then nothing is written.
-/

namespace ChatProbe
namespace Logging

/-- The names of the five usual levels and of the level below all. -/
def levelNames : List (Int × String) :=
  [(50, "CRITICAL"), (40, "ERROR"), (30, "WARNING"), (20, "INFO"), (10, "DEBUG"), (0, "NOTSET")]

/-- The name of a level. -/
def levelName (level : Int) : String :=
  (levelNames.lookup level).getD ("Level " ++ toString level)

/-- What a record says about an exception. -/
inductive ExceptionInfo where
  | absent
  /-- Asked for where none was being handled. -/
  | nothing
  | raised (e : Raised)
deriving Repr

/-- The report of an exception. -/
def ExceptionInfo.report? : ExceptionInfo → Option Str
  | .absent => none
  | .nothing => some "NoneType: None"
  | .raised e => some e.report

/-- One thing that was logged. -/
structure Record where
  logger : String
  level : Int
  moduleName : String
  function : Option String
  line : Value
  process : Value
  thread : Value
  created : DateTime
  now : DateTime
  message : Value
  args : List Value
  stack : Option String
  exception : ExceptionInfo
  extra : Option Value
deriving Repr

/-- The name of a source file without its folders and its last extension. -/
def moduleOfPath (path : String) : String :=
  let base := (path.toList.reverse.takeWhile (· != '/')).reverse
  let stem := (base.reverse.dropWhile (· != '.')).drop 1
  let leading := base.takeWhile (· == '.')
  -- Points at the front of the name begin no extension.
  String.ofList (if stem.length < leading.length ∨ stem.all (· == '.') then base else stem.reverse)

namespace Record

/-- The message with its arguments filled in. -/
def fullMessage (r : Record) : Except Failure Str := do
  let template ← r.message.text
  if r.args.isEmpty then return template
  else (Template.fill template r.args).mapError .template

/-- A text or nothing. -/
def textOrNull : Option String → Value
  | some s => .str s
  | none => .null

/-- The members that every JSON line has. -/
def standardFields (r : Record) (message : Str) : List (Str × Value) :=
  ([("timestamp", .str r.now.isoText), ("level", .str (levelName r.level)),
    ("logger", .str r.logger), ("message", .str message), ("module", .str r.moduleName),
    ("function", textOrNull r.function), ("line", r.line), ("process", r.process),
    ("thread", r.thread)] : List (Str × Value))
    ++ (match r.exception.report? with
        | some report => [("exception", .str report)]
        | none => [])

/-- The record as a dictionary. -/
def entries (r : Record) : Except Failure (List (Value × Value)) := do
  let message ← r.fullMessage
  let standard := (r.standardFields message).map fun f => (Value.str f.1, f.2)
  match r.extra with
  | none => return standard
  -- The fields of the caller are written over the members that every line has.
  | some extra => Value.updateEntries standard extra

/-- The record as a JSON object on one line. -/
def jsonLine (r : Record) : Except Failure String := do
  let members ← Value.toJsonMembers (← r.entries)
  return Json.write .spaced (.object members)

/-- A text put below another one. -/
def below (text addition : Str) : Str :=
  if text.points.getLast? = some (.char '\n') then text ++ addition else text ++ "\n" ++ addition

/-- The message line with the exception and the stack below it. -/
def messageLines (r : Record) (head : Str) : Str :=
  let text := match r.exception.report? with
    | some report => if report.isEmpty then head else below head report
    | none => head
  match r.stack with
  | some stack => if stack.isEmpty then text else below text stack
  | none => text

/-- Fields as `name=value`, each behind a blank. -/
def fieldSuffix : List (Value × Value) → Except Failure Str
  | [] => .ok ""
  | (k, v) :: es => do return " " ++ (← k.text) ++ "=" ++ (← v.text) ++ (← fieldSuffix es)

/-- The extra fields behind a text line. -/
def extraSuffix (r : Record) : Except Failure Str :=
  match r.extra with
  | none => .ok ""
  | some extra =>
    if !extra.truthy then .ok ""
    else match extra with
    | .dict es => fieldSuffix es
    | v => .error (.misuse (.noAttribute v.typeName "items"))

/-- The record as text. -/
def textLine (r : Record) : Except Failure Str := do
  let message ← r.fullMessage
  -- The moment of the record, not that of its writing.
  let head := r.created.stampText ++ " - " ++ r.logger ++ " - " ++ levelName r.level ++ " - "
    ++ message
  return r.messageLines head ++ (← r.extraSuffix)

/-- The message alone, with the exception below it. -/
def bareLine (r : Record) : Except Failure Str := do
  return r.messageLines (← r.fullMessage)

end Record

/-- How a handler writes records. -/
inductive LineFormat where
  | json
  | text
  | bare
deriving DecidableEq, Repr, Inhabited

/-- The line of a record. -/
def LineFormat.line : LineFormat → Record → Except Failure Str
  | .json, r => r.jsonLine.map .whole
  | .text, r => r.textLine
  | .bare, r => r.bareLine

end Logging
end ChatProbe

import ChatProbe.Logging.Record
import ChatProbe.Text.Case
/-!
# The root logger

Records reach streams through the handlers of a `Logging.Root`. `Root.configure` installs
the program's own handler: it takes the place of every handler of that name, stands behind the
handlers that stay, and sets the level below which nothing is logged. `Root.emit` hands a
record to every handler in turn; a handler that cannot write the record writes nothing, and the
others are not affected. With no handler at all, warnings and worse go to standard error as bare
lines.

A call of a structured logger is a `Call`: its level is looked up by name, its fields become the
extra fields of the record.
-/

namespace ChatProbe
namespace Logging

/-- The name of the program's own handler. -/
def handlerName : String := "genaiprobe"

/-- The name of standard error among the streams. -/
def standardError : String := "stderr"

/-- The name of standard output among the streams. -/
def standardOutput : String := "stdout"

/-- A handler: its name, the stream that it writes to, and the form of its lines. -/
structure Handler where
  name : Option String
  stream : String
  format : LineFormat
deriving DecidableEq, Repr

/-- The level of the root logger: a number, or a truth value used as one. -/
inductive Threshold where
  | number (n : Int)
  | flag (b : Bool)
deriving DecidableEq, Repr, Inhabited

namespace Threshold

/-- The threshold as a number. -/
def toInt : Threshold → Int
  | .number n => n
  | .flag b => if b then 1 else 0

/-- The threshold as a value. -/
def toValue : Threshold → Value
  | .number n => .int n
  | .flag b => .bool b

end Threshold

/-- The numbers of the level names. -/
def levelNumbers : List (Str × Int) :=
  [("CRITICAL", 50), ("FATAL", 50), ("ERROR", 40), ("WARN", 30), ("WARNING", 30), ("INFO", 20),
   ("DEBUG", 10), ("NOTSET", 0)]

/-- The threshold that a value asks for. -/
def thresholdOf : Value → Except Failure Threshold
  | .int n => .ok (.number n)
  | .bool b => .ok (.flag b)
  | .str s =>
    match levelNumbers.lookup s with
    | some n => .ok (.number n)
    | none => .error (.unknownLevel (Text.quotedStr s))
  | v => do
    let t ← v.literal.mapError .unprintable
    throw (.levelType t)

/-- The root logger: the level below which nothing is logged, and the handlers. -/
structure Root where
  level : Threshold
  handlers : List Handler
deriving DecidableEq, Repr

/-- Text written to a named stream. -/
abbrev Written := List (String × Str)

namespace Root

/-- Before any configuration: warnings and worse, no handler. -/
def initial : Root := ⟨.number 30, []⟩

/-- The program's own handler for a stream. -/
def ownHandler (format : Value) (stream : Option String) : Handler :=
  ⟨some handlerName, stream.getD standardError,
    if format.toText? = some "json" then .json else .text⟩

/-- Put the program's own handler in the place of earlier ones, behind all that stay. -/
def install (s : Root) (h : Handler) : Root :=
  { s with handlers := s.handlers.filter (fun g => g.name != some handlerName) ++ [h] }

/-- Install the program's own handler and set the level. The handler is in place also where the
level is refused; the earlier level then stays. -/
def configure (s : Root) (level format : Value) (stream : Option String) :
    Handler × Root × Option Failure :=
  let h := ownHandler format stream
  -- From here on the handler is in place, whatever becomes of the level.
  let s := s.install h
  match thresholdOf level with
  | .ok t => (h, { s with level := t }, none)
  | .error e => (h, s, some e)

/-- Add a handler behind the others. -/
def addHandler (s : Root) (h : Handler) : Root := { s with handlers := s.handlers ++ [h] }

@[simp] theorem handlers_addHandler (s : Root) (h : Handler) :
    (s.addHandler h).handlers = s.handlers ++ [h] := rfl

@[simp] theorem handlers_install (s : Root) (h : Handler) :
    (s.install h).handlers = s.handlers.filter (fun g => g.name != some handlerName) ++ [h] := rfl

/-- Whether records of a level are logged at all. -/
def enabled (s : Root) (level : Int) : Bool := 0 < level && s.level.toInt ≤ level

/-- What a handler writes for a record. -/
def Handler.write (h : Handler) (r : Record) : Written :=
  match h.format.line r with
  | .ok line => [(h.stream, line ++ "\n")]
  | .error _ => []

/-- The handler of last resort, which takes warnings and worse. -/
def lastResort (r : Record) : Written :=
  if r.level < 30 then [] else Handler.write ⟨none, standardError, .bare⟩ r

/-- What all handlers write for a record. -/
def emit (s : Root) (r : Record) : Written :=
  if !s.enabled r.level then []
  else if s.handlers.isEmpty then lastResort r
  else s.handlers.flatMap fun h => Handler.write h r

end Root

/-- The methods of a structured logger. -/
inductive Method where
  | debug
  | info
  | warning
  | error
  /-- A level by its name. -/
  | named (level : Value)
deriving Repr

namespace Method

/-- The name of a method. -/
def name : Method → String
  | .debug => "debug"
  | .info => "info"
  | .warning => "warning"
  | .error => "error"
  | .named _ => "log"

/-- The level that a method asks for. -/
def level : Method → Value
  | .named v => v
  | m => .str m.name

/-- The names a call binds itself, so that no field may have them, as function and names. -/
def boundNames : Method → String × List Str
  | .named _ => ("StructuredLogger.log", ["self", "level", "message"])
  | m => ("StructuredLogger." ++ m.name, ["self", "message"])

end Method

/-- A call of a structured logger. -/
structure Call where
  logger : String
  method : Method
  message : Value
  fields : List (Str × Value)
deriving Repr

/-- Names that are levels' neighbours and no numbers: a call at one of them logs nothing. -/
def nonLevels : List String := ["BASIC_FORMAT", "_STYLES"]

/-- The number of the level that a value names; no number where the name is something else. -/
def levelNumber : Value → Except Failure (Option Int)
  | .str s =>
    let name := Text.upper s.mended
    match levelNumbers.lookup ↑name with
    | some n => .ok (some n)
    | none => if nonLevels.contains name then .ok none else .error (.noLevelName name)
  | .bytes _ => .error (.misuse (.attributeNameType "bytes"))
  | v => .error (.misuse (.noAttribute v.typeName "upper"))

/-- The name of a logger; the root logger has two spellings. -/
def loggerName (name : String) : String := if name.isEmpty then "root" else name

namespace Call

/-- Refuse fields named like an argument of the function called. -/
def checkNames (function : String) (bound : List Str) (fields : List (Str × Value)) :
    Except Failure Unit :=
  match fields.find? fun f => bound.contains f.1 with
  | some (name, _) => .error (.misuse (.repeatedArgument function name.mended))
  | none => .ok ()

/-- The level number of a call, once its arguments are in order. -/
def number (c : Call) : Except Failure (Option Int) := do
  let (function, bound) := c.method.boundNames
  checkNames function bound c.fields
  -- The method passes its fields on to a function that binds one more name.
  checkNames "StructuredLogger.log" ["level"] c.fields
  levelNumber c.method.level

end Call

/-- The circumstances of a record: the moment, and the numbers of the process and the thread as the
machine has them. -/
structure Stamp where
  moment : DateTime
  process : UInt64
  thread : UInt64
deriving Repr

/-- A record made in given circumstances. Line numbers are not kept. -/
def Stamp.record (stamp : Stamp) (logger : String) (level : Int) (moduleName function : String)
    (message : Value) (extra : Option Value) : Record :=
  { logger := loggerName logger, level, moduleName, function := some function, line := .int 0,
    process := .int stamp.process.toNat, thread := .int stamp.thread.toNat, created := stamp.moment,
    now := stamp.moment, message, args := [], stack := none, exception := .absent, extra }

/-- The record of a structured call. -/
def Call.record (c : Call) (stamp : Stamp) (level : Int) : Record :=
  stamp.record c.logger level "structured_logger" "log" c.message
    (some (Value.dictOfFields c.fields))

namespace Root

/-- Run a structured call: what is written, or why it is refused. -/
def call (s : Root) (stamp : Stamp) (c : Call) : Except Failure Written := do
  match ← c.number with
  | some level => return s.emit (c.record stamp level)
  | none => return []

end Root

end Logging
end ChatProbe

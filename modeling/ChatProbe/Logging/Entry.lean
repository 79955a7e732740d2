import ChatProbe.Logging.Root
/-!
# What the program logs about itself

An `Entry` is a log message of the program's own before it reaches a handler: its level, the
logger, the module and function that speak, the text, and the fields of a structured message.
`Entry.record` gives it the circumstances of a moment, and `Root.emitAll` hands a list of entries
to the root logger.
-/

namespace ChatProbe
namespace Logging

/-- Who logs: the logger with the module and the function that use it. -/
structure Origin where
  logger : String
  moduleName : String
  function : String
deriving DecidableEq, Repr

/-- A message of the program's own. -/
structure Entry where
  level : Int
  origin : Origin
  message : Str
  fields : Option (List (Str × Value))
deriving Repr

namespace Entry

/-- A message without fields. -/
def plain (level : Int) (origin : Origin) (message : Str) : Entry :=
  ⟨level, origin, message, none⟩

/-- A message with fields, from a structured logger. -/
def structured (level : Int) (logger message : String) (fields : List (Str × Value)) : Entry :=
  ⟨level, ⟨logger, "structured_logger", "log"⟩, message, some fields⟩

/-- The record of an entry in given circumstances. -/
def record (e : Entry) (stamp : Stamp) : Record :=
  stamp.record e.origin.logger e.level e.origin.moduleName e.origin.function (.str e.message)
    (e.fields.map Value.dictOfFields)

end Entry

namespace Root

/-- What all handlers write for a list of entries. -/
def emitAll (s : Root) (stamp : Stamp) (es : List Entry) : Written :=
  es.flatMap fun e => s.emit (e.record stamp)

@[simp] theorem emitAll_nil (s : Root) (stamp : Stamp) : s.emitAll stamp [] = [] := rfl

end Root

/-- The text of one stream. -/
def Written.on (w : Written) (stream : String) : Str :=
  Str.join ((w.filter fun p => p.1 == stream).map (·.2))

end Logging
end ChatProbe

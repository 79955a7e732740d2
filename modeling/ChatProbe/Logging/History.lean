import ChatProbe.Logging.Root
/-!
# Histories of the root logger

The root logger is shared: the program configures it, others add handlers of their own, and anyone
logs. A `Step` is one of these, and `Root.run` is a history of them. What a history leaves attached
can be told from the steps alone, without the logger: all foreign handlers, in the order in which
they came (`foreignHandlers`), and the program's own handler of the latest configuration (`latest?`).
-/

namespace ChatProbe
namespace Logging

/-- A handler that does not bear the name of the program's own. -/
structure ForeignHandler extends Handler where
  foreign : name ≠ some handlerName

/-- What can happen to the root logger. -/
inductive Step where
  /-- The program configures its log. -/
  | configure (level format : Value) (stream : Option String)
  /-- Someone else adds a handler. -/
  | attach (h : ForeignHandler)
  /-- A structured logger is called. -/
  | call (stamp : Stamp) (c : Call)
  /-- A record comes from any other logger. -/
  | log (r : Record)

namespace Step

/-- The foreign handler that a step adds. -/
def foreign? : Step → Option Handler
  | .attach h => some h.toHandler
  | _ => none

/-- The program's own handler that a step installs. -/
def own? : Step → Option Handler
  | .configure _ format stream => some (Root.ownHandler format stream)
  | _ => none

end Step

/-- The foreign handlers of a history, in the order in which they came. -/
def foreignHandlers (ss : List Step) : List Handler := ss.filterMap Step.foreign?

/-- The program's own handler of the latest configuration. -/
def latest? (ss : List Step) : Option Handler := (ss.filterMap Step.own?).getLast?

/-- The handlers that a history leaves attached, the program's own one named last. -/
def attached (ss : List Step) : List Handler := foreignHandlers ss ++ (latest? ss).toList

/-- What a step writes, and why it is refused where it is. -/
structure Reply where
  written : Written
  failure : Option Failure
deriving Repr

namespace Root

/-- One step of a history. -/
def step (s : Root) : Step → Root × Reply
  | .configure level format stream =>
    let (_, s, failure) := s.configure level format stream
    (s, ⟨[], failure⟩)
  | .attach h => (s.addHandler h.toHandler, ⟨[], none⟩)
  | .call stamp c =>
    match s.call stamp c with
    | .ok written => (s, ⟨written, none⟩)
    | .error e => (s, ⟨[], some e⟩)
  | .log r => (s, ⟨s.emit r, none⟩)

/-- The steps of a history in order. -/
def run (s : Root) : List Step → Root × List Reply
  | [] => (s, [])
  | a :: as =>
    let (s, reply) := s.step a
    let (s, replies) := s.run as
    (s, reply :: replies)

@[simp] theorem run_nil (s : Root) : s.run [] = (s, []) := rfl

theorem run_cons (s : Root) (a : Step) (as : List Step) :
    s.run (a :: as)
      = (((s.step a).1.run as).1, (s.step a).2 :: ((s.step a).1.run as).2) := rfl

end Root

end Logging
end ChatProbe

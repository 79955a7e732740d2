/-!
# Complaints

A `Complaint` is an exception that handlers for ordinary exceptions catch and that has a message: a
class, and a text that is its only argument. Some classes make a message of their arguments in ways
of their own, and none of them is the class of a complaint.
-/

namespace ChatProbe
namespace Complaint

/-- Operating-system error numbers whose error has a class of its own. -/
def systemClasses : List (Int × String) :=
  [(1, "PermissionError"), (2, "FileNotFoundError"), (3, "ProcessLookupError"),
   (4, "InterruptedError"), (10, "ChildProcessError"), (11, "BlockingIOError"),
   (13, "PermissionError"), (17, "FileExistsError"), (20, "NotADirectoryError"),
   (21, "IsADirectoryError"), (32, "BrokenPipeError"), (103, "ConnectionAbortedError"),
   (104, "ConnectionResetError"), (108, "BrokenPipeError"), (110, "TimeoutError"),
   (111, "ConnectionRefusedError"), (114, "BlockingIOError"), (115, "BlockingIOError")]

/-- The names of the general operating-system error. -/
def systemNames : List String := ["OSError", "IOError", "EnvironmentError"]

/-- The classes whose message starts with an error number. -/
def isSystem (className : String) : Bool :=
  systemNames.contains className || systemClasses.any (·.2 == className)

/-- The class whose message is the literal text of a key. -/
def keyClass : String := "KeyError"

/-- Whether exceptions of a class are caught by handlers for ordinary exceptions. -/
def isOrdinary (className : String) : Bool :=
  !(["KeyboardInterrupt", "SystemExit", "GeneratorExit", "BaseException"].contains className)

/-- Whether exceptions of a class are ordinary, with a single text as their message. -/
def isPlainClass (className : String) : Bool :=
  isOrdinary className && !isSystem className && className != keyClass

end Complaint

/-- An ordinary exception whose message is its only argument. -/
structure Complaint where
  className : String
  message : String
  isPlain : Complaint.isPlainClass className = true
deriving DecidableEq, Repr

/-- The complaint about a value. -/
def Complaint.valueError (message : String) : Complaint := ⟨"ValueError", message, rfl⟩

end ChatProbe

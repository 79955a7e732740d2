import ChatProbe.Value.Text
/-!
# Raised exceptions

An exception as a script or a log record names it: a class, its arguments, and the exception
that caused it. Its message is the text of its arguments (`Raised.print`), and its report is
the line "class: message" below the reports of its causes (`Raised.report`).
-/

namespace ChatProbe

/-- An exception with its arguments and its cause. -/
inductive Raised where
  | mk (className : String) (args : List Value) (cause : Option Raised)
deriving Repr, Inhabited

namespace Raised

/-- The class of an exception; a general system error is classed by its error number. -/
def className : Raised → String
  | .mk name args _ =>
    if Complaint.systemNames.contains name then
      match args with
      | .int n :: _ :: _ =>
        if args.length ≤ 5 then ((Complaint.systemClasses.lookup n).getD "OSError") else "OSError"
      | _ => "OSError"
    else name

/-- Whether handlers for ordinary exceptions catch an exception. -/
def isOrdinary (e : Raised) : Bool := Complaint.isOrdinary e.className

/-- The message of an exception: nothing for no argument, the text of a single one, the tuple
of several. A missing key is shown as a literal, a system error with its number in front. -/
def print : Raised → Except Complaint Str
  | .mk name args _ =>
    if Complaint.isSystem name then
      match args with
      | [n, text] => do return "[Errno " ++ (← n.print) ++ "] " ++ (← text.print)
      | [n, text, file] => do
        return "[Errno " ++ (← n.print) ++ "] " ++ (← text.print) ++ ": " ++ (← file.literal)
      | _ => plain args
    else if name == Complaint.keyClass then
      match args with
      | [k] => k.literal.map .whole
      | _ => plain args
    else plain args
where
  /-- The text of plain arguments. -/
  plain : List Value → Except Complaint Str
    | [] => .ok ""
    | [v] => v.print
    | vs => (Value.tuple vs).literal.map .whole

/-- The message of an exception, if it has one. -/
def message? (e : Raised) : Option Str := e.print.toOption

/-- The message of an exception; one without has that of what printing it raises. -/
def message (e : Raised) : Str :=
  match e.print with
  | .ok m => m
  | .error c => c.message

/-- The exception that a complaint is. -/
def ofComplaint (c : Complaint) : Raised := .mk c.className [.str c.message] none

@[simp] theorem print_ofComplaint (c : Complaint) : (ofComplaint c).print = .ok c.message := by
  obtain ⟨className, message, hclass⟩ := c
  simp only [Complaint.isPlainClass, Bool.and_eq_true, Bool.not_eq_true', bne, Bool.not_eq_true'] at hclass
  rw [ofComplaint, print, hclass.1.2, hclass.2]
  rfl

/-- The line of an exception in a report. -/
def line (e : Raised) : Str :=
  match e.message? with
  | some m => if m.isEmpty then e.className else e.className ++ ": " ++ m
  | none => e.className ++ ": <exception str() failed>"

/-- The report of an exception, its causes first. -/
def report : Raised → Str
  | .mk name args none => line (.mk name args none)
  | .mk name args (some cause) =>
    report cause
      ++ "\n\nThe above exception was the direct cause of the following exception:\n\n"
      ++ line (.mk name args none)

end Raised
end ChatProbe

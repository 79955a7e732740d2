import ChatProbe.Dotenv.Statement
import ChatProbe.Environment
import ChatProbe.Failure.Basic
/-!
# Assignments of a `.env` file

The statements of a file, with the variables in their values replaced, give each name at most
one value: `Dotenv.assignments`. A reference names a variable between `$\x7b` and `\x7d`, with an
optional default behind `:-`; it can mean a name assigned further up or a variable of the
environment, and `Precedence` says which of the two counts where there are both.

`Dotenv.load` puts the assignments into the environment and leaves every variable alone that is
already there.
-/

namespace ChatProbe
namespace Dotenv

/-- Which value of a referenced name counts. -/
inductive Precedence where
  | fileFirst
  | environmentFirst
deriving DecidableEq, Repr

/-- A name with its value, where it has one. -/
abbrev Assignment := String × Option String

/-- Something about a file that is reported. -/
inductive Warning where
  | unreadable (line : Nat)
  | disabled
deriving DecidableEq, Repr

/-- The wording of a warning. -/
def Warning.message : Warning → String
  | .unreadable line => "python-dotenv could not parse statement starting at line " ++ toString line
  | .disabled =>
    "python-dotenv: .env loading disabled by PYTHON_DOTENV_DISABLED environment variable"

/-- The reference behind `$\x7b`: its name, its default, and what follows. -/
def reference? (cs : List Char) : Option (String × Option String × List Char) :=
  let (name, rest) := cs.span fun c => c != '\x7d' && c != ':'
  match rest with
  | '\x7d' :: rest => some (String.ofList name, none, rest)
  | ':' :: '-' :: rest =>
    let (fallback, rest) := rest.span (· != '\x7d')
    match rest with
    | '\x7d' :: rest => some (String.ofList name, some (String.ofList fallback), rest)
    | _ => none
  | _ => none

/-- Characters with their references replaced; `lookup` gives the value of a known name, which
may be missing; `fuel` bounds the number of characters. -/
def expandList (lookup : String → Option (Option String)) : Nat → List Char → List Char
  | 0, cs => cs
  | _ + 1, [] => []
  | fuel + 1, c :: cs =>
    match c, cs with
    | '$', '\x7b' :: rest =>
      match reference? rest with
      | some (name, fallback, rest) =>
        let value := match lookup name with
          | some (some v) => v
          -- A name without a value is known: its default does not count.
          | some none => ""
          | none => fallback.getD ""
        value.toList ++ expandList lookup fuel rest
      -- A mark without a reference behind it is a character like others.
      | none => c :: expandList lookup fuel cs
    | _, _ => c :: expandList lookup fuel cs

/-- A value with its references replaced. -/
def expand (lookup : String → Option (Option String)) (s : String) : String :=
  String.ofList (expandList lookup s.length s.toList)

/-- What a reference means below some assignments. -/
def meaning (precedence : Precedence) (env : Environment) (assigned : List Assignment)
    (name : String) : Option (Option String) :=
  let outside := (env.get? name).map some
  let inside := assigned.lookup name
  match precedence with
  | .fileFirst => inside <|> outside
  | .environmentFirst => outside <|> inside

/-- One statement on top of the assignments above it. -/
def assignStatement (precedence : Precedence) (env : Environment) (assigned : List Assignment) :
    Statement → List Assignment
  | .binding name value =>
    Table.write name (value.map (expand (meaning precedence env assigned))) assigned
  | _ => assigned

/-- The assignments that statements make. -/
def assignmentsOf (precedence : Precedence) (env : Environment) (ss : List Statement) :
    List Assignment :=
  ss.foldl (assignStatement precedence env) []

/-- What is reported about statements. -/
def warningsOf (ss : List Statement) : List Warning :=
  ss.filterMap fun
    | .unreadable line => some (.unreadable line)
    | _ => none

/-- The assignments of a file and what is reported about it. -/
def assignments (precedence : Precedence) (env : Environment) (bytes : List UInt8) :
    Except Failure (List Assignment × List Warning) := do
  let text ← (Text.Utf8.decode bytes).mapError .undecodable
  let ss := statements text
  return (assignmentsOf precedence env ss, warningsOf ss)

/-- Refuse what no environment can hold. -/
def checkVariable (name value : String) : Except Failure Unit :=
  if name.toList.contains '\x00' || value.toList.contains '\x00' then .error .zeroByte
  else if name.toList.contains '=' then .error .variableName
  else if name.isEmpty then .error .emptyVariableName
  else .ok ()

/-- The environment after a load, also where the load failed on the way. -/
structure Loaded where
  environment : Environment
  warnings : List Warning
  failure : Option Failure

/-- Fill the gaps of an environment, up to the first assignment that it cannot hold. -/
def fillGaps (env : Environment) : List Assignment → Environment × Option Failure
  | [] => (env, none)
  | (_, none) :: as => fillGaps env as
  | (name, some value) :: as =>
    -- What the environment has wins, whatever the file says.
    if (env.get? name).isSome then fillGaps env as
    else match checkVariable name value with
      | .error e => (env, some e)
      | .ok () => fillGaps (env.set name value) as

/-- The variable that turns loading off. -/
def disablingVariable : String := "PYTHON_DOTENV_DISABLED"

/-- Whether loading is turned off. -/
def isDisabled (env : Environment) : Bool :=
  match env.get? disablingVariable with
  | some v => ["1", "true", "t", "yes", "y"].contains (Text.lower v)
  | none => false

/-- Load a file into an environment; without a file nothing happens. -/
def load (env : Environment) (file : Option (List UInt8)) : Loaded :=
  if isDisabled env then ⟨env, [.disabled], none⟩
  else match file with
  | none => ⟨env, [], none⟩
  | some bytes =>
    match assignments .environmentFirst env bytes with
    | .error e => ⟨env, [], some e⟩
    | .ok (as, warnings) =>
      -- The assignments up to a failing one have been made.
      let (env, failure) := fillGaps env as
      ⟨env, warnings, failure⟩

end Dotenv
end ChatProbe

import ChatProbe.Environment
import ChatProbe.Settings.Coercion
/-!
# Checking a group of settings

A group of settings is a record whose fields have names and defaults. A field's value comes from
the arguments given (`Inputs`), else from the environment variable named after it, else it is
the default (`Supply.value?`). All fields are checked, and all faults are reported together, the
unknown names last (`Checked`).
-/

namespace ChatProbe
namespace Settings

/-- Arguments by name. -/
abbrev Inputs := List (String × Value)

/-- Arguments as a dictionary. -/
def dictOfInputs (inputs : Inputs) : Value := .dictOfFields (inputs.map fun i => (i.1, i.2))

/-- A result or all the faults that stand in its way. -/
inductive Checked (α : Type) where
  | ok (value : α)
  | faulty (faults : List Fault)
deriving DecidableEq, Repr

namespace Checked

/-- The faults of a check. -/
def faults {α : Type} : Checked α → List Fault
  | .ok _ => []
  | .faulty fs => fs

/-- Apply a checked function to a checked argument; the faults of both count, in order. -/
def ap {α β : Type} : Checked (α → β) → Checked α → Checked β
  | .ok f, .ok x => .ok (f x)
  | f, x => .faulty (f.faults ++ x.faults)

/-- Add faults found elsewhere. -/
def plus {α : Type} (a : Checked α) (more : List Fault) : Checked α :=
  match a with
  | .ok x => if more.isEmpty then .ok x else .faulty more
  | .faulty fs => .faulty (fs ++ more)

/-- Put the faults below a field of an enclosing group. -/
def below {α : Type} (name : String) : Checked α → Checked α
  | .ok x => .ok x
  | .faulty fs => .faulty (fs.map fun f => { f with path := name :: f.path })

/-- A reading as the check of a field. -/
def ofReading {α : Type} (name : String) : Except Problem α → Checked α
  | .ok x => .ok x
  | .error p => .faulty [⟨[name], p⟩]

/-- The result, or what the faults amount to. -/
def get {α ε : Type} (a : Checked α) (fail : List Fault → ε) : Except ε α :=
  match a with
  | .ok x => .ok x
  | .faulty fs => .error (fail fs)

end Checked

/-- The spelling of a name among the known ones, letter case apart. -/
def knownName? (names : List String) (name : String) : Option String :=
  names.find? fun known => Text.lower known == Text.lower name

/-- The arguments under the spellings of known names; of several spellings the last counts. -/
def normalized (names : List String) (inputs : Inputs) : Inputs :=
  -- A name that is not known stays as it is.
  inputs.foldl (fun acc i => Table.write ((knownName? names i.1).getD i.1) i.2 acc) []

/-- Where the values of a group come from. -/
structure Supply where
  given : Inputs
  environment : Environment
  /-- What stands in front of a field's name in the name of its variable. -/
  leader : String

namespace Supply

/-- The supply of a group with the given field names. -/
def of (names : List String) (leader : String) (env : Environment) (inputs : Inputs) : Supply :=
  ⟨normalized names inputs, env, leader⟩

/-- The value supplied for a field. -/
def value? (s : Supply) (name : String) : Option Value :=
  s.given.lookup name <|> (s.environment.folded? (s.leader ++ name)).map fun text => .str text

/-- A field: its default, or the supplied value as its reader takes it. -/
def field {α : Type} (s : Supply) (name : String) (fallback : α)
    (read : Value → Except Problem α) : Checked α :=
  match s.value? name with
  | none => .ok fallback
  | some v => .ofReading name (read v)

/-- A fault for every argument that names no field. -/
def unknown (s : Supply) (names : List String) : List Fault :=
  (s.given.filter fun i => !names.contains i.1).map fun i => ⟨[i.1], .unknownName⟩

end Supply

end Settings
end ChatProbe

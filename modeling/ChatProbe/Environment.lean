import ChatProbe.Table
import ChatProbe.Text.Case
/-!
# Environment variables

Variables by name, in the order in which they were first set. Look-up is by exact name
(`Environment.get?`) or without regard to letter case (`Environment.folded?`); in the second way
several variables can match, and the last of them counts.
-/

namespace ChatProbe

/-- The variables of a process. -/
structure Environment where
  bindings : List (String × String)
deriving DecidableEq, Repr, Inhabited

namespace Environment

/-- No variables. -/
def empty : Environment := ⟨[]⟩

/-- The value of a variable. -/
def get? (env : Environment) (name : String) : Option String := env.bindings.lookup name

/-- Set a variable. -/
def set (env : Environment) (name value : String) : Environment :=
  ⟨Table.write name value env.bindings⟩

/-- Remove a variable. -/
def unset (env : Environment) (name : String) : Environment :=
  ⟨env.bindings.filter fun p => p.1 != name⟩

/-- The value of the last variable whose name agrees up to letter case. -/
def folded? (env : Environment) (name : String) : Option String :=
  (env.bindings.reverse.find? fun p => Text.lower p.1 == Text.lower name).map (·.2)

/-- Setting a variable changes this variable and no other. -/
@[simp] theorem get?_set (env : Environment) (name value other : String) :
    (env.set name value).get? other = if other = name then some value else env.get? other :=
  Table.lookup_write name other value env.bindings

end Environment
end ChatProbe

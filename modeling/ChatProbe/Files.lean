/-!
# File trees

The files and folders that a process can see, by path from the root of the tree. A path is the
list of its names. Writing a file makes the folders above it; removing an entry removes what is
below it.
-/

namespace ChatProbe

/-- A path from the root of a tree. -/
abbrev Path := List String

namespace Path

/-- The path that a text names, slashes between the names. -/
def ofText (s : String) : Path :=
  (s.splitOn "/").filter fun name => !name.isEmpty && name != "."

/-- A path and the folders above it, nearest first, down to the root of the tree. -/
def upward (p : Path) : List Path := (List.range (p.length + 1)).reverse.map p.take

end Path

/-- An entry of a tree. -/
inductive Entry where
  | file (bytes : List UInt8)
  | folder
deriving DecidableEq, Repr

/-- The entries of a tree. -/
structure Files where
  entries : List (Path × Entry)
deriving DecidableEq, Repr, Inhabited

namespace Files

/-- The tree without entries. -/
def empty : Files := ⟨[]⟩

/-- The entry at a path. -/
def get? (fs : Files) (p : Path) : Option Entry := fs.entries.lookup p

/-- The bytes of the file at a path. -/
def read? (fs : Files) (p : Path) : Option (List UInt8) :=
  match fs.get? p with
  | some (.file bytes) => some bytes
  | _ => none

/-- Put an entry at a path, in the place of what was there. -/
def put (fs : Files) (p : Path) (e : Entry) : Files :=
  ⟨(p, e) :: fs.entries.filter fun q => q.1 != p⟩

/-- Remove the entry at a path and all below it. -/
def remove (fs : Files) (p : Path) : Files :=
  ⟨fs.entries.filter fun q => !p.isPrefixOf q.1⟩

end Files
end ChatProbe

import Relational.Entries

/-!
# Directories

A directory holds texts under names. A folder may stand in the place of a file, and an access may be refused;
an access then fails and leaves everything as it is. Any other write replaces the whole file.
-/

namespace Relational

/-- What stands under a name. -/
inductive DirectoryEntry where
  | file (text : String)
  | folder
  deriving Repr, DecidableEq

/-- The accesses that change a directory. -/
inductive Access where
  | write
  | remove
  deriving Repr, DecidableEq

/-- A directory with its path, what is in it, and the accesses that are refused. -/
structure Directory where
  path : String
  entries : List (String × DirectoryEntry)
  refused : List (Access × String)
  deriving Repr, DecidableEq

namespace Directory

/-- A directory with nothing in it. -/
def empty (path : String) : Directory :=
  ⟨path, [], []⟩

/-- The path of a name in the directory. -/
def pathOf (d : Directory) (name : String) : String :=
  d.path ++ "/" ++ name

/-- What stands under a name. -/
def entry? (d : Directory) (name : String) : Option DirectoryEntry :=
  d.entries.lookup name

/-- Something stands under a name. -/
def exists? (d : Directory) (name : String) : Bool :=
  (d.entry? name).isSome

/-- A folder stands under a name. -/
def isFolder (d : Directory) (name : String) : Bool :=
  d.entry? name == some .folder

/-- The text of a file. -/
def read? (d : Directory) (name : String) : Option String :=
  match d.entry? name with
  | some (.file text) => some text
  | _ => none

/-- Writes a file, in place of an earlier one; none if that fails. -/
def write? (d : Directory) (name text : String) : Option Directory :=
  if d.isFolder name || d.refused.contains (.write, name) then none
  else some { d with entries := setEntry name (.file text) d.entries }

/-- Removes a file, if it is there; none if that fails. -/
def remove? (d : Directory) (name : String) : Option Directory :=
  if d.exists? name then
    if d.isFolder name || d.refused.contains (.remove, name) then none
    else some { d with entries := removeEntry name d.entries }
  else some d

/-- Puts a folder under a name. -/
def addFolder (d : Directory) (name : String) : Directory :=
  { d with entries := setEntry name .folder d.entries }

/-- Takes whatever stands under a name away. -/
def drop (d : Directory) (name : String) : Directory :=
  { d with entries := removeEntry name d.entries }

/-- The names in order. -/
def names (d : Directory) : List String :=
  (d.entries.map Prod.fst).mergeSort (· ≤ ·)

end Directory

end Relational

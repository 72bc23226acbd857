import Relational.Text.Case

/-!
# Names

Names of tables, columns, constraints and indexes: ASCII letters, digits and underscores, no digit first, at
most 64 of them, and none of the reserved words. A single line end after the name is let through.
-/

namespace Relational.Name

/-- Words that name nothing. -/
def reservedWords : List String :=
  ["SELECT", "FROM", "WHERE", "INSERT", "UPDATE", "DELETE", "CREATE", "ALTER", "DROP", "TABLE", "INDEX", "INTO",
    "VALUES", "SET", "AND", "OR", "NOT", "NULL", "PRIMARY", "KEY", "FOREIGN", "REFERENCES", "CHECK", "DEFAULT",
    "CONSTRAINT", "UNIQUE", "INNER", "JOIN", "ON", "ORDER", "BY", "LIMIT", "TRUE", "FALSE", "IS", "IN", "LIKE",
    "BEGIN", "COMMIT", "ROLLBACK"]

/-- The longest name. -/
def maxLength : Nat := 64

/-- Characters that start a name. -/
def isFirst (c : Char) : Bool :=
  c.isAlpha || c == '_'

/-- Characters of a name after the first. -/
def isRest (c : Char) : Bool :=
  c.isAlphanum || c == '_'

/-- Characters of a name, then at most one line end. -/
def isTail : List Char → Bool
  | [] => true
  | ['\n'] => true
  | c :: cs => isRest c && isTail cs

/-- The characters are those of a name. -/
def isFormed : List Char → Bool
  | [] => false
  | c :: cs => isFirst c && isTail cs

/-- What is wrong with a name. -/
inductive Fault where
  | empty
  | tooLong
  | reserved
  | malformed
  deriving Repr, DecidableEq

/-- A fault in words. -/
def Fault.message : Fault → String
  | .empty => "Identifier cannot be empty"
  | .tooLong => "Identifier too long (max 64 characters)"
  | .reserved => "Cannot use SQL reserved word"
  | .malformed =>
    "Must start with letter or underscore, and contain only letters, numbers, and underscores"

/-- The first fault of a name. -/
def fault? (name : String) : Option Fault :=
  if name.isEmpty then some .empty
  else if maxLength < name.length then some .tooLong
  else if reservedWords.contains (Text.upper name) then some .reserved
  else if isFormed name.toList then none
  else some .malformed

end Relational.Name

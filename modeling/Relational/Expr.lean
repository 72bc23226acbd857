/-!
# Expressions

Expressions compute a value from literals and the columns of a row.
-/

namespace Relational

/-- A literal as it is written. The text of a number has its sign, the text of a string has no quotes. -/
inductive Literal where
  | number (text : String)
  | string (text : String)
  | bool (b : Bool)
  | null
  deriving Repr, DecidableEq, Inhabited

/-- The arithmetic operators. -/
inductive Arithmetic where
  | add
  | sub
  | mul
  | div
  | mod
  deriving Repr, DecidableEq, Inhabited

/-- The sign of an operator. -/
def Arithmetic.symbol : Arithmetic → String
  | .add => "+"
  | .sub => "-"
  | .mul => "*"
  | .div => "/"
  | .mod => "%"

/-- An expression. The name of a function is in upper case. -/
inductive Expr where
  | column (table : Option String) (name : String)
  | literal (value : Literal)
  | call (function : String) (args : List Expr)
  | binary (op : Arithmetic) (left right : Expr)
  deriving Repr, Inhabited

/-- The word a truth value is written as. -/
def boolText (b : Bool) : String :=
  if b then "TRUE" else "FALSE"

/-- The text of a literal, as a cell would hold it; none for NULL. -/
def Literal.text? : Literal → Option String
  | .number text => some text
  | .string text => some text
  | .bool b => some (boolText b)
  | .null => none

end Relational

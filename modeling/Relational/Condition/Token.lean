import Relational.Text.Position

/-!
# Tokens of conditions

The terminals of the condition grammar and the names they have in messages.
-/

namespace Relational.Condition

/-- The terminals. -/
inductive Terminal where
  | or
  | and
  | not
  | is
  | in
  | like
  | null
  | true
  | false
  | name
  | number
  | string
  | leftParen
  | rightParen
  | comma
  | equal
  | notEqual
  | lessGreater
  | lessThan
  | moreThan
  | lessEqual
  | moreEqual
  | plus
  | minus
  | star
  | slash
  | percent
  | dot
  | finish
  deriving Repr, DecidableEq, Inhabited

/-- The name of a terminal in messages. -/
def Terminal.label : Terminal → String
  | .or => "_OR"
  | .and => "_AND"
  | .not => "_NOT"
  | .is => "_IS"
  | .in => "_IN"
  | .like => "_LIKE"
  | .null => "_NULL"
  | .true => "_TRUE"
  | .false => "_FALSE"
  | .name => "NAME"
  | .number => "NUMBER"
  | .string => "STRING"
  | .leftParen => "LPAR"
  | .rightParen => "RPAR"
  | .comma => "COMMA"
  | .equal => "EQUAL"
  | .notEqual => "__ANON_0"
  | .lessGreater => "__ANON_1"
  | .lessThan => "LESSTHAN"
  | .moreThan => "MORETHAN"
  | .lessEqual => "__ANON_2"
  | .moreEqual => "__ANON_3"
  | .plus => "PLUS"
  | .minus => "MINUS"
  | .star => "STAR"
  | .slash => "SLASH"
  | .percent => "PERCENT"
  | .dot => "DOT"
  | .finish => "$END"

/-- A token of a condition with the text it was written as and its place. -/
structure Token where
  terminal : Terminal
  text : List Char
  position : Text.Position
  deriving Repr, DecidableEq

/-- Why a text is no condition: it has nothing but blanks, no terminal starts with a character of it, or a
token stands where it has no use. -/
inductive Fault where
  | blank
  | noTerminal (c : Char) (position : Text.Position)
  | unexpected (token : Token)
  deriving Repr, DecidableEq

end Relational.Condition

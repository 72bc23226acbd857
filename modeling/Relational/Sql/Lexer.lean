import Relational.Sql.Token
import Relational.Text.Blank
import Relational.Text.Letter

/-!
# Tokens of a statement

`Sql.tokenize` cuts any text into tokens. Blanks and comments, which start with two dashes and run to the end
of the line, stand between tokens. A text runs from a quote to the next quote of the same kind that no
backslash precedes, or to the end. A character with which no token begins is a token of unknown kind, so
nothing is lost.
-/

namespace Relational.Sql

open Text

/-- The content of a text after its opening quote, and the number of characters up to its end. A backslash
before the quote is dropped. -/
def stringBody (mark : Char) : List Char → List Char × Nat
  | [] => ([], 0)
  | [c] => if c = mark then ([], 1) else ([c], 1)
  | c :: d :: cs =>
    if c = '\\' && d = mark then
      let (content, length) := stringBody mark cs
      (mark :: content, length + 2)
    else if c = mark then ([], 1)
    else
      let (content, length) := stringBody mark (d :: cs)
      (c :: content, length + 1)

/-- Operators and marks. -/
def symbol? : List Char → Option (TokenKind × Nat)
  | '!' :: '=' :: _ => some (.notEquals, 2)
  | '<' :: '>' :: _ => some (.notEquals, 2)
  | '<' :: '=' :: _ => some (.lessEqual, 2)
  | '>' :: '=' :: _ => some (.greaterEqual, 2)
  | '<' :: _ => some (.less, 1)
  | '>' :: _ => some (.greater, 1)
  | '=' :: _ => some (.equals, 1)
  | '+' :: _ => some (.plus, 1)
  | '-' :: _ => some (.minus, 1)
  | '*' :: _ => some (.asterisk, 1)
  | '/' :: _ => some (.divide, 1)
  | '%' :: _ => some (.percent, 1)
  | '(' :: _ => some (.leftParen, 1)
  | ')' :: _ => some (.rightParen, 1)
  | ',' :: _ => some (.comma, 1)
  | ';' :: _ => some (.semicolon, 1)
  | '.' :: _ => some (.dot, 1)
  | _ => none

/-- The kind of a word. -/
def wordKind (word : String) : TokenKind :=
  match Keyword.ofWord? word with
  | some k => .keyword k
  | none => .identifier

/-- First characters of a word. -/
def isWordStart (c : Char) : Bool :=
  isLetter c || c == '_'

/-- Characters of a number. -/
def isNumberPart (c : Char) : Bool :=
  isDigitLike c || c == '.'

/-- The token at the start of a text: its kind, its text, and the number of characters it takes after the
first. -/
def lexeme (c : Char) (cs : List Char) : TokenKind × String × Nat :=
  if isWordStart c then
    let rest := cs.takeWhile isWordChar
    let word := String.ofList (c :: rest)
    (wordKind word, word, rest.length)
  else if isDigitLike c then
    let rest := cs.takeWhile isNumberPart
    (.number, String.ofList (c :: rest), rest.length)
  else if c = '\'' || c = '"' then
    let (content, length) := stringBody c cs
    (.string, String.ofList content, length)
  else
    match symbol? (c :: cs) with
    | some (kind, length) => (kind, String.ofList (c :: cs.take (length - 1)), length - 1)
    | none => (.unknown, String.singleton c, 0)

/-- A comment starts here. -/
def startsComment : List Char → Bool
  | '-' :: '-' :: _ => true
  | _ => false

/-- Characters of a comment. -/
def isCommentPart (c : Char) : Bool :=
  c != '\n'

/-- The number of characters of the gap that starts with `c`, after `c`; none if a token starts here. -/
def gap? (c : Char) (cs : List Char) : Option Nat :=
  if isBlank c then some 0
  else if startsComment (c :: cs) then some (cs.takeWhile isCommentPart).length
  else none

/-- The tokens of a text that starts at a position. -/
def tokenizeFrom (position : Position) : List Char → List Token
  | [] => [⟨.endOfFile, "", position⟩]
  | c :: cs =>
    match gap? c cs with
    | some n => tokenizeFrom (position.advanceOver (c :: cs.take n)) (cs.drop n)
    | none =>
      let (kind, text, n) := lexeme c cs
      ⟨kind, text, position⟩ :: tokenizeFrom (position.advanceOver (c :: cs.take n)) (cs.drop n)
termination_by cs => cs.length
decreasing_by all_goals simp only [List.length_drop, List.length_cons]; omega

/-- The tokens of a text. The last one is the end of the text. -/
def tokenize (text : String) : List Token :=
  tokenizeFrom .start text.toList

end Relational.Sql

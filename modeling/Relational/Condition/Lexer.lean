import Relational.Condition.Token
import Relational.Text.Letter

/-!
# Tokens of a condition

`Condition.scan` cuts a condition into tokens. What is expected next decides how a word reads: where an operand
begins, only `NULL`, `TRUE` and `FALSE` are keywords, and `NOT` as well where a whole predicate may begin; after
a point every word is a name; anywhere else all keywords count. A word is a keyword only as a whole, in any
case. Scanning stops at a character with which no terminal begins.
-/

namespace Relational.Condition

open Text

/-! ## What is expected -/

/-- What a condition can go on with: a predicate, an operand, a column after its table and a point, or whatever
follows an operand. -/
inductive Mode where
  | predicate
  | operand
  | column
  | after
  deriving Repr, DecidableEq

/-- The keywords of the grammar. -/
def keywords : List (Terminal × String) :=
  [(.or, "or"), (.and, "and"), (.not, "not"), (.is, "is"), (.in, "in"), (.like, "like"), (.null, "null"),
    (.true, "true"), (.false, "false")]

/-- The words that are keywords in a mode. -/
def Mode.admits (mode : Mode) (t : Terminal) : Bool :=
  match mode with
  | .predicate => t == .not || t == .null || t == .true || t == .false
  | .operand => t == .null || t == .true || t == .false
  | .column => false
  | .after => true

/-- What a condition can go on with after a terminal. -/
def Mode.next (mode : Mode) : Terminal → Mode
  | .or | .and => .predicate
  | .not => if mode = .predicate then .predicate else .after
  | .leftParen => if mode = .predicate then .predicate else .operand
  | .comma | .like | .equal | .notEqual | .lessGreater | .lessThan | .moreThan | .lessEqual | .moreEqual => .operand
  | .plus | .minus | .star | .slash | .percent => .operand
  | .dot => .column
  | .is | .in | .null | .true | .false | .name | .number | .string | .rightParen | .finish => .after

/-! ## Terminals at the start of a text

Each function answers the number of characters that its terminal takes. -/

/-- A character that is the given small letter when case is left aside. -/
def isLetterOf (letter c : Char) : Bool :=
  c == letter || c == letter.toUpper
    || (letter == 'i' && (c.toNat == 0x130 || c.toNat == 0x131))
    || (letter == 's' && c.toNat == 0x17f)
    || (letter == 'k' && c.toNat == 0x212a)

/-- The word stands at the start, and no character of a word follows. -/
def startsWithWord : List Char → List Char → Bool
  | [], [] => true
  | [], c :: _ => !isWordChar c
  | l :: word, c :: cs => isLetterOf l c && startsWithWord word cs
  | _ :: _, [] => false

/-- The first keyword of a list that stands at the start. -/
def keywordLength? (words : List (Terminal × String)) (cs : List Char) : Option (Terminal × Nat) :=
  (words.find? fun w => startsWithWord w.2.toList cs).map fun w => (w.1, w.2.length)

/-- First characters of a name. -/
def isNameStart (c : Char) : Bool :=
  c.isAlpha || c == '_'

/-- Further characters of a name. -/
def isNamePart (c : Char) : Bool :=
  c.isAlphanum || c == '_'

/-- A name. -/
def nameLength? : List Char → Option (Terminal × Nat)
  | [] => none
  | c :: cs => if isNameStart c then some (.name, 1 + (cs.takeWhile isNamePart).length) else none

/-- The number of digits at the start. -/
def digitCount (cs : List Char) : Nat :=
  (cs.takeWhile isDecimalDigit).length

/-- The length of a point with digits after it. -/
def fractionLength : List Char → Nat
  | '.' :: cs => if digitCount cs = 0 then 0 else 1 + digitCount cs
  | _ => 0

/-- The length of an exponent. -/
def exponentLength : List Char → Nat
  | [] => 0
  | e :: cs =>
    if e = 'e' || e = 'E' then
      let sign := match cs with
        | '+' :: _ => 1
        | '-' :: _ => 1
        | _ => 0
      let digits := digitCount (cs.drop sign)
      if digits = 0 then 0 else 1 + sign + digits
    else 0

/-- A number: digits, a fraction, an exponent. -/
def numberLength? (cs : List Char) : Option (Terminal × Nat) :=
  let whole := digitCount cs
  if whole = 0 then none
  else
    let fraction := fractionLength (cs.drop whole)
    some (.number, whole + fraction + exponentLength (cs.drop (whole + fraction)))

/-- The length of a single-quoted text up to its closing quote, from `position` characters after the start. It
closes at the first quote that no backslash escapes, else at the last quote that one does, which is at
`escaped`. -/
def singleQuotedFrom (position : Nat) (escaped : Option Nat) : List Char → Option Nat
  | [] => escaped
  | '\\' :: '\'' :: cs => singleQuotedFrom (position + 2) (some (position + 2)) cs
  | c :: cs => if c = '\'' then some (position + 1) else singleQuotedFrom (position + 1) escaped cs

/-- The length of a double-quoted text up to the last double quote of all. -/
def doubleQuotedFrom (position : Nat) (found : Option Nat) : List Char → Option Nat
  | [] => found
  | c :: cs => doubleQuotedFrom (position + 1) (if c = '"' then some (position + 1) else found) cs

/-- A quoted text. -/
def stringLength? : List Char → Option (Terminal × Nat)
  | '\'' :: cs => (singleQuotedFrom 1 none cs).map fun n => (.string, n)
  | '"' :: cs => (doubleQuotedFrom 1 none cs).map fun n => (.string, n)
  | _ => none

/-- An operator or a mark, the longer one first. -/
def symbolLength? : List Char → Option (Terminal × Nat)
  | '!' :: '=' :: _ => some (.notEqual, 2)
  | '<' :: '>' :: _ => some (.lessGreater, 2)
  | '<' :: '=' :: _ => some (.lessEqual, 2)
  | '>' :: '=' :: _ => some (.moreEqual, 2)
  | '=' :: _ => some (.equal, 1)
  | '<' :: _ => some (.lessThan, 1)
  | '>' :: _ => some (.moreThan, 1)
  | '+' :: _ => some (.plus, 1)
  | '-' :: _ => some (.minus, 1)
  | '*' :: _ => some (.star, 1)
  | '/' :: _ => some (.slash, 1)
  | '%' :: _ => some (.percent, 1)
  | '(' :: _ => some (.leftParen, 1)
  | ')' :: _ => some (.rightParen, 1)
  | ',' :: _ => some (.comma, 1)
  | '.' :: _ => some (.dot, 1)
  | _ => none

/-- The terminal at the start of a text and its length. A word that is a keyword elsewhere is a name here if it
can be one. -/
def terminal? (mode : Mode) (cs : List Char) : Option (Terminal × Nat) :=
  (keywordLength? (keywords.filter fun w => mode.admits w.1) cs).or
    ((nameLength? cs).or
      ((keywordLength? keywords cs).or ((numberLength? cs).or ((stringLength? cs).or (symbolLength? cs)))))

/-! ## Scanning -/

/-- White space between tokens. -/
def isGap (c : Char) : Bool :=
  c == ' ' || c == '\t' || c == '\x0c' || c == '\r' || c == '\n'

/-- The tokens of a text that starts at a position, and the fault at which scanning stops, if any. -/
def scanFrom (mode : Mode) (position : Position) : List Char → List Token × Option Fault
  | [] => ([], none)
  | c :: cs =>
    if isGap c then scanFrom mode (position.advance c) cs
    else
      match terminal? mode (c :: cs) with
      | none => ([], some (.noTerminal c position))
      | some (t, length) =>
        let text := c :: cs.take (length - 1)
        let (tokens, fault) := scanFrom (mode.next t) (position.advanceOver text) (cs.drop (length - 1))
        (⟨t, text, position⟩ :: tokens, fault)
termination_by cs => cs.length
decreasing_by
  · simp
  · simp only [List.length_drop, List.length_cons]; omega

/-- The tokens of a condition, and the fault at which scanning stops, if any. -/
def scan (cs : List Char) : List Token × Option Fault :=
  scanFrom .predicate .start cs

end Relational.Condition

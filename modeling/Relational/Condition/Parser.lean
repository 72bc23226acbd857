import Relational.Condition
import Relational.Condition.Lexer
import Relational.Failure

/-!
# Reading conditions

A condition is read token by token. What is read so far is a stack of frames, the innermost first, each a
construct that waits for its last part, and a focus, the part read last. OR binds least, then AND, NOT, the
predicates, sums, products and the minus sign; operators of one strength group to the left. A token that no
condition goes on with is refused at once, so a fault names the first such token.

A parenthesis where a predicate may begin holds either a condition or an expression. Its frame `open` waits for
both, and what has been read when it closes decides.
-/

namespace Relational.Condition

open Text

/-- A construct that waits for its last part. -/
inductive Frame where
  | sum (op : Arithmetic) (left : Expr)
  | product (op : Arithmetic) (left : Expr)
  | negation
  | args (function : String) (done : List Expr)
  | group
  | compare (op : Comparison) (left : Expr)
  | like (negated : Bool) (left : Expr)
  | items (negated : Bool) (left : Expr) (done : List Expr)
  | not
  | and (left : Condition)
  | or (left : Condition)
  | open

/-- The part read last. -/
inductive Focus where
  | begin
  | name (name : String)
  | qualifier (table : String)
  | call (function : String)
  | operand (e : Expr)
  | is (e : Expr)
  | isNot (e : Expr)
  | not (e : Expr)
  | in (negated : Bool) (e : Expr)
  | closed (c : Condition)

/-- What is read so far. -/
structure Partial where
  frames : List Frame
  focus : Focus

/-- A predicate may stand as the last part of the innermost frame. -/
def holdsPredicate : List Frame → Bool
  | [] => true
  | .not :: _ => true
  | .and _ :: _ => true
  | .or _ :: _ => true
  | .open :: _ => true
  | _ => false

/-! ## Closing frames -/

/-- An expression after a minus sign. A number takes the sign into its literal. -/
def negate : Expr → Expr
  | .literal (.number text) => .literal (.number ("-" ++ text))
  | e => .binary .sub (.literal (.number "0")) e

/-- Closes the products and minus signs that end with `e`. -/
def closeProduct : List Frame → Expr → List Frame × Expr
  | .negation :: frames, e => closeProduct frames (negate e)
  | .product op left :: frames, e => closeProduct frames (.binary op left e)
  | frames, e => (frames, e)

/-- Closes the sums, products and minus signs that end with `e`. -/
def closeSum : List Frame → Expr → List Frame × Expr
  | .negation :: frames, e => closeSum frames (negate e)
  | .product op left :: frames, e => closeSum frames (.binary op left e)
  | .sum op left :: frames, e => closeSum frames (.binary op left e)
  | frames, e => (frames, e)

/-- Closes the conjunctions and negations that end with `c`. -/
def closeAnd : List Frame → Condition → List Frame × Condition
  | .not :: frames, c => closeAnd frames (.not c)
  | .and left :: frames, c => closeAnd frames (.logic .and left c)
  | frames, c => (frames, c)

/-- Closes the connectives and negations that end with `c`. -/
def closeOr : List Frame → Condition → List Frame × Condition
  | .not :: frames, c => closeOr frames (.not c)
  | .and left :: frames, c => closeOr frames (.logic .and left c)
  | .or left :: frames, c => closeOr frames (.logic .or left c)
  | frames, c => (frames, c)

/-- The condition that ends with what is read last, if it ends there. -/
def Partial.condition? (p : Partial) (e? : Option Expr) : Option (List Frame × Condition) :=
  match e? with
  | some e =>
    match closeSum p.frames e with
    | (.compare op left :: frames, right) => some (frames, .compare op left right)
    | (.like negated left :: frames, pattern) => some (frames, .like negated left pattern)
    | _ => none
  | none =>
    match p.focus with
    | .closed c => some (p.frames, c)
    | _ => none

/-! ## Reading a token -/

/-- Where an operand or a predicate begins. -/
def readBegin (frames : List Frame) (t : Terminal) (text : String) : Option Partial :=
  match t with
  | .number => some ⟨frames, .operand (.literal (.number text))⟩
  | .string => some ⟨frames, .operand (.literal (.string text))⟩
  | .true => some ⟨frames, .operand (.literal (.bool true))⟩
  | .false => some ⟨frames, .operand (.literal (.bool false))⟩
  | .null => some ⟨frames, .operand (.literal .null)⟩
  | .name => some ⟨frames, .name text⟩
  | .minus => some ⟨.negation :: frames, .begin⟩
  | .leftParen => some ⟨(if holdsPredicate frames then .open else .group) :: frames, .begin⟩
  | .not => if holdsPredicate frames then some ⟨.not :: frames, .begin⟩ else none
  | _ => none

/-- The operator of a terminal in a sum. -/
def sumOperator? : Terminal → Option Arithmetic
  | .plus => some .add
  | .minus => some .sub
  | _ => none

/-- The operator of a terminal in a product. -/
def productOperator? : Terminal → Option Arithmetic
  | .star => some .mul
  | .slash => some .div
  | .percent => some .mod
  | _ => none

/-- The comparison of a terminal. -/
def comparison? : Terminal → Option Comparison
  | .equal => some .eq
  | .notEqual => some .ne
  | .lessGreater => some .ne
  | .lessThan => some .lt
  | .moreThan => some .gt
  | .lessEqual => some .le
  | .moreEqual => some .ge
  | _ => none

/-- After the left side of a predicate. -/
def readPredicate (frames : List Frame) (e : Expr) (t : Terminal) : Option Partial :=
  if holdsPredicate frames then
    match comparison? t with
    | some op => some ⟨.compare op e :: frames, .begin⟩
    | none =>
      match t with
      | .like => some ⟨.like false e :: frames, .begin⟩
      | .is => some ⟨frames, .is e⟩
      | .in => some ⟨frames, .in false e⟩
      | .not => some ⟨frames, .not e⟩
      | _ => none
  else none

/-- After a whole condition. -/
def readConnective (frames : List Frame) (c : Condition) (t : Terminal) : Option Partial :=
  match t with
  | .and => let (frames, c) := closeAnd frames c; some ⟨.and c :: frames, .begin⟩
  | .or => let (frames, c) := closeOr frames c; some ⟨.or c :: frames, .begin⟩
  | .rightParen =>
    match closeOr frames c with
    | (.open :: frames, c) => some ⟨frames, .closed c⟩
    | _ => none
  | _ => none

/-- After the right side of a predicate: the predicate ends here. -/
def readEnd (frames : List Frame) (e : Expr) (t : Terminal) : Option Partial :=
  match frames with
  | .compare op left :: frames => readConnective frames (.compare op left e) t
  | .like negated left :: frames => readConnective frames (.like negated left e) t
  | _ => none

/-- After a whole expression, its sums closed. -/
def readAfterSum (frames : List Frame) (e : Expr) (t : Terminal) : Option Partial :=
  match t, frames with
  | .comma, .args function done :: frames => some ⟨.args function (done ++ [e]) :: frames, .begin⟩
  | .comma, .items negated left done :: frames => some ⟨.items negated left (done ++ [e]) :: frames, .begin⟩
  | .rightParen, .args function done :: frames => some ⟨frames, .operand (.call function (done ++ [e]))⟩
  | .rightParen, .items negated left done :: frames => some ⟨frames, .closed (.inList negated left (done ++ [e]))⟩
  | .rightParen, .group :: frames => some ⟨frames, .operand e⟩
  | .rightParen, .open :: frames => some ⟨frames, .operand e⟩
  | t, frames => (readEnd frames e t).or (readPredicate frames e t)

/-- After an operand. -/
def readOperand (frames : List Frame) (e : Expr) (t : Terminal) : Option Partial :=
  match productOperator? t, sumOperator? t with
  | some op, _ => let (frames, e) := closeProduct frames e; some ⟨.product op e :: frames, .begin⟩
  | none, some op => let (frames, e) := closeSum frames e; some ⟨.sum op e :: frames, .begin⟩
  | none, none => let (frames, e) := closeSum frames e; readAfterSum frames e t

/-- Reads a token; none if no condition goes on with it. -/
def Partial.read (p : Partial) (t : Terminal) (text : String) : Option Partial :=
  match p.focus with
  | .begin => readBegin p.frames t text
  | .name name =>
    match t with
    | .leftParen => some ⟨p.frames, .call (upper name)⟩
    | .dot => some ⟨p.frames, .qualifier name⟩
    | t => readOperand p.frames (.column none name) t
  | .qualifier table =>
    match t with
    | .name => some ⟨p.frames, .operand (.column (some table) text)⟩
    | _ => none
  | .call function =>
    match t with
    | .rightParen => some ⟨p.frames, .operand (.call function [])⟩
    | t => readBegin (.args function [] :: p.frames) t text
  | .operand e => readOperand p.frames e t
  | .is e =>
    match t with
    | .null => some ⟨p.frames, .closed (.isNull false e)⟩
    | .not => some ⟨p.frames, .isNot e⟩
    | _ => none
  | .isNot e =>
    match t with
    | .null => some ⟨p.frames, .closed (.isNull true e)⟩
    | _ => none
  | .not e =>
    match t with
    | .in => some ⟨p.frames, .in true e⟩
    | .like => some ⟨.like true e :: p.frames, .begin⟩
    | _ => none
  | .in negated e =>
    match t with
    | .leftParen => some ⟨.items negated e [] :: p.frames, .begin⟩
    | _ => none
  | .closed c => readConnective p.frames c t

/-- The expression read last, if it is whole. -/
def Partial.operand? (p : Partial) : Option Expr :=
  match p.focus with
  | .name name => some (.column none name)
  | .operand e => some e
  | _ => none

/-- The condition, if nothing is missing. -/
def Partial.finish? (p : Partial) : Option Condition :=
  match p.condition? p.operand? with
  | some (frames, c) =>
    match closeOr frames c with
    | ([], c) => some c
    | _ => none
  | none => none

/-! ## Whole conditions -/

/-- The content of a quoted text: the quotes around it are taken off, and a backslash before the same quote
inside is dropped. -/
def unescape (mark : Char) : List Char → List Char
  | [] => []
  | [c] => [c]
  | c :: d :: cs => if c = '\\' && d = mark then mark :: unescape mark cs else c :: unescape mark (d :: cs)

/-- What a token contributes: the content of a quoted text, and any other text as it is. -/
def Token.content (token : Token) : String :=
  match token.terminal, token.text with
  | .string, mark :: cs => String.ofList (unescape mark cs.dropLast)
  | _, cs => String.ofList cs

/-- Reads tokens up to the first that is refused. -/
def readTokens (p : Partial) : List Token → Except Fault Partial
  | [] => .ok p
  | token :: tokens =>
    match p.read token.terminal token.content with
    | some p => readTokens p tokens
    | none => .error (.unexpected token)

/-- Where the last token starts. -/
def lastPosition (tokens : List Token) : Position :=
  (tokens.getLast?.map Token.position).getD .start

/-- Reads a condition. -/
def parse (text : String) : Except Fault Condition := do
  if (stripChars text.toList).isEmpty then throw .blank
  let (tokens, fault?) := scan text.toList
  let p ← readTokens ⟨[], .begin⟩ tokens
  match fault?, p.finish? with
  | some fault, _ => throw fault
  | none, some c => pure c
  | none, none => throw (.unexpected ⟨.finish, [], lastPosition tokens⟩)

/-- Reads a condition; a fault is a refusal that quotes the text. -/
def compile (text : String) : Except Failure Condition :=
  match parse text with
  | .ok c => .ok c
  | .error fault => refuse (.condition (some text) fault)

end Relational.Condition

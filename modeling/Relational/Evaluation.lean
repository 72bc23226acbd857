import Relational.Condition
import Relational.Text.Pattern
import Relational.Value.Arithmetic
import Relational.Value.Order

/-!
# Evaluating expressions and conditions

Expressions have values, conditions are true, false or unknown. A predicate on NULL is unknown, and the
connectives follow the logic of three truth values; a right side that cannot change the outcome is not looked
at. Columns and the clock come from a scope.
-/

namespace Relational

/-- Where the columns of an expression are looked up, and the time. -/
structure Scope where
  column? : Option String → String → Option Value
  now : Timestamp

namespace Scope

/-- What is kept under the name of a column, first with the name of the table before it. Names are kept in small
letters. -/
def lookup {α : Type} (values : List (String × α)) (table : Option String) (name : String) : Option α :=
  let qualified :=
    match table with
    | some table => if table.isEmpty then none else values.lookup (Text.lower table ++ "." ++ Text.lower name)
    | none => none
  qualified.or (values.lookup (Text.lower name))

/-- The scope of named values. -/
def ofValues (values : List (String × Value)) (now : Timestamp) : Scope :=
  ⟨lookup values, now⟩

/-- The scope without columns. -/
def empty (now : Timestamp) : Scope :=
  ofValues [] now

end Scope

/-- The value of a clock function, if the name, in upper case, is one. -/
def clockValue? (now : Timestamp) (function : String) : Option Value :=
  if function == "NOW" || function == "CURRENT_TIMESTAMP" then
    some (.ofTimestamp now)
  else if function == "CURRENT_DATE" then some (.ofDate now.date)
  else if function == "CURRENT_TIME" then some (.ofTime now.time)
  else none

/-! ## Expressions -/

/-- A number is written with a point or an exponent. -/
def isRealNumeral (text : String) : Bool :=
  text.toList.any fun c => c == '.' || c == 'e' || c == 'E'

/-- The value of a number as written. A number that reads as neither an integer nor a real one is a text. -/
def numberValue (text : String) : Except Failure Value :=
  if isRealNumeral text then
    match Decimal.readFloat? text with
    | some x => .ok (.ofReal x)
    | none => .ok (.ofString text)
  else
    match Decimal.readInteger? text with
    | some n => .ok (.ofInteger n)
    | none => fail (.value (.integer text))

/-- The value of a literal. -/
def Literal.evaluate : Literal → Except Failure Value
  | .number text => numberValue text
  | .string text => .ok (.ofString text)
  | .bool b => .ok (.ofBool? (some b))
  | .null => .ok (.null .varchar)

/-- Brings two values to kinds that can be compared. A text beside another kind is read as that kind if it can
be; else, beside a truth value, both become truth values. -/
def align (v w : Value) : Value × Value :=
  let reading : Option (Value × Value) :=
    match v.payload, w.payload with
    | some (.text _), some (.text _) => none
    | some (.text s), _ => let read := Value.ofText w.type s; if read.isNull then none else some (read, w)
    | _, some (.text s) => let read := Value.ofText v.type s; if read.isNull then none else some (v, read)
    | _, _ => none
  match reading with
  | some pair => pair
  | none =>
    if v.kind? != w.kind? && (v.kind? == some .bool || w.kind? == some .bool) then
      (.ofBool? v.toBool?, .ofBool? w.toBool?)
    else (v, w)

/-- Aligns two values unless one of them is NULL. -/
def alignPresent (v w : Value) : Value × Value :=
  if v.isNull || w.isNull then (v, w) else align v w

/-- An operator on aligned values. -/
def Arithmetic.apply (op : Arithmetic) (v w : Value) : Except Failure Value :=
  let (v, w) := alignPresent v w
  match op with
  | .add => v.add w
  | .sub => v.sub w
  | .mul => v.mul w
  | .div => v.div w
  | .mod => v.mod w

/-- The first value that is not NULL, else the last one. -/
def coalesce (first : Value) : List Value → Value
  | [] => first
  | v :: vs => if first.isNull then coalesce v vs else first

/-- A part of a text, if the start has a reading as an integer. -/
def substring (v start : Value) (length : Option Value) : Except Failure Value := do
  let start ← start.toInteger?
  let length ← match length with
    | some n => n.toInteger?
    | none => pure none
  pure (match start with
    | some start => v.substring start length
    | none => .null .varchar)

/-- The value of a function on its arguments. -/
def callFunction (now : Timestamp) (function : String) (args : List Value) : Except Failure Value :=
  match clockValue? now function with
  | some v => .ok v
  | none =>
    match function, args with
    | "UPPER", [v] => .ok v.upper
    | "LOWER", [v] => .ok v.lower
    | "LENGTH", [v] => .ok v.length
    | "LEN", [v] => .ok v.length
    | "SUBSTRING", [v, start] => substring v start none
    | "SUBSTRING", [v, start, length] => substring v start (some length)
    | "SUBSTR", [v, start] => substring v start none
    | "SUBSTR", [v, start, length] => substring v start (some length)
    | "CONCAT", v :: vs => .ok (vs.foldl Value.concat v)
    | "ABS", [v] => v.abs
    | "COALESCE", v :: vs => .ok (coalesce v vs)
    | _, _ => refuse (.unsupported (.function function args.length))

/-- The value of a column; a clock function may be written like a column. -/
def Scope.column (scope : Scope) (table : Option String) (name : String) : Except Failure Value :=
  match scope.column? table name with
  | some v => .ok v
  | none =>
    match table, clockValue? scope.now (Text.upper name) with
    | none, some v => .ok v
    | _, _ => refuse (.noColumn name table)

mutual

/-- The value of an expression. -/
def Expr.evaluate (scope : Scope) : Expr → Except Failure Value
  | .column table name => scope.column table name
  | .literal value => value.evaluate
  | .call function args => do callFunction scope.now function (← evaluateAll scope args)
  | .binary op left right => do
    let v ← left.evaluate scope
    let w ← right.evaluate scope
    op.apply v w

/-- The values of expressions, from left to right. -/
def evaluateAll (scope : Scope) : List Expr → Except Failure (List Value)
  | [] => .ok []
  | e :: es => do
    let v ← e.evaluate scope
    let vs ← evaluateAll scope es
    pure (v :: vs)

end

/-! ## Conditions -/

/-- A truth value of three; `none` is unknown. -/
abbrev Truth := Option Bool

namespace Truth

/-- True where the operand is false and the other way round. -/
def not (t : Truth) : Truth :=
  t.map Bool.not

/-- The conjunction. -/
def and : Truth → Truth → Truth
  | some false, _ => some false
  | _, some false => some false
  | some true, some true => some true
  | _, _ => none

/-- The disjunction. -/
def or : Truth → Truth → Truth
  | some true, _ => some true
  | _, some true => some true
  | some false, some false => some false
  | _, _ => none

end Truth

/-- The order of two values after alignment. -/
def alignedOrder (v w : Value) : Except Failure Ordering :=
  let (v, w) := align v w
  v.order w

/-- A comparison; unknown if a side is NULL. -/
def Comparison.apply (op : Comparison) (v w : Value) : Except Failure Truth :=
  if v.isNull || w.isNull then .ok none
  else (alignedOrder v w).map fun order => some (op.holds order)

/-- The value is equal to one of the items. Items after a match are not evaluated; without a match NULL among
the items makes it unknown. -/
def memberOf (scope : Scope) (v : Value) (sawNull : Bool) : List Expr → Except Failure Truth
  | [] => .ok (if sawNull then none else some false)
  | e :: es => do
    let w ← e.evaluate scope
    if w.isNull then memberOf scope v true es
    else if (← alignedOrder v w) == .eq then pure (some true)
    else memberOf scope v sawNull es

/-- The text fits the pattern; unknown if one of them is NULL. -/
def fits (v pattern : Value) : Truth :=
  if v.isNull || pattern.isNull then none
  else some (Text.fitsPattern pattern.toText.toList v.toText.toList)

/-- A truth value, negated if `negated`. -/
def signed (negated : Bool) (t : Truth) : Truth :=
  if negated then t.not else t

/-- The truth of a condition. -/
def Condition.evaluate (scope : Scope) : Condition → Except Failure Truth
  | .compare op left right => do
    let v ← left.evaluate scope
    let w ← right.evaluate scope
    op.apply v w
  | .logic .and left right => do
    let t ← left.evaluate scope
    if t = some false then pure t else pure (t.and (← right.evaluate scope))
  | .logic .or left right => do
    let t ← left.evaluate scope
    if t = some true then pure t else pure (t.or (← right.evaluate scope))
  | .not operand => do pure (← operand.evaluate scope).not
  | .isNull negated operand => do
    let v ← operand.evaluate scope
    pure (signed negated (some v.isNull))
  | .inList negated operand items => do
    let v ← operand.evaluate scope
    if v.isNull then pure none else pure (signed negated (← memberOf scope v false items))
  | .like negated operand pattern => do
    let v ← operand.evaluate scope
    let w ← pattern.evaluate scope
    pure (signed negated (fits v w))

/-- The condition is true, and not false or unknown. -/
def Condition.selects (scope : Scope) (c : Condition) : Except Failure Bool := do
  pure ((← c.evaluate scope) == some true)

end Relational

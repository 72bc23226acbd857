import Relational.DataType.Conversion
import Relational.Decimal.Fixed
import Relational.Encoding

/-!
# Typed values

A value has a type and data of the type's kind, or no data if it is NULL. Every text reads as a value of every
type: one that makes no sense for the type reads as NULL. `toText` writes a value as a cell holds it.
-/

namespace Relational

open Text Decimal

/-- The data of a value. -/
inductive Payload where
  | integer (n : Int)
  | real (x : Float)
  | text (s : String)
  | bool (b : Bool)
  | date (d : Date)
  | time (t : TimeOfDay)
  | timestamp (t : Timestamp)

/-- The kind of the data. -/
def Payload.kind : Payload → Kind
  | .integer _ => .integer
  | .real _ => .real
  | .text _ => .text
  | .bool _ => .bool
  | .date _ => .date
  | .time _ => .time
  | .timestamp _ => .timestamp

/-- A value of a column type; NULL has no payload. -/
structure Value where
  type : DataType
  payload : Option Payload
  fits : ∀ p ∈ payload, p.kind = type.kind

namespace Value

/-- NULL of a type. -/
def null (type : DataType) : Value :=
  ⟨type, none, by simp⟩

/-- A value with data of the right kind. -/
def present (type : DataType) (p : Payload) (h : p.kind = type.kind) : Value :=
  ⟨type, some p, by simpa using h⟩

/-- A text. -/
def ofString (s : String) : Value :=
  present .varchar (.text s) rfl

/-- An integer: of the common type if that holds it, else of the widest. -/
def ofInteger (n : Int) : Value :=
  if DataType.int.holds n then present .int (.integer n) rfl else present .bigint (.integer n) rfl

/-- A real number. -/
def ofReal (x : Float) : Value :=
  present .double (.real x) rfl

/-- A day. -/
def ofDate (d : Date) : Value :=
  present .date (.date d) rfl

/-- A time of day. -/
def ofTime (t : TimeOfDay) : Value :=
  present .time (.time t) rfl

/-- A moment. -/
def ofTimestamp (t : Timestamp) : Value :=
  present .datetime (.timestamp t) rfl

/-- A truth value, or NULL if it is not known. -/
def ofBool? : Option Bool → Value
  | some b => present .bool (.bool b) rfl
  | none => null .bool

/-- The value is NULL. -/
def isNull (v : Value) : Bool :=
  v.payload.isNone

/-- The kind of the data; NULL has none. -/
def kind? (v : Value) : Option Kind :=
  v.payload.map Payload.kind

/-- A value with the given data. An integer becomes a real number where the type holds real numbers; any other
data has to be of the type's kind. -/
def store (type : DataType) (data : Option Payload) : Except Failure Value :=
  match data with
  | none => refuse (.type (.payload none type))
  | some p =>
    if h : p.kind = type.kind then .ok (present type p h)
    else
      match p with
      | .integer n =>
        if h : Kind.real = type.kind then
          match floatOfInt? n with
          | some x => .ok (present type (.real x) h)
          | none => fail .overflow
        else refuse (.type (.payload (some .integer) type))
      | p => refuse (.type (.payload (some p.kind) type))

/-! ## Reading -/

/-- Data of one kind. -/
abbrev Data (kind : Kind) := { p : Payload // p.kind = kind }

/-- Reads data of a kind, if the text makes sense. -/
def readData? (text : String) : (kind : Kind) → Option (Data kind)
  | .text => some ⟨.text text, rfl⟩
  | .integer => (readInteger? (strip text)).map fun n => ⟨.integer n, rfl⟩
  | .real => (readFloat? (strip text)).map fun x => ⟨.real x, rfl⟩
  | .bool => (readBool? text).map fun b => ⟨.bool b, rfl⟩
  | .date => (Date.read (strip text)).toOption.map fun d => ⟨.date d, rfl⟩
  | .time => (TimeOfDay.read (strip text)).toOption.map fun t => ⟨.time t, rfl⟩
  | .timestamp => (Timestamp.read (blankForT (strip text))).toOption.map fun t => ⟨.timestamp t, rfl⟩

/-- The text means NULL for values of a kind; an empty text is a text. -/
def readsAsNull (kind : Kind) (text : String) : Bool :=
  if kind == .text then isNullWord text else isNullText text

/-- Data that may be there, as a value. -/
def ofData? (type : DataType) (data : Option (Data type.kind)) : Value :=
  ⟨type, data.map Subtype.val, by
    intro p hp
    obtain ⟨d, _, rfl⟩ := Option.map_eq_some_iff.mp hp
    exact d.property⟩

/-- Reads a text as a value of a type. -/
def ofText (type : DataType) (text : String) : Value :=
  if readsAsNull type.kind text then null type else ofData? type (readData? text type.kind)

/-! ## Writing -/

/-- A real number as a cell holds it: a whole one below 10^16 has no point. -/
def realCell (x : Float) : String :=
  match Binary.ofFloat? x with
  | some b => if b.isWhole && b.truncatedMagnitude < tenTo 16 then intText b.truncate else realText x
  | none => realText x

/-- Data as a cell holds it. -/
def payloadText : Payload → String
  | .integer n => intText n
  | .real x => realCell x
  | .text s => s
  | .bool b => boolText b
  | .date d => d.text
  | .time t => t.text
  | .timestamp t => t.text

/-- A value as a cell holds it. -/
def toText (v : Value) : String :=
  v.payload.elim nullText payloadText

/-- A value in short: a truth value is a digit. -/
def toShortText (v : Value) : String :=
  match v.payload with
  | some (.bool b) => if b then "1" else "0"
  | _ => v.toText

/-! ## Views -/

/-- A real number cut to an integer. -/
def integerOfReal (x : Float) : Except Failure Int :=
  match Binary.ofFloat? x with
  | some b => .ok b.truncate
  | none => if x.isNaN then fail (.value .notANumber) else fail .overflow

/-- An integer as a real number. -/
def realOfInteger (n : Int) : Except Failure Float :=
  match floatOfInt? n with
  | some x => .ok x
  | none => fail .overflow

/-- The value as an integer, if it has a reading as one. -/
def toInteger? (v : Value) : Except Failure (Option Int) :=
  match v.payload with
  | some (.integer n) => .ok (some n)
  | some (.real x) => (integerOfReal x).map some
  | some (.bool b) => .ok (some (if b then 1 else 0))
  | some (.text s) => .ok (readInteger? (strip s))
  | _ => .ok none

/-- The value as a real number, if it has a reading as one. -/
def toReal? (v : Value) : Except Failure (Option Float) :=
  match v.payload with
  | some (.integer n) => (realOfInteger n).map some
  | some (.real x) => .ok (some x)
  | some (.bool b) => .ok (some (if b then 1 else 0))
  | some (.text s) => .ok (readFloat? (strip s))
  | _ => .ok none

/-- Numbers this close count as equal, and a divisor this small as zero. -/
def tolerance : Float := 1e-9

/-- The truth of a value: a number is true unless it is zero, a text if it is a word for it. -/
def toBool? (v : Value) : Option Bool :=
  match v.payload with
  | some (.bool b) => some b
  | some (.integer n) => some (n != 0)
  | some (.real x) => some (tolerance < x.abs)
  | some (.text s) => readBool? s
  | _ => none

/-- Casts a value. What does not read as a value of the target becomes NULL. -/
def convert (v : Value) (target : DataType) : Except Failure Value :=
  if target == v.type then .ok v
  else if !v.type.casts target then refuse (.type (.conversion v.type target))
  else
    match v.payload, target.kind with
    | none, _ => .ok (null target)
    | some (.real x), .integer => do store target (some (.integer (← integerOfReal x)))
    | some _, .bool =>
      match v.toBool? with
      | some b => store target (some (.bool b))
      | none => .ok (null target)
    | some _, _ => .ok (ofText target v.toText)

/-! ## Texts -/

/-- Two texts joined; NULL with anything is NULL. -/
def concat (v w : Value) : Value :=
  if v.isNull || w.isNull then null .varchar else ofString (v.toText ++ w.toText)

/-- The characters from position `start`, which counts from 1, at most `length` of them if it is given. -/
def substring (v : Value) (start : Int) (length : Option Int) : Value :=
  if v.isNull then null .varchar
  else
    let rest := v.toText.toList.drop (start - 1).toNat
    ofString (String.ofList (length.elim rest fun n => rest.take n.toNat))

/-- The text in upper case. -/
def upper (v : Value) : Value :=
  if v.isNull then null .varchar else ofString (Text.upper v.toText)

/-- The text in lower case. -/
def lower (v : Value) : Value :=
  if v.isNull then null .varchar else ofString (Text.lower v.toText)

/-- The number of characters of the text. -/
def length (v : Value) : Value :=
  if v.isNull then null .int else present .int (.integer v.toText.length) rfl

end Value

end Relational

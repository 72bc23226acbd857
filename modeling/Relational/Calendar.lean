import Relational.Decimal.Numeral
import Relational.Text.Quoted

/-!
# Dates and times

Dates of the Gregorian calendar from year 1 to 9999, times of day to the second, and both together. Texts
follow a layout, a list of fields and separators. Reading tries the readings of each field in order of
preference, so a field may have one digit or two; writing pads every field but the year.
-/

namespace Relational

/-- A day of the calendar. -/
structure Date where
  year : Nat
  month : Nat
  day : Nat
  deriving Repr, DecidableEq, Inhabited

/-- A time of day. -/
structure TimeOfDay where
  hour : Nat
  minute : Nat
  second : Nat
  deriving Repr, DecidableEq, Inhabited

/-- A day and a time of day. -/
structure Timestamp where
  date : Date
  time : TimeOfDay
  deriving Repr, DecidableEq, Inhabited

/-- The earlier day is the lesser one. -/
def Date.order (a b : Date) : Ordering :=
  (compare a.year b.year).then ((compare a.month b.month).then (compare a.day b.day))

/-- The earlier time is the lesser one. -/
def TimeOfDay.order (a b : TimeOfDay) : Ordering :=
  (compare a.hour b.hour).then ((compare a.minute b.minute).then (compare a.second b.second))

/-- The earlier moment is the lesser one. -/
def Timestamp.order (a b : Timestamp) : Ordering :=
  (a.date.order b.date).then (a.time.order b.time)

namespace Calendar

open Text

/-- Every fourth year is a leap year, but of the full centuries only every fourth. -/
def isLeapYear (year : Nat) : Bool :=
  year % 4 == 0 && (year % 100 != 0 || year % 400 == 0)

/-- Days of a month. -/
def monthLength (year month : Nat) : Nat :=
  match month with
  | 2 => if isLeapYear year then 29 else 28
  | 4 | 6 | 9 | 11 => 30
  | _ => 31

/-! ## Layouts -/

/-- A piece of a layout. -/
inductive Piece where
  | year
  | month
  | day
  | hour
  | minute
  | second
  | mark (c : Char)
  | gap
  deriving Repr, DecidableEq

/-- `2024-02-29` -/
def dateLayout : List Piece := [.year, .mark '-', .month, .mark '-', .day]

/-- `12:34:56` -/
def timeLayout : List Piece := [.hour, .mark ':', .minute, .mark ':', .second]

/-- `2024-02-29 12:34:56` -/
def timestampLayout : List Piece := dateLayout ++ .gap :: timeLayout

/-- A layout as messages name it. -/
def layoutText (layout : List Piece) : String :=
  String.ofList (layout.flatMap fun
    | .year => ['%', 'Y']
    | .month => ['%', 'm']
    | .day => ['%', 'd']
    | .hour => ['%', 'H']
    | .minute => ['%', 'M']
    | .second => ['%', 'S']
    | .mark c => [c]
    | .gap => [' '])

/-! ## Reading -/

/-- One way to read a piece: the value, if it has one, and the rest of the text. -/
abbrev Reading := Option Nat × List Char

/-- A first digit between `low` and `high`, in ASCII, followed by a digit that `ok` accepts. -/
def twoDigits (low high : Char) (ok : Char → Bool) : List Char → List Reading
  | a :: b :: rest =>
    match digitValue? b with
    | some n => if low ≤ a && a ≤ high && ok b then [(some (10 * (a.toNat - '0'.toNat) + n), rest)] else []
    | none => []
  | _ => []

/-- One digit that `ok` accepts. -/
def oneDigit (ok : Char → Bool) : List Char → List Reading
  | a :: rest =>
    match digitValue? a with
    | some n => if ok a then [(some n, rest)] else []
    | none => []
  | _ => []

/-- ASCII digits from `low` to `high`. -/
def between (low high : Char) (c : Char) : Bool :=
  low ≤ c && c ≤ high

/-- A year has four digits. -/
def yearReadings : List Char → List Reading
  | a :: b :: c :: d :: rest =>
    match digitValue? a, digitValue? b, digitValue? c, digitValue? d with
    | some a, some b, some c, some d => [(some (1000 * a + 100 * b + 10 * c + d), rest)]
    | _, _, _, _ => []
  | _ => []

/-- The ways to read one piece, the preferred one first. -/
def Piece.readings (cs : List Char) : Piece → List Reading
  | .year => yearReadings cs
  | .month => twoDigits '1' '1' (between '0' '2') cs ++ twoDigits '0' '0' (between '1' '9') cs
      ++ oneDigit (between '1' '9') cs
  | .day => twoDigits '3' '3' (between '0' '1') cs ++ twoDigits '1' '2' isDecimalDigit cs
      ++ twoDigits '0' '0' (between '1' '9') cs ++ oneDigit (between '1' '9') cs
      ++ (match cs with
          | ' ' :: rest => oneDigit (between '1' '9') rest
          | _ => [])
  | .hour => twoDigits '2' '2' (between '0' '3') cs ++ twoDigits '0' '1' isDecimalDigit cs
      ++ oneDigit isDecimalDigit cs
  | .minute => twoDigits '0' '5' isDecimalDigit cs ++ oneDigit isDecimalDigit cs
  | .second => twoDigits '6' '6' (between '0' '1') cs ++ twoDigits '0' '5' isDecimalDigit cs
      ++ oneDigit isDecimalDigit cs
  | .mark m =>
    match cs with
    | c :: rest => if c = m then [(none, rest)] else []
    | [] => []
  | .gap =>
    match cs with
    | c :: rest => if isBlank c then [(none, rest.dropWhile isBlank)] else []
    | [] => []

/-- The values of the fields of a layout, in its order, and the text that is left. -/
def readFields : List Piece → List Char → Option (List Nat × List Char)
  | [], cs => some ([], cs)
  | p :: ps, cs =>
    (p.readings cs).findSome? fun (value, rest) =>
      (readFields ps rest).map fun (values, rest) => (value.toList ++ values, rest)

/-- Why a text is no date or time. -/
inductive ReadError where
  | mismatch (text : String) (layout : List Piece)
  | trailing (rest : String)
  | year (year : Nat)
  | day
  | second
  deriving Repr, DecidableEq

/-- The message of a reading error. -/
def ReadError.message : ReadError → String
  | .mismatch text layout =>
    "time data " ++ display text ++ " does not match format " ++ display (layoutText layout)
  | .trailing rest => "unconverted data remains: " ++ rest
  | .year n => "year " ++ Decimal.natText n ++ " is out of range"
  | .day => "day is out of range for month"
  | .second => "second must be in 0..59"

/-- The values of the fields of a layout that fills the whole text. -/
def readLayout (layout : List Piece) (text : String) : Except ReadError (List Nat) :=
  match readFields layout text.toList with
  | none => .error (.mismatch text layout)
  | some (values, []) => .ok values
  | some (_, rest) => .error (.trailing (String.ofList rest))

/-- A day that exists. -/
def date? (year month day : Nat) : Except ReadError Date :=
  if year = 0 then .error (.year year)
  else if monthLength year month < day then .error .day
  else .ok ⟨year, month, day⟩

/-- A time that exists. A minute has no sixtieth second. -/
def time? (hour minute second : Nat) : Except ReadError TimeOfDay :=
  if 59 < second then .error .second else .ok ⟨hour, minute, second⟩

end Calendar

open Calendar

/-- Reads a day. -/
def Date.read (text : String) : Except ReadError Date := do
  match ← readLayout dateLayout text with
  | [y, m, d] => date? y m d
  | _ => .error (.mismatch text dateLayout)

/-- Reads a time of day. -/
def TimeOfDay.read (text : String) : Except ReadError TimeOfDay := do
  match ← readLayout timeLayout text with
  | [h, m, s] => time? h m s
  | _ => .error (.mismatch text timeLayout)

/-- Reads a day and a time of day. -/
def Timestamp.read (text : String) : Except ReadError Timestamp := do
  match ← readLayout timestampLayout text with
  | [y, m, d, h, min, s] =>
    let date ← date? y m d
    let time ← time? h min s
    pure ⟨date, time⟩
  | _ => .error (.mismatch text timestampLayout)

/-! ## Writing -/

/-- A day, the year without padding. -/
def Date.text (d : Date) : String :=
  Decimal.natText d.year ++ "-" ++ Decimal.paddedText 2 d.month ++ "-" ++ Decimal.paddedText 2 d.day

/-- A time of day. -/
def TimeOfDay.text (t : TimeOfDay) : String :=
  Decimal.paddedText 2 t.hour ++ ":" ++ Decimal.paddedText 2 t.minute ++ ":" ++ Decimal.paddedText 2 t.second

/-- A day and a time of day. -/
def Timestamp.text (t : Timestamp) : String :=
  t.date.text ++ " " ++ t.time.text

end Relational

import Relational.Decimal.Binary
import Relational.Entries
import Relational.Json.Basic

/-!
# Reading JSON

`Json.parse?` reads one document. Beyond the standard it takes the numbers `NaN`, `Infinity` and `-Infinity`;
control characters in texts are refused. Of two entries with one key the later counts. Half of a surrogate
pair reads as U+FFFD.
-/

namespace Relational.Json

open Decimal

/-- White space between the parts of a document. -/
def isSpace (c : Char) : Bool :=
  c == ' ' || c == '\n' || c == '\t' || c == '\r'

/-- What follows the white space. -/
def skipSpace (cs : List Char) : List Char :=
  cs.dropWhile isSpace

/-! ## Texts -/

/-- The value of a hexadecimal digit. -/
def hexValue? (c : Char) : Option Nat :=
  if '0' ≤ c && c ≤ '9' then some (c.toNat - '0'.toNat)
  else if 'a' ≤ c && c ≤ 'f' then some (c.toNat - 'a'.toNat + 10)
  else if 'A' ≤ c && c ≤ 'F' then some (c.toNat - 'A'.toNat + 10)
  else none

/-- Four hexadecimal digits. -/
def hexQuad? : List Char → Option (Nat × List Char)
  | a :: b :: c :: d :: rest =>
    match hexValue? a, hexValue? b, hexValue? c, hexValue? d with
    | some a, some b, some c, some d => some (((a * 16 + b) * 16 + c) * 16 + d, rest)
    | _, _, _, _ => none
  | _ => none

/-- The low half of a surrogate pair. -/
def isLowSurrogate (n : Nat) : Bool :=
  0xdc00 ≤ n && n ≤ 0xdfff

/-- The high half of a surrogate pair. -/
def isHighSurrogate (n : Nat) : Bool :=
  0xd800 ≤ n && n ≤ 0xdbff

/-- The character with code unit `n`; the replacement character for a lone surrogate. -/
def unitChar (n : Nat) : Char :=
  if isHighSurrogate n || isLowSurrogate n then Char.ofNat 0xfffd else Char.ofNat n

/-- The character that two halves of a surrogate pair form. -/
def surrogateChar (high low : Nat) : Char :=
  Char.ofNat (0x10000 + (high - 0xd800) * 0x400 + (low - 0xdc00))

/-- The character after a backslash and `u`, where two code units may form one character. -/
def readEscaped? (cs : List Char) : Option (Char × List Char) :=
  match hexQuad? cs with
  | none => none
  | some (high, rest) =>
    if isHighSurrogate high then
      match rest with
      | '\\' :: 'u' :: more =>
        match hexQuad? more with
        | some (low, after) =>
          if isLowSurrogate low then some (surrogateChar high low, after)
          else some (unitChar high, rest)
        | none => none
      | _ => some (unitChar high, rest)
    else some (unitChar high, rest)

/-- The character that one letter after a backslash stands for. -/
def escapedChar? : Char → Option Char
  | '"' => some '"'
  | '\\' => some '\\'
  | '/' => some '/'
  | 'b' => some '\x08'
  | 'f' => some '\x0c'
  | 'n' => some '\n'
  | 'r' => some '\r'
  | 't' => some '\t'
  | _ => none

/-- The characters of a text up to its closing quote, and what follows the quote. Every character read uses
up at least one, so `fuel` may be the length of what is given. -/
def readChars : Nat → List Char → Option (List Char × List Char)
  | 0, _ => none
  | fuel + 1, cs =>
    match cs with
    | [] => none
    | '"' :: rest => some ([], rest)
    | '\\' :: 'u' :: rest =>
      (readEscaped? rest).bind fun (c, rest) =>
        (readChars fuel rest).map fun (chars, rest) => (c :: chars, rest)
    | '\\' :: e :: rest =>
      (escapedChar? e).bind fun c =>
        (readChars fuel rest).map fun (chars, rest) => (c :: chars, rest)
    | c :: rest =>
      if c = '\\' || c.toNat < 0x20 then none
      else (readChars fuel rest).map fun (chars, rest) => (c :: chars, rest)

/-- A text after its opening quote. -/
def readText (cs : List Char) : Option (String × List Char) :=
  (readChars cs.length cs).map fun (chars, rest) => (String.ofList chars, rest)

/-! ## Numbers -/

/-- The decimal digits at the start. -/
def spanAscii (cs : List Char) : List Char × List Char :=
  (cs.takeWhile Char.isDigit, cs.dropWhile Char.isDigit)

/-- The number with the given digits. -/
def digitsValue (digits : List Char) : Nat :=
  ofDigits (digits.map fun c => c.toNat - '0'.toNat)

/-- The digits before the point: a zero alone, or digits that do not start with one. -/
def readWhole : List Char → Option (List Char × List Char)
  | '0' :: rest => some (['0'], rest)
  | cs => if (cs.takeWhile Char.isDigit).isEmpty then none else some (spanAscii cs)

/-- The digits after a point, none if no digit follows the point. -/
def readFraction (cs : List Char) : List Char × List Char :=
  match cs with
  | '.' :: rest => if (rest.takeWhile Char.isDigit).isEmpty then ([], cs) else spanAscii rest
  | _ => ([], cs)

/-- The sign and the digits of an exponent, if it has digits. -/
def readExponent (cs : List Char) : Option Int × List Char :=
  match cs with
  | e :: rest =>
    if e = 'e' || e = 'E' then
      let (negative, digits) :=
        match rest with
        | '-' :: rest => (true, rest)
        | '+' :: rest => (false, rest)
        | rest => (false, rest)
      let (exponent, after) := spanAscii digits
      if exponent.isEmpty then (none, cs)
      else
        let n : Int := digitsValue exponent
        (some (if negative then -n else n), after)
    else (none, cs)
  | [] => (none, cs)

/-- A number after its sign; it is whole if it has neither a point nor an exponent. -/
def readNumber (negative : Bool) (cs : List Char) : Option (Json × List Char) :=
  (readWhole cs).map fun (whole, rest) =>
    let (fraction, rest) := readFraction rest
    let (exponent, rest) := readExponent rest
    if fraction.isEmpty && exponent.isNone then
      let n : Int := digitsValue whole
      (.int (if negative then -n else n), rest)
    else
      let coefficient := digitsValue (whole ++ fraction)
      (.real (RealNumeral.finite negative coefficient (exponent.getD 0 - fraction.length)).toFloat, rest)

/-- Takes a fixed word off the start. -/
def dropWord? : List Char → List Char → Option (List Char)
  | [], cs => some cs
  | w :: word, c :: cs => if w = c then dropWord? word cs else none
  | _ :: _, [] => none

/-- A word with a meaning of its own. -/
def readWord (cs : List Char) : Option (Json × List Char) :=
  let words : List (String × Json) :=
    [("null", .null), ("true", .bool true), ("false", .bool false), ("NaN", .real RealNumeral.nan.toFloat),
      ("Infinity", .real (RealNumeral.infinite false).toFloat)]
  words.findSome? fun (word, value) => (dropWord? word.toList cs).map fun rest => (value, rest)

/-- A number or a word. -/
def readScalar (cs : List Char) : Option (Json × List Char) :=
  match cs with
  | '-' :: rest =>
    match dropWord? "Infinity".toList rest with
    | some rest => some (.real (RealNumeral.infinite true).toFloat, rest)
    | none => readNumber true rest
  | _ => (readNumber false cs).or (readWord cs)

/-! ## Values -/

mutual

/-- One value and what follows it. -/
def readValue : Nat → List Char → Option (Json × List Char)
  | 0, _ => none
  | fuel + 1, cs =>
    match skipSpace cs with
    | '"' :: rest => (readText rest).map fun (s, rest) => (.text s, rest)
    | '[' :: rest =>
      match skipSpace rest with
      | ']' :: rest => some (.list [], rest)
      | rest => (readItems fuel rest).map fun (items, rest) => (.list items, rest)
    | '{' :: rest =>
      match skipSpace rest with
      | '}' :: rest => some (.object [], rest)
      | rest => (readEntries fuel rest).map fun (entries, rest) => (.object (collectEntries entries), rest)
    | rest => readScalar rest

/-- The items of a list up to its closing bracket; there is at least one. -/
def readItems : Nat → List Char → Option (List Json × List Char)
  | 0, _ => none
  | fuel + 1, cs =>
    match readValue fuel cs with
    | none => none
    | some (item, rest) =>
      match skipSpace rest with
      | ',' :: rest => (readItems fuel rest).map fun (items, rest) => (item :: items, rest)
      | ']' :: rest => some ([item], rest)
      | _ => none

/-- The entries of an object up to its closing brace; there is at least one. -/
def readEntries : Nat → List Char → Option (List (String × Json) × List Char)
  | 0, _ => none
  | fuel + 1, cs =>
    match skipSpace cs with
    | '"' :: rest =>
      match readText rest with
      | none => none
      | some (key, rest) =>
        match skipSpace rest with
        | ':' :: rest =>
          match readValue fuel rest with
          | none => none
          | some (value, rest) =>
            match skipSpace rest with
            | ',' :: rest => (readEntries fuel rest).map fun (entries, rest) => ((key, value) :: entries, rest)
            | '}' :: rest => some ([(key, value)], rest)
            | _ => none
        | _ => none
    | _ => none

end

/-- Reads a document. A value within another starts at a later character, so twice the number of characters
bounds the depth of the calls. -/
def parse? (s : String) : Option Json :=
  match readValue (2 * s.length + 1) s.toList with
  | some (value, rest) => if (skipSpace rest).isEmpty then some value else none
  | none => none

end Relational.Json

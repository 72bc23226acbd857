import Relational.Decimal.Power
import Relational.Text.Blank
import Relational.Text.Letter

/-!
# Reading and writing numerals

A numeral is read from text with white space around it, one sign, decimal digits of any script, and single
underscores between digits. `readInteger?` reads an integer, `readReal?` a numeral with a point or an
exponent, as sign, coefficient and power of ten, so that nothing is rounded here.
-/

namespace Relational.Decimal

open Text

/-- The number with the given decimal digits, first one first. -/
def ofDigits (digits : List Nat) : Nat :=
  digits.foldl (fun n d => 10 * n + d) 0

/-- The first character is a decimal digit. -/
def startsWithDigit : List Char → Bool
  | [] => false
  | c :: _ => isDecimalDigit c

/-- Digits at the start of a text and the rest; `inside` tells that a digit stands before. A single underscore
between two digits is passed over. -/
def spanDigitsFrom (inside : Bool) : List Char → List Nat × List Char
  | [] => ([], [])
  | c :: cs =>
    match digitValue? c with
    | some d =>
      let (ds, rest) := spanDigitsFrom true cs
      (d :: ds, rest)
    | none =>
      if inside && c == '_' && startsWithDigit cs then spanDigitsFrom false cs else ([], c :: cs)

/-- The digits at the start of a text, and the rest. -/
def spanDigits (cs : List Char) : List Nat × List Char :=
  spanDigitsFrom false cs

/-- Whether the text starts with a minus, and the text after its sign. -/
def spanSign : List Char → Bool × List Char
  | '-' :: cs => (true, cs)
  | '+' :: cs => (false, cs)
  | cs => (false, cs)

/-- White space that may stand around a numeral: every blank but the four information separators. -/
def isMargin (c : Char) : Bool :=
  isBlank c && !(28 ≤ c.toNat && c.toNat ≤ 31)

/-- An integer. -/
def readInteger? (s : String) : Option Int :=
  let (negative, cs) := spanSign (trimWhile isMargin s.toList)
  match spanDigits cs with
  | (d :: ds, []) =>
    let n : Int := ofDigits (d :: ds)
    some (if negative then -n else n)
  | _ => none

/-- What a real numeral says. -/
inductive RealNumeral where
  /-- `coefficient * 10 ^ exponent`, negated if `negative`. -/
  | finite (negative : Bool) (coefficient : Nat) (exponent : Int)
  | infinite (negative : Bool)
  | nan
  deriving Repr, DecidableEq

/-- The exponent after the digits: none at all, or `e`, a sign and digits up to the end. -/
def readExponent? : List Char → Option Int
  | [] => some 0
  | c :: cs =>
    if c = 'e' || c = 'E' then
      let (negative, cs) := spanSign cs
      match spanDigits cs with
      | (d :: ds, []) =>
        let n : Int := ofDigits (d :: ds)
        some (if negative then -n else n)
      | _ => none
    else none

/-- Digits with a point and an exponent; there has to be a digit on one side of the point. -/
def readFinite? (negative : Bool) (cs : List Char) : Option RealNumeral :=
  let (whole, rest) := spanDigits cs
  let (fraction, rest) :=
    match rest with
    | '.' :: rest => spanDigits rest
    | rest => ([], rest)
  if whole.isEmpty && fraction.isEmpty then none
  else (readExponent? rest).map fun e =>
    .finite negative (ofDigits (whole ++ fraction)) (e - fraction.length)

/-- A real numeral, or one of the words `inf`, `infinity` and `nan` in any case. -/
def readReal? (s : String) : Option RealNumeral :=
  let (negative, cs) := spanSign (trimWhile isMargin s.toList)
  match String.ofList (cs.map Char.toLower) with
  | "inf" => some (.infinite negative)
  | "infinity" => some (.infinite negative)
  | "nan" => some .nan
  | _ => readFinite? negative cs

/-- One decimal digit. -/
def digitChar (n : Nat) : Char :=
  Char.ofNat ('0'.toNat + n % 10)

/-- The decimal digits of `n` before `digits`. -/
def digitsOnto (n : Nat) (digits : List Char) : List Char :=
  if n < 10 then digitChar n :: digits else digitsOnto (n / 10) (digitChar n :: digits)
termination_by n
decreasing_by omega

/-- The decimal digits of `n`, without leading zeros. -/
def natDigits (n : Nat) : List Char :=
  digitsOnto n []

/-- A natural number in decimal. -/
def natText (n : Nat) : String :=
  String.ofList (natDigits n)

/-- An integer in decimal, with a minus if it is negative. -/
def intText (n : Int) : String :=
  if n < 0 then "-" ++ natText n.natAbs else natText n.natAbs

/-- The last `width` decimal digits of `n`. -/
def paddedDigits : Nat → Nat → List Char
  | 0, _ => []
  | width + 1, n => paddedDigits width (n / 10) ++ [digitChar n]

/-- `n` in decimal with at least `width` digits. -/
def paddedText (width n : Nat) : String :=
  if n < tenTo width then String.ofList (paddedDigits width n) else natText n

end Relational.Decimal

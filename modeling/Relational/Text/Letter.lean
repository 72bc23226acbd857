import Relational.Unicode.Letters
import Relational.Unicode.Printable

/-!
# Classes of characters

Letters, digits and printable characters of every script. Each test answers for ASCII by itself and looks
into the range lists beyond.
-/

namespace Relational.Text

open Unicode

/-- Letters of every script. -/
def isLetter (c : Char) : Bool :=
  if c.toNat < 0x80 then c.isAlpha else letterRanges.covers c.toNat

/-- Letters, and characters with a numeric value. -/
def isLetterOrNumber (c : Char) : Bool :=
  if c.toNat < 0x80 then c.isAlphanum
  else letterRanges.covers c.toNat || numericRanges.covers c.toNat

/-- Characters of words: letters, numbers and the underscore. -/
def isWordChar (c : Char) : Bool :=
  c == '_' || isLetterOrNumber c

/-- Digits, among them superscript and circled ones, which have no place value. -/
def isDigitLike (c : Char) : Bool :=
  if c.toNat < 0x80 then c.isDigit else digitRanges.covers c.toNat

/-- The value of a decimal digit of any script. -/
def digitValue? (c : Char) : Option Nat :=
  if c.toNat < 0x80 then
    if c.isDigit then some (c.toNat - '0'.toNat) else none
  else (decimalRanges.find? c.toNat).map fun r => (c.toNat - r.1) % 10

/-- Decimal digits of any script. -/
def isDecimalDigit (c : Char) : Bool :=
  (digitValue? c).isSome

/-- Characters with a visible form, and the space. -/
def isPrintable (c : Char) : Bool :=
  if c.toNat < 0x80 then 0x20 ≤ c.toNat && c.toNat < 0x7f
  else !unprintableRanges.covers c.toNat

end Relational.Text

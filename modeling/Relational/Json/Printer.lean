import Relational.Json.Basic
import Relational.Decimal.Shortest
import Relational.Text.Quoted

/-!
# Writing JSON

`Json.print` writes a document over several lines, two blanks deeper for each level. Whatever is not a visible
ASCII character is written as an escape of its UTF-16 code units, so a document is plain ASCII.
-/

namespace Relational.Json

open Decimal Text

/-- One UTF-16 code unit as an escape. -/
def unitEscape (n : Nat) : List Char :=
  '\\' :: 'u' :: hexDigits 4 n

/-- One character of a text. -/
def charText (c : Char) : List Char :=
  if c = '"' || c = '\\' then ['\\', c]
  else if ' ' ≤ c && c ≤ '~' then [c]
  else if c = '\n' then ['\\', 'n']
  else if c = '\r' then ['\\', 'r']
  else if c = '\t' then ['\\', 't']
  else if c = '\x08' then ['\\', 'b']
  else if c = '\x0c' then ['\\', 'f']
  else if c.toNat < 0x10000 then unitEscape c.toNat
  else
    let n := c.toNat - 0x10000
    unitEscape (0xd800 + n / 0x400) ++ unitEscape (0xdc00 + n % 0x400)

/-- A text between quotes. -/
def textChars (s : String) : List Char :=
  '"' :: (s.toList.flatMap charText ++ ['"'])

/-- A number with a point or an exponent, or its name. -/
def numberText (x : Float) : String :=
  if x.isNaN then "NaN"
  else if x.isInf then (if x < 0 then "-Infinity" else "Infinity")
  else realText x

/-- The start of a line `depth` levels deep. -/
def newline (depth : Nat) : List Char :=
  '\n' :: List.replicate (2 * depth) ' '

mutual

/-- A value whose first line starts `depth` levels deep. -/
def valueChars (depth : Nat) : Json → List Char
  | .null => "null".toList
  | .bool b => if b then "true".toList else "false".toList
  | .int n => (intText n).toList
  | .real x => (numberText x).toList
  | .text s => textChars s
  | .list [] => ['[', ']']
  | .list (item :: items) =>
    '[' :: (newline (depth + 1) ++ valueChars (depth + 1) item ++ itemsChars (depth + 1) items
      ++ newline depth ++ [']'])
  | .object [] => ['{', '}']
  | .object ((key, value) :: entries) =>
    '{' :: (newline (depth + 1) ++ textChars key ++ [':', ' '] ++ valueChars (depth + 1) value
      ++ entriesChars (depth + 1) entries ++ newline depth ++ ['}'])

/-- The items after the first, each on a line of its own. -/
def itemsChars (depth : Nat) : List Json → List Char
  | [] => []
  | item :: items => ',' :: (newline depth ++ valueChars depth item ++ itemsChars depth items)

/-- The entries after the first, each on a line of its own. -/
def entriesChars (depth : Nat) : List (String × Json) → List Char
  | [] => []
  | (key, value) :: entries =>
    ',' :: (newline depth ++ textChars key ++ [':', ' '] ++ valueChars depth value ++ entriesChars depth entries)

end

/-- Writes a document. -/
def print (document : Json) : String :=
  String.ofList (valueChars 0 document)

end Relational.Json

import Relational.Text.Letter

/-!
# Quoted text

Two ways to write a text between quotes. `quote` writes a string literal of the query language: single
quotes, and a backslash before each single quote inside. `display` shows a text in a message: it picks the
quote that needs no escape and spells out what cannot be seen.
-/

namespace Relational.Text

/-- The body of a string literal. -/
def escapeQuotes (cs : List Char) : List Char :=
  cs.flatMap fun c => if c = '\'' then ['\\', '\''] else [c]

/-- A string literal of the query language. -/
def quoteChars (cs : List Char) : List Char :=
  '\'' :: (escapeQuotes cs ++ ['\''])

/-- A string literal of the query language. -/
def quote (s : String) : String :=
  String.ofList (quoteChars s.toList)

/-- One hexadecimal digit, in lower case. -/
def hexDigit (n : Nat) : Char :=
  if n < 10 then Char.ofNat ('0'.toNat + n) else Char.ofNat ('a'.toNat + (n - 10))

/-- The last `width` hexadecimal digits of `n`. -/
def hexDigits : Nat → Nat → List Char
  | 0, _ => []
  | width + 1, n => hexDigits width (n / 16) ++ [hexDigit (n % 16)]

/-- One character of a displayed text. -/
def displayChar (mark c : Char) : List Char :=
  if c = mark || c = '\\' then ['\\', c]
  else if c = '\n' then ['\\', 'n']
  else if c = '\r' then ['\\', 'r']
  else if c = '\t' then ['\\', 't']
  else if isPrintable c then [c]
  else if c.toNat ≤ 0xff then '\\' :: 'x' :: hexDigits 2 c.toNat
  else if c.toNat ≤ 0xffff then '\\' :: 'u' :: hexDigits 4 c.toNat
  else '\\' :: 'U' :: hexDigits 8 c.toNat

/-- The quote around a displayed text: single, unless the text holds single quotes and no double ones. -/
def displayMark (cs : List Char) : Char :=
  if cs.contains '\'' && !cs.contains '"' then '"' else '\''

/-- A text as messages show it. -/
def display (s : String) : String :=
  let mark := displayMark s.toList
  String.ofList (mark :: (s.toList.flatMap (displayChar mark) ++ [mark]))

/-- A list of texts as messages show it. -/
def displayList (texts : List String) : String :=
  "[" ++ ", ".intercalate (texts.map display) ++ "]"

end Relational.Text

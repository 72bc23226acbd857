import Relational.Decimal.Shortest
import Relational.Json.Basic
import Relational.Text.Quoted

/-!
# Showing JSON

`Json.display` shows a value in a message or a table, on one line, with texts as `Text.display` shows them.
-/

namespace Relational.Json

open Decimal

mutual

/-- A value on one line. -/
def display : Json → String
  | .null => "None"
  | .bool b => if b then "True" else "False"
  | .int n => intText n
  | .real x => realText x
  | .text s => Text.display s
  | .list items => "[" ++ ", ".intercalate (displayItems items) ++ "]"
  | .object entries => "\x7b" ++ ", ".intercalate (displayEntries entries) ++ "\x7d"

/-- Items, each on its own. -/
def displayItems : List Json → List String
  | [] => []
  | item :: items => display item :: displayItems items

/-- Entries, each on its own. -/
def displayEntries : List (String × Json) → List String
  | [] => []
  | (key, value) :: entries => (Text.display key ++ ": " ++ display value) :: displayEntries entries

end

/-- A value as it stands in a text; a text is shown without quotes. -/
def shown : Json → String
  | .text s => s
  | value => value.display

end Relational.Json

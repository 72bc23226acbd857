import Relational.Failure
import Relational.Json.Display
import Relational.NullText

/-!
# Cells

A cell of a table is a text. Only a table that was loaded from a document can hold something else: null, which counts
as NULL, or another value, which is passed on as it is and of which no condition, order or rule can make sense.
-/

namespace Relational

/-- A cell of a table. -/
inductive Cell where
  | text (s : String)
  /-- What a document holds in the place of a text. -/
  | other (value : Json)
  deriving Repr, DecidableEq

namespace Cell

/-- A value of a document as a cell. -/
def ofJson : Json → Cell
  | .text s => .text s
  | value => .other value

/-- A cell as a value of a document. -/
def toJson : Cell → Json
  | .text s => .text s
  | .other value => value

/-- The text by which a cell counts. -/
def asText : Cell → Except Failure String
  | .text s => .ok s
  | .other .null => .ok nullText
  | .other _ => fail .malformed

/-- A cell in a table that is shown; null has no text there. -/
def shown : Cell → String
  | .text s => s
  | .other .null => ""
  | .other value => value.shown

/-- The texts of a row. -/
def texts (row : List Cell) : Except Failure (List String) :=
  row.mapM asText

/-- A row of texts. -/
def ofTexts (texts : List String) : List Cell :=
  texts.map .text

/-- The texts of a key, up to its first NULL. -/
def keyTexts : List Cell → Except Failure (List String)
  | [] => .ok []
  | cell :: cells => do
    let text ← cell.asText
    if isNullText text then pure [text] else pure (text :: (← keyTexts cells))

theorem texts_ofTexts (row : List String) : texts (ofTexts row) = .ok row := by
  induction row with
  | nil => rfl
  | cons text row ih =>
    simp only [texts, ofTexts, List.map_cons, List.mapM_cons] at ih ⊢
    rw [ih]
    rfl

end Cell

end Relational

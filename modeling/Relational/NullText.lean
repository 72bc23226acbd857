import Relational.Text.Blank
import Relational.Text.Case

/-!
# The text of NULL

Cells of a table are texts. NULL is the text `NULL`; on input every casing of that word, blanks around it or
nothing but blanks mean the same.
-/

namespace Relational

/-- The text that stands for NULL in a table. -/
def nullText : String := "NULL"

/-- Some casing of the word, with blanks around it. -/
def isNullWord (text : String) : Bool :=
  Text.upper (Text.strip text) == nullText

/-- A text that means NULL. -/
def isNullText (text : String) : Bool :=
  Text.strip text == "" || isNullWord text

end Relational

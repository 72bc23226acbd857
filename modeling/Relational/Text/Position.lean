/-!
# Positions in a text

Lines and columns count from 1; a newline starts a line.
-/

namespace Relational.Text

/-- A place in a text. -/
structure Position where
  line : Nat
  column : Nat
  deriving Repr, DecidableEq, Inhabited

/-- The place of the first character. -/
def Position.start : Position := ⟨1, 1⟩

/-- The place after a character. -/
def Position.advance (p : Position) (c : Char) : Position :=
  if c = '\n' then ⟨p.line + 1, 1⟩ else ⟨p.line, p.column + 1⟩

/-- The place after a piece of text. -/
def Position.advanceOver (p : Position) (cs : List Char) : Position :=
  cs.foldl Position.advance p

end Relational.Text

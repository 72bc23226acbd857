/-!
# Patterns of LIKE

In a pattern `%` stands for any text, `_` for any one character, and every other character for itself.
-/

namespace Relational.Text

/-- A text and what is left of it after each of its characters. -/
def suffixes : List Char → List (List Char)
  | [] => [[]]
  | c :: cs => (c :: cs) :: suffixes cs

/-- The pattern describes the whole text. -/
def fitsPattern : List Char → List Char → Bool
  | [], cs => cs.isEmpty
  | '%' :: pattern, cs => (suffixes cs).any (fitsPattern pattern)
  | '_' :: pattern, cs =>
    match cs with
    | [] => false
    | _ :: cs => fitsPattern pattern cs
  | p :: pattern, cs =>
    match cs with
    | [] => false
    | c :: cs => p = c && fitsPattern pattern cs

end Relational.Text

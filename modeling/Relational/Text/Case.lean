import Relational.Unicode.Casing

/-!
# Letter case

Full case mappings: one character may become several (`ß` is `SS` in upper case), and a capital sigma at the
end of a word has a lower case of its own. On ASCII they are the mappings of core.
-/

namespace Relational.Text

open Unicode

/-- The image of a character beyond ASCII under a full mapping, else under the runs, else itself. -/
def mapCase (full : List (Nat × List Nat)) (runs : List CaseRun) (c : Char) : List Char :=
  match full.find? (fun entry => entry.1 == c.toNat) with
  | some (_, image) => image.map Char.ofNat
  | none =>
    match runs.findSome? (fun run => run.image? c.toNat) with
    | some n => [Char.ofNat n]
    | none => [c]

/-- The upper case of one character. -/
def upperChar (c : Char) : List Char :=
  if c.toNat < 0x80 then [c.toUpper] else mapCase upperFull upperRuns c

/-- The lower case of one character, wherever it stands. -/
def lowerChar (c : Char) : List Char :=
  if c.toNat < 0x80 then [c.toLower] else mapCase lowerFull lowerRuns c

/-- Text in upper case. -/
def upper (s : String) : String :=
  String.ofList (s.toList.flatMap upperChar)

/-- Characters that have case. -/
def isCased (c : Char) : Bool :=
  if c.toNat < 0x80 then c.isAlpha else casedRanges.covers c.toNat

/-- Characters that are passed over when the end of a word is sought. -/
def isCaseIgnorable (c : Char) : Bool :=
  if c.toNat < 0x80 then c == '\'' || c == '.' || c == ':' || c == '^' || c.toNat == 0x60
  else caseIgnorableRanges.covers c.toNat

/-- The next character that counts has case. -/
def meetsCased (cs : List Char) : Bool :=
  match cs.dropWhile isCaseIgnorable with
  | [] => false
  | c :: _ => isCased c

/-- Lower case of `cs`, which follow the characters `before`, last one first. -/
def lowerFrom (before : List Char) : List Char → List Char
  | [] => []
  | c :: cs =>
    let image :=
      if c = 'Σ' then [if meetsCased before && !meetsCased cs then 'ς' else 'σ'] else lowerChar c
    image ++ lowerFrom (c :: before) cs

/-- Text in lower case. -/
def lower (s : String) : String :=
  String.ofList (lowerFrom [] s.toList)

/-- Two names are the same when case is left aside. -/
def sameName (a b : String) : Bool :=
  lower a == lower b

end Relational.Text

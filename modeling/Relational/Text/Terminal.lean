import Relational.Text.Blank
import Relational.Text.Letter

/-!
# Text on a terminal

A terminal does not show all of a text. A control sequence sets colours and the like and takes no place, and of a
link only its words are shown. `visible` is what is left of a text.
-/

namespace Relational.Text

/-- The character with which every sequence starts. -/
def escape : Char := '\x1b'

/-- The code of the character lies between two codes. -/
def codeWithin (low high : Nat) (c : Char) : Bool :=
  low ≤ c.toNat && c.toNat ≤ high

/-- The length of a control sequence after its bracket: parameters, marks and one final character. -/
def controlLength? (cs : List Char) : Option Nat :=
  let parameters := cs.takeWhile (codeWithin 0x30 0x3f)
  let marks := (cs.drop parameters.length).takeWhile (codeWithin 0x20 0x2f)
  let length := parameters.length + marks.length
  match cs[length]? with
  | some c => if codeWithin 0x40 0x7e c then some (length + 1) else none
  | none => none

/-- Names with values, such as `id=1`. A name may follow the value before it without a mark between them. -/
def isAssignments (cs : List Char) : Bool :=
  match splitAt '=' cs with
  | first :: word :: words =>
    (first ++ (word :: words).flatten).all isWordChar && !first.isEmpty
      && (word :: words).dropLast.all (fun word => 2 ≤ word.length) && (word :: words).getLast? != some []
  | _ => false

/-- The parameters of a link: assignments with a colon between them or after them, or nothing. -/
def isLinkParameters (cs : List Char) : Bool :=
  let pieces := splitAt ':' cs
  (if pieces.getLast? == some [] then pieces.dropLast else pieces).all isAssignments

/-- The words of a link, and its length after the opening mark: parameters, a semicolon, a target, the words and
the closing mark. -/
def link? (cs : List Char) : Option (List Char × Nat) :=
  let parameters := cs.takeWhile (· != ';')
  if !isLinkParameters parameters then none
  else
    let target := (cs.drop (parameters.length + 1)).takeWhile (· != escape)
    match cs.drop (parameters.length + 1 + target.length) with
    | e :: '\\' :: rest =>
      let words := rest.takeWhile (· != escape)
      let closing := [escape, ']', '8', ';', ';', escape, '\\']
      if e == escape && !target.isEmpty && !words.isEmpty && closing.isPrefixOf (rest.drop words.length) then
        some (words, parameters.length + 1 + target.length + 2 + words.length + closing.length)
      else none
    | _ => none

/-- What a sequence at the start of a text shows, and its length. -/
def sequence? : List Char → Option (List Char × Nat)
  | e :: '[' :: cs => if e == escape then (controlLength? cs).map fun n => ([], n + 2) else none
  | e :: ']' :: '8' :: ';' :: cs => if e == escape then (link? cs).map fun (words, n) => (words, n + 4) else none
  | _ => none

/-- Some sequence stands in the text. -/
def hasSequence : List Char → Bool
  | [] => false
  | c :: cs => (sequence? (c :: cs)).isSome || hasSequence cs

/-- The characters that a terminal shows. -/
def visible : List Char → List Char
  | [] => []
  | c :: cs =>
    match sequence? (c :: cs) with
    | some (shown, length) => shown ++ visible (cs.drop (length - 1))
    | none => c :: visible cs
termination_by cs => cs.length
decreasing_by
  · simp only [List.length_drop, List.length_cons]; omega
  · simp

/-- The number of characters that a terminal shows. -/
def visibleWidth (cs : List Char) : Nat :=
  (visible cs).length

/-- A text without sequences is shown as it is. -/
theorem visible_eq_self {cs : List Char} (h : hasSequence cs = false) : visible cs = cs := by
  induction cs with
  | nil => simp [visible]
  | cons c cs ih =>
    simp only [hasSequence, Bool.or_eq_false_iff, Option.isSome_eq_false_iff, Option.isNone_iff_eq_none] at h
    simp [visible, h.1, ih h.2]

end Relational.Text

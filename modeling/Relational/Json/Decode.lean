import Relational.Failure
import Relational.Json.Display

/-!
# Taking documents apart

Readers for the entries of an object. An entry that has to be there and is not, or a value of the wrong shape,
is a fault.
-/

namespace Relational.Json

/-- The entries of an object. -/
def entries : Json → Except Failure (List (String × Json))
  | .object found => .ok found
  | _ => fail .malformed

/-- The items of a list. -/
def items : Json → Except Failure (List Json)
  | .list found => .ok found
  | _ => fail .malformed

/-- A text. -/
def asText : Json → Except Failure String
  | .text s => .ok s
  | _ => fail .malformed

/-- A truth value. -/
def asBool : Json → Except Failure Bool
  | .bool b => .ok b
  | _ => fail .malformed

/-- An integer. -/
def asInt : Json → Except Failure Int
  | .int n => .ok n
  | _ => fail .malformed

/-- A natural number. -/
def asNat : Json → Except Failure Nat
  | .int (.ofNat n) => .ok n
  | _ => fail .malformed

/-- A list of texts. -/
def asTexts (document : Json) : Except Failure (List String) := do
  (← document.items).mapM asText

/-- The texts in a value: those of a list, the characters of a text, or the keys of an object; none if the value
counts as false. -/
def names (document : Json) : Except Failure (List String) :=
  if !document.isTruthy then .ok []
  else
    match document with
    | .text s => .ok (s.toList.map Char.toString)
    | .object entries => .ok (entries.map Prod.fst)
    | value => value.asTexts

/-- A name. A value that counts as false is an empty one. -/
def asName (document : Json) : Except Failure String :=
  match document with
  | .text s => .ok s
  | value => if value.isTruthy then fail .malformed else refuse (.name value.display .empty)

/-- An entry that has to be there. -/
def require (key : String) (document : Json) : Except Failure Json := do
  match (← document.entries).lookup key with
  | some value => pure value
  | none => fail (.missingKey key)

/-- An entry that may be missing, or another value in its place. -/
def fieldOr {α : Type} (key : String) (read : Json → Except Failure α) (missing : α) (document : Json) :
    Except Failure α := do
  match (← document.entries).lookup key with
  | some value => read value
  | none => pure missing

/-- An entry that may be missing or null. -/
def optional {α : Type} (key : String) (read : Json → Except Failure α) (document : Json) :
    Except Failure (Option α) := do
  match (← document.entries).lookup key with
  | none => pure none
  | some .null => pure none
  | some value => some <$> read value

/-! ## Entries of an unusual kind -/

/-- What the entry of a key means, and the entry itself if its value is none of the usual ones. -/
def reading {α : Type} (key : String) (missing : α) (usual : Json → Option α) (meaning : Json → α)
    (document : Json) : α × List (String × Json) :=
  match document.field? key with
  | none => (missing, [])
  | some value =>
    match usual value with
    | some a => (a, [])
    | none => (meaning value, [(key, value)])

/-- A truth value; any other value stands for one as well. -/
def flag (key : String) (document : Json) : Bool × List (String × Json) :=
  document.reading key false (fun value => if let .bool b := value then some b else none) isTruthy

/-- A text, or null for none; any other value says nothing. -/
def text? (key : String) (document : Json) : Option String × List (String × Json) :=
  document.reading key none
    (fun value =>
      match value with
      | .text s => some (some s)
      | .null => some none
      | _ => none)
    fun _ => none

/-- An integer, or null for none; any other value says nothing. -/
def int? (key : String) (document : Json) : Option Int × List (String × Json) :=
  document.reading key none
    (fun value =>
      match value with
      | .int n => some (some n)
      | .null => some none
      | _ => none)
    fun _ => none

/-- A text that may be missing; any other value says nothing. -/
def remark (key : String) (document : Json) : String × List (String × Json) :=
  document.reading key "" (fun value => if let .text s := value then some s else none) fun _ => ""

/-- Entries with the values of `written` in place of their own. -/
def restore (written entries : List (String × Json)) : List (String × Json) :=
  entries.map fun (key, value) => (key, (written.lookup key).getD value)

end Relational.Json

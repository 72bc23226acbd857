/-!
# JSON documents

The values of JSON. An object is a list of entries in the order they were first given, one for each key.
Whole numbers are kept apart from numbers with a point or an exponent.
-/

namespace Relational

/-- A JSON value. -/
inductive Json where
  | null
  | bool (b : Bool)
  | int (n : Int)
  | real (x : Float)
  | text (s : String)
  | list (items : List Json)
  | object (entries : List (String × Json))
  deriving Inhabited, Repr

namespace Json

/-! ## Equality -/

mutual

/-- Two values are the same. -/
def decEq (a b : Json) : Decidable (a = b) :=
  match a, b with
  | .null, .null => isTrue rfl
  | .bool a, .bool b => decidable_of_iff (a = b) (by simp)
  | .int a, .int b => decidable_of_iff (a = b) (by simp)
  | .real a, .real b => decidable_of_iff (a = b) (by simp)
  | .text a, .text b => decidable_of_iff (a = b) (by simp)
  | .list a, .list b => @decidable_of_iff _ (a = b) (by simp) (decEqItems a b)
  | .object a, .object b => @decidable_of_iff _ (a = b) (by simp) (decEqEntries a b)
  | .null, .bool _ | .null, .int _ | .null, .real _ | .null, .text _ | .null, .list _ | .null, .object _
  | .bool _, .null | .bool _, .int _ | .bool _, .real _ | .bool _, .text _ | .bool _, .list _ | .bool _, .object _
  | .int _, .null | .int _, .bool _ | .int _, .real _ | .int _, .text _ | .int _, .list _ | .int _, .object _
  | .real _, .null | .real _, .bool _ | .real _, .int _ | .real _, .text _ | .real _, .list _ | .real _, .object _
  | .text _, .null | .text _, .bool _ | .text _, .int _ | .text _, .real _ | .text _, .list _ | .text _, .object _
  | .list _, .null | .list _, .bool _ | .list _, .int _ | .list _, .real _ | .list _, .text _ | .list _, .object _
  | .object _, .null | .object _, .bool _ | .object _, .int _ | .object _, .real _ | .object _, .text _
  | .object _, .list _ => isFalse (by simp)

/-- Two lists of items are the same. -/
def decEqItems (a b : List Json) : Decidable (a = b) :=
  match a, b with
  | [], [] => isTrue rfl
  | [], _ :: _ | _ :: _, [] => isFalse (by simp)
  | a :: as, b :: bs =>
    @decidable_of_iff _ (a = b ∧ as = bs) (by simp) (@instDecidableAnd _ _ (decEq a b) (decEqItems as bs))

/-- Two lists of entries are the same. -/
def decEqEntries (a b : List (String × Json)) : Decidable (a = b) :=
  match a, b with
  | [], [] => isTrue rfl
  | [], _ :: _ | _ :: _, [] => isFalse (by simp)
  | (key, a) :: as, (otherKey, b) :: bs =>
    @decidable_of_iff _ (key = otherKey ∧ a = b ∧ as = bs) (by simp [and_assoc])
      (@instDecidableAnd _ _ _ (@instDecidableAnd _ _ (decEq a b) (decEqEntries as bs)))

end

instance : DecidableEq Json := decEq

/-! ## Taking apart and putting together -/

/-- The value under a key of an object. -/
def field? (key : String) : Json → Option Json
  | .object entries => entries.lookup key
  | _ => none

/-- A list of texts. -/
def ofTexts (texts : List String) : Json :=
  .list (texts.map .text)

/-- A text, or null if there is none. -/
def ofText? : Option String → Json
  | some s => .text s
  | none => .null

/-- A number, or null if there is none. -/
def ofInt? : Option Int → Json
  | some n => .int n
  | none => .null

/-- The value counts as true: it is not null, false, zero or empty. -/
def isTruthy : Json → Bool
  | .null => false
  | .bool b => b
  | .int n => n != 0
  | .real x => x != 0
  | .text s => !s.isEmpty
  | .list items => !items.isEmpty
  | .object entries => !entries.isEmpty

end Json

end Relational

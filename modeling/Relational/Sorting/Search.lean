/-!
# Searching sorted lists

Where the elements end that satisfy a test, in a list in which they all stand at its start. The test may fail, and
it need not be true of a start of the list; the elements it is put to, and their order, are fixed: those at the
positions 0, 1, 3, 7 and so on until one is refused, and then the middle of what is left, again and again.
-/

namespace Relational.Sorting

variable {α ε : Type} (forward : Bool) (holds : α → Except ε Bool)

/-- The middle of the positions from `low` up to `high`. Of two middles the later one counts for a list that is read
forward, and the earlier one for a list that is read backward. -/
def middle (low high : Nat) : Nat :=
  low + (high - low - if forward then 0 else 1) / 2

theorem low_le_middle (low high : Nat) : low ≤ middle forward low high := by
  simp only [middle]
  omega

theorem middle_lt_high {low high : Nat} (h : low < high) : middle forward low high < high := by
  simp only [middle]
  split <;> omega

/-- The first position from `low` up to `high` whose element does not satisfy the test, or `high`, by halving. -/
def halve (xs : List α) (low high : Nat) : Except ε Nat :=
  if _h : low < high then
    match xs[middle forward low high]? with
    | none => .ok low
    | some x => do
      if ← holds x then halve xs (middle forward low high + 1) high else halve xs low (middle forward low high)
  else .ok low
termination_by high - low
decreasing_by
  · have := low_le_middle forward low high
    omega
  · have := middle_lt_high forward _h
    omega

/-- The last position that satisfies the test, with steps that double, and the first one that is known not to; the
end of the list is not in it. -/
def stride (xs : List α) (last next : Nat) : Except ε (Nat × Nat) :=
  match _h : xs[next]? with
  | none => .ok (last, xs.length)
  | some x => do
    if ← holds x then stride xs next (2 * next + 1) else pure (last, next)
termination_by xs.length - next
decreasing_by
  have := (List.getElem?_eq_some_iff.mp _h).1
  omega

/-- The number of elements at the start of a list that satisfy the test. -/
def gallop (xs : List α) : Except ε Nat :=
  match xs with
  | [] => .ok 0
  | x :: _ => do
    if ← holds x then
      let (last, next) ← stride holds xs 0 1
      halve forward holds xs (last + 1) next
    else pure 0

end Relational.Sorting

import Relational.Sorting.Search

/-!
# Runs

A run is a part of a list that is sorted already. A list is cut into the longest runs that rise or strictly fall; a
run that is too short takes in the elements after it, one by one.
-/

namespace Relational.Sorting

variable {α ε : Type} (before : α → α → Except ε Bool)

/-- The elements that go on with a run after `last`, and the rest. -/
def spanRun (falling : Bool) (last : α) : List α → Except ε (List α × List α)
  | [] => .ok ([], [])
  | x :: xs => do
    if (← before x last) == falling then
      let (run, rest) ← spanRun falling x xs
      pure (x :: run, rest)
    else pure ([], x :: xs)

/-- The run at the start of a list, turned round if it falls, and the rest. -/
def initialRun : List α → Except ε (List α × List α)
  | [] => .ok ([], [])
  | [x] => .ok ([x], [])
  | x :: y :: ys => do
    let falling ← before y x
    let (run, rest) ← spanRun before falling y ys
    let run := x :: y :: run
    pure (if falling then run.reverse else run, rest)

/-- A sorted list with one more element, behind those it does not come before. -/
def insert (sorted : List α) (x : α) : Except ε (List α) := do
  let place ← halve true (fun y => (!·) <$> before x y) sorted 0 sorted.length
  pure (sorted.take place ++ x :: sorted.drop place)

/-- A length of at most 64, half of which is less than the first six binary digits of `n` or equal to them; it is
one more than these digits if any digit after them is not zero. -/
def leastFrom (n lost : Nat) : Nat :=
  if n < 64 then n + lost else leastFrom (n / 2) (max lost (n % 2))
termination_by n

/-- The least length of a run of a list of `n` elements, its last run apart: the whole list if it is shorter than
64, and otherwise `n` divided by a power of two, rounded up, so that the list is cut into a number of such runs that
is a power of two or slightly less. -/
def leastRun (n : Nat) : Nat :=
  leastFrom n 0

/-- The run at the start of a list, made as long as `least` if the list is, and the rest. -/
def nextRun (least : Nat) (xs : List α) : Except ε (List α × List α) := do
  let (run, rest) ← initialRun before xs
  let missing := least - run.length
  pure (← (rest.take missing).foldlM (insert before) run, rest.drop missing)

/-- The runs of a list, at most as many as `count`. -/
def runsUpTo (least : Nat) : (count : Nat) → List α → Except ε (List (List α))
  | 0, _ => .ok []
  | _, [] => .ok []
  | count + 1, xs => do
    let (run, rest) ← nextRun before least xs
    pure (run :: (← runsUpTo least count rest))

/-- The runs of a list. -/
def runs (xs : List α) : Except ε (List (List α)) :=
  runsUpTo before (leastRun xs.length) xs.length xs

end Relational.Sorting

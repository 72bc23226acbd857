import Relational.Sorting.Merge
import Relational.Sorting.Run

/-!
# Stable sorting

Sorting by an order that may fail, and that need not be transitive: which comparisons are made, and in which
order, is fixed. The list is cut into runs, and neighbouring runs are merged. A boundary between two runs has a power,
which is the greater the nearer their middles are; a boundary goes once one of a lesser power comes after it.
-/

namespace Relational.Sorting

/-- The place of the first binary digit in which `low / total` and `high / total` differ, counted from 1 for the
digit before the point, among as many digits as `count`. -/
def firstDifference (total : Nat) : (count : Nat) → (low high : Nat) → Nat
  | 0, _, _ => 0
  | count + 1, low, high =>
    if low / total = high / total then
      firstDifference total count (low % total * 2) (high % total * 2) + 1
    else 1

/-- The power of the boundary between two neighbouring runs of a list of `total` elements: the number of binary
digits after the point that tell the middles of the two runs apart, as parts of the list. -/
def power (total start first second : Nat) : Nat :=
  firstDifference total total (2 * start + first) (2 * start + 2 * first + second)

/-- A run that waits for its successor, and the power of the boundary between them. -/
structure Waiting (α : Type) where
  run : List α
  power : Nat
  deriving Repr, DecidableEq

/-- How often one run must win before a merge looks for stretches, at first. -/
def initialPatience : Nat := 7

variable {α ε : Type} (before : α → α → Except ε Bool)

/-- Merges the last run with those that wait for it across boundaries of more than some power. -/
def collapse (power : Nat) (patience : Nat) :
    (waiting : List (Waiting α)) → (last : List α) → Except ε (List (Waiting α) × List α × Nat)
  | [], last => .ok ([], last, patience)
  | top :: waiting, last => do
    if power < top.power then
      let (merged, patience) ← merge before patience top.run last
      collapse power patience waiting merged
    else pure (top :: waiting, last, patience)

/-- Merges all that is left: the last run with the one that waits for it, or that one with its predecessor where
the predecessor is shorter than the last run. -/
def finish (patience : Nat) (waiting : List (Waiting α)) (last : List α) : Except ε (List α) :=
  match waiting with
  | [] => .ok last
  | [top] => return (← merge before patience top.run last).1
  | top :: below :: waiting => do
    if below.run.length < last.length then
      let (merged, patience) ← merge before patience below.run top.run
      finish patience (⟨merged, below.power⟩ :: waiting) last
    else
      let (merged, patience) ← merge before patience top.run last
      finish patience (below :: waiting) merged
termination_by waiting.length

/-- Merges runs, one after the other, of a list of `total` elements. -/
def mergeRuns (total : Nat) (patience : Nat) (waiting : List (Waiting α)) (last : List α) :
    List (List α) → Except ε (List α)
  | [] => finish before patience waiting last
  | next :: runs => do
    let start := (waiting.map fun w => w.run.length).sum
    let power := power total start last.length next.length
    let (waiting, last, patience) ← collapse before power patience waiting last
    mergeRuns total patience (⟨last, power⟩ :: waiting) next runs

/-- The elements in order; equal ones stay in theirs. -/
def sort (xs : List α) : Except ε (List α) := do
  match ← runs before xs with
  | [] => pure []
  | run :: runs => mergeRuns before xs.length initialPatience [] run runs

/-- The elements in falling order; equal ones stay in theirs. -/
def sortFalling (xs : List α) : Except ε (List α) := do
  pure (← sort before xs.reverse).reverse

end Relational.Sorting

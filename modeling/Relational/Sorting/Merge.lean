import Relational.Sorting.Search

/-!
# Merging two runs

Two neighbouring runs become one. Elements are compared one by one until the same run wins often enough; from then on
whole stretches are looked for, until these become short. How often is enough is a number, the patience, that goes
from merge to merge: it falls as long as stretches are worth while and rises when they are not.

The shorter run is the one that is held aside, and the merge begins at the end of the longer one where its elements
go. So a merge that is not forward is one of two lists turned round.
-/

namespace Relational.Sorting

/-- How a merge goes on. -/
inductive Pace
  /-- One comparison at a time; one run has won the last `turns` of them, the second one if `second` says so. -/
  | stepping (second : Bool) (turns : Nat)
  /-- A stretch of the first run comes next. -/
  | first
  /-- A stretch of the second run comes next; the one of the first run had some length. -/
  | second (passed : Nat)
  deriving Repr, DecidableEq

/-- A stretch of this length is worth while. -/
def worthwhile : Nat := 7

/-- The pace after one comparison. -/
def Pace.step (wasSecond : Bool) (turns : Nat) (isSecond : Bool) (patience : Nat) : Pace :=
  let turns := if wasSecond == isSecond then turns + 1 else 1
  if patience ≤ turns then .first else .stepping isSecond turns

variable {α ε : Type} (before : α → α → Except ε Bool) (forward : Bool)

/-- Nothing is left to compare: the longer run has come to its end, or the shorter one to its last element, which is
known to come last. -/
def isSettled (xs ys : List α) : Bool :=
  if forward then xs.length ≤ 1 || ys.isEmpty else ys.length ≤ 1 || xs.isEmpty

/-- What is left of two runs when nothing is left to compare. -/
def settled (xs ys : List α) : List α :=
  if forward then ys ++ xs else xs ++ ys

/-- The element of the second run goes before the one of the first. -/
def secondGoes (x y : α) : Except ε Bool :=
  (· == forward) <$> before y x

/-- The merge of what is left of two runs, and the patience after it. -/
def mergeFrom (pace : Pace) (patience : Nat) (xs ys : List α) : Except ε (List α × Nat) :=
  if isSettled forward xs ys then .ok (settled forward xs ys, patience)
  else match xs, ys with
  | x :: xs', y :: ys' =>
    match pace with
    | .stepping second turns => do
      let isSecond ← secondGoes before forward x y
      let pace := Pace.step second turns isSecond patience
      if isSecond then
        let (merged, patience) ← mergeFrom pace patience (x :: xs') ys'
        pure (y :: merged, patience)
      else
        let (merged, patience) ← mergeFrom pace patience xs' (y :: ys')
        pure (x :: merged, patience)
    | .first => do
      let passed ← gallop forward (fun x => (!·) <$> secondGoes before forward x y) (x :: xs')
      let moved := (x :: xs').take passed
      let left := (x :: xs').drop passed
      if isSettled forward left (y :: ys') then pure (moved ++ settled forward left (y :: ys'), patience)
      else
        let (merged, patience) ← mergeFrom (.second passed) patience left ys'
        pure (moved ++ y :: merged, patience)
    | .second passed => do
      let passedNow ← gallop forward (fun y => secondGoes before forward x y) (y :: ys')
      let moved := (y :: ys').take passedNow
      let left := (y :: ys').drop passedNow
      if isSettled forward (x :: xs') left then pure (moved ++ settled forward (x :: xs') left, patience)
      else if isSettled forward xs' left then pure (moved ++ x :: settled forward xs' left, patience)
      else
        let (merged, patience) ←
          if worthwhile ≤ max passed passedNow then mergeFrom .first (max 1 (patience - 1)) xs' left
          else mergeFrom (.stepping true 0) (patience + 1) xs' left
        pure (moved ++ x :: merged, patience)
  | _, _ => .ok (settled forward xs ys, patience)
termination_by xs.length + ys.length
decreasing_by all_goals (simp only [List.length_cons, List.length_drop]; omega)

/-- The merge of two runs of which an element of the longer one is known to come first. -/
def mergeOverlap (patience : Nat) (xs ys : List α) : Except ε (List α × Nat) :=
  match forward, xs, ys with
  | true, xs, y :: ys => do
    let (merged, patience) ← mergeFrom before true (.stepping true 0) patience xs ys
    pure (y :: merged, patience)
  | false, x :: xs, ys => do
    let (merged, patience) ← mergeFrom before false (.stepping true 0) patience xs ys
    pure (x :: merged, patience)
  | _, xs, ys => .ok (xs ++ ys, patience)

/-- The merge of two neighbouring runs, and the patience after it. The elements at the start of the first run that
do not come after the second one's first, and those at the end of the second run that do not come before the first
one's last, stay where they are. -/
def merge (patience : Nat) (xs ys : List α) : Except ε (List α × Nat) := do
  match ys with
  | [] => pure (xs, patience)
  | y :: _ =>
    let ahead ← gallop true (fun x => (!·) <$> before y x) xs
    let first := xs.drop ahead
    match first.getLast? with
    | none => pure (xs ++ ys, patience)
    | some last =>
      let behind ← gallop false (fun y => (!·) <$> before y last) ys.reverse
      let second := ys.take (ys.length - behind)
      if second.isEmpty then pure (xs ++ ys, patience)
      else
        let forward := first.length ≤ second.length
        let (merged, patience) ←
          if forward then mergeOverlap before true patience first second
          else do
            let (merged, patience) ← mergeOverlap before false patience first.reverse second.reverse
            pure (merged.reverse, patience)
        pure (xs.take ahead ++ merged ++ ys.drop (ys.length - behind), patience)

end Relational.Sorting

import Relational.Sorting

/-!
# Sorting sees elements through their comparison

Nothing is done with the elements of a list but to compare them and to move them. So whether they are sorted as they
are, or whether something that stands for each of them is sorted by the same comparison, is the same.
-/

namespace Relational.Sorting

variable {α β ε : Type} (before : α → α → Except ε Bool) (f : β → α)

variable (forward : Bool)

/-- What stands for the elements of a run that waits. -/
def Waiting.map (w : Waiting β) : Waiting α :=
  ⟨w.run.map f, w.power⟩

/-- With one more run, those that wait are merged across the boundaries of more than its power. -/
theorem mergeRuns_cons (total patience : Nat) (waiting : List (Waiting α)) (last next : List α)
    (later : List (List α)) :
    mergeRuns before total patience waiting last (next :: later) =
      let start := (waiting.map fun w => w.run.length).foldr (· + ·) 0
      let power := power total start last.length next.length
      collapse before power patience waiting last >>= fun found =>
        mergeRuns before total found.2.2 (⟨found.2.1, power⟩ :: found.1) next later :=
  rfl

end Relational.Sorting

/-!
# Sets of code points

A Unicode property is a list of closed ranges of code points.
-/

namespace Relational.Unicode

/-- Closed ranges of code points. -/
abbrev Ranges := List (Nat × Nat)

/-- Some range covers `n`. -/
def Ranges.covers (rs : Ranges) (n : Nat) : Bool :=
  rs.any fun r => r.1 ≤ n && n ≤ r.2

/-- The first range that covers `n`. -/
def Ranges.find? (rs : Ranges) (n : Nat) : Option (Nat × Nat) :=
  List.find? (fun r => r.1 ≤ n && n ≤ r.2) rs

end Relational.Unicode

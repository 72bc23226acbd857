import Mathlib.Data.List.Lex
import Mathlib.Data.String.Basic
import Relational.Value.Order

/-!
# The order of values of a type

Values of one type that is not of real numbers are ordered like lists of integers: an integer as itself, a truth value
as a digit, a date or a time by its fields from the greatest on, and a text by the code points of its characters. NULL
comes before all of them.
-/

namespace Relational

/-- The place of data among data of its kind: the first numbers that differ decide. -/
def Payload.place : Payload → List Int
  | .integer n => [n]
  | .bool b => [if b then 1 else 0]
  | .date d => [d.year, d.month, d.day]
  | .time t => [t.hour, t.minute, t.second]
  | .timestamp t => [t.date.year, t.date.month, t.date.day, t.time.hour, t.time.minute, t.time.second]
  | .text s => s.toList.map fun c => (c.toNat : Int)
  | .real _ => []

/-- The place of a value among the values of its type; that of NULL is the first. -/
def Value.place (v : Value) : List Int :=
  v.payload.elim [] fun p => 0 :: p.place

/-! ## Places of data -/

theorem then_eq_lt_iff {o o' : Ordering} : o.then o' = .lt ↔ o = .lt ∨ o = .eq ∧ o' = .lt := by
  cases o <;> simp

theorem compare_eq_lt_iff {m n : Nat} : compare m n = .lt ↔ ([(m : Int)] : List Int) < [(n : Int)] := by
  rw [compare_lt_iff_lt, List.cons_lt_cons_iff]
  simp

/-- The first numbers of two lists decide, unless they are the same. -/
theorem compare_then_eq_lt_iff {m n : Nat} {ms ns : List Int} {o : Ordering} (h : o = .lt ↔ ms < ns) :
    (compare m n).then o = .lt ↔ (m : Int) :: ms < (n : Int) :: ns := by
  rw [then_eq_lt_iff, compare_lt_iff_lt, compare_eq_iff_eq, h, List.cons_lt_cons_iff]
  norm_cast

theorem map_toNat_lt_iff {cs ds : List Char} :
    (cs.map fun c => (c.toNat : Int)) < (ds.map fun c => (c.toNat : Int)) ↔ cs < ds := by
  induction cs generalizing ds with
  | nil => cases ds <;> simp
  | cons c cs ih =>
    cases ds with
    | nil => simp
    | cons d ds =>
      rw [List.map_cons, List.map_cons, List.cons_lt_cons_iff, List.cons_lt_cons_iff, ih]
      have hlt : ((c.toNat : Int) < d.toNat) ↔ c < d := by
        rw [Int.ofNat_lt]
        rfl
      have heq : ((c.toNat : Int) = d.toNat) ↔ c = d := by
        rw [Int.natCast_inj]
        exact ⟨fun h => Char.toNat_inj.1 h, congrArg _⟩
      rw [hlt, heq]

theorem Date.order_eq_lt_iff {d e : Date} : d.order e = .lt ↔ (Payload.date d).place < (Payload.date e).place :=
  compare_then_eq_lt_iff (compare_then_eq_lt_iff compare_eq_lt_iff)

theorem TimeOfDay.order_eq_lt_iff {t u : TimeOfDay} :
    t.order u = .lt ↔ (Payload.time t).place < (Payload.time u).place :=
  compare_then_eq_lt_iff (compare_then_eq_lt_iff compare_eq_lt_iff)

theorem Timestamp.order_eq_lt_iff {t u : Timestamp} :
    t.order u = .lt ↔ (Payload.timestamp t).place < (Payload.timestamp u).place := by
  rw [Timestamp.order, Date.order, Ordering.then_assoc, Ordering.then_assoc]
  exact compare_then_eq_lt_iff (compare_then_eq_lt_iff (compare_then_eq_lt_iff TimeOfDay.order_eq_lt_iff))

namespace Value

open Text Decimal

theorem textOrder_eq_lt_iff {s t : String} :
    textOrder s t = .lt ↔ (Payload.text s).place < (Payload.text t).place := by
  rw [textOrder, compare_lt_iff_lt, String.lt_iff_toList_lt, Payload.place, Payload.place, map_toNat_lt_iff]

/-- Data of one kind other than that of real numbers can be compared, and the lesser place comes first. -/
theorem payloadOrder_eq_ok {p q : Payload} (hkind : p.kind = q.kind) (hreal : p.kind ≠ .real) :
    ∃ o, payloadOrder p q = .ok o ∧ (o = .lt ↔ p.place < q.place) := by
  cases p with
  | real x => exact absurd rfl hreal
  | integer m =>
    cases q with
    | integer n =>
      refine ⟨_, rfl, ?_⟩
      rw [compare_lt_iff_lt, Payload.place, Payload.place, List.cons_lt_cons_iff]
      simp
    | _ => cases hkind
  | text s =>
    cases q with
    | text t => exact ⟨_, rfl, textOrder_eq_lt_iff⟩
    | _ => cases hkind
  | bool b =>
    cases q with
    | bool c => cases b <;> cases c <;> exact ⟨_, rfl, by decide⟩
    | _ => cases hkind
  | date d =>
    cases q with
    | date e => exact ⟨_, rfl, Date.order_eq_lt_iff⟩
    | _ => cases hkind
  | time t =>
    cases q with
    | time u => exact ⟨_, rfl, TimeOfDay.order_eq_lt_iff⟩
    | _ => cases hkind
  | timestamp t =>
    cases q with
    | timestamp u => exact ⟨_, rfl, Timestamp.order_eq_lt_iff⟩
    | _ => cases hkind

/-! ## Places of values -/

end Value

end Relational

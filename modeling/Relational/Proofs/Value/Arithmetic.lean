import Relational.Proofs.Decimal.Binary
import Relational.Proofs.Encoding
import Relational.Proofs.Evaluation.Faults

/-!
# Division with remainder

Integers are divided exactly where they divide without a remainder. The remainder of two integers is what is left over
from a division toward zero, so taking it off the dividend makes the dividend a multiple of the divisor.
-/

namespace Relational

open Decimal

namespace Value

variable {v w : Value} {m n : Int}

/-! ## Integers -/

/-- The value is an integer: its type is one of integers and it has the integer as its data. -/
def IsInteger (v : Value) (n : Int) : Prop :=
  v.type.isInteger = true ∧ v.payload = some (.integer n)

theorem IsInteger.number? (h : v.IsInteger n) : v.number? = some (.integer n) := by
  rw [Value.number?, h.2]

theorem IsInteger.kind_common (hv : v.IsInteger m) (hw : w.IsInteger n) : (v.type.common w.type).kind = .integer :=
  Value.kind_common (kind_of_integer hv.2) (kind_of_integer hw.2)

/-- An integer is stored in a type of integers as it is. -/
theorem store_integer {type : DataType} (hkind : type.kind = .integer) (n : Int) :
    ∃ u, store type (some (.integer n)) = .ok u ∧ u.IsInteger n := by
  refine ⟨present type (.integer n) hkind.symm, dif_pos hkind.symm, DataType.isInteger_iff.2 hkind, rfl⟩

theorem numeric_integers (onIntegers : Int → Int → Int) (onReals : Float → Float → Float) (hv : v.IsInteger m)
    (hw : w.IsInteger n) : ∃ u, numeric onIntegers onReals v w = .ok u ∧ u.IsInteger (onIntegers m n) := by
  rw [numeric, hv.number?, hw.number?]
  exact store_integer (hv.kind_common hw) _

/-- The remainder of integers is toward zero. -/
theorem mod_integers (hv : v.IsInteger m) (hw : w.IsInteger n) (hn : n ≠ 0) :
    ∃ u, v.mod w = .ok u ∧ u.IsInteger (m.tmod n) := by
  rw [mod, hv.2, hw.2]
  dsimp only
  rw [if_neg hn]
  exact store_integer (hv.kind_common hw) _

/-- The quotient of integers that divide without a remainder is exact. Only the divisor is looked at as a real number. -/
theorem div_integers (hv : v.IsInteger m) (hw : w.IsInteger n) (hn : n ≠ 0) (hfinite : floatOfInt? n ≠ none)
    (hdvd : n ∣ m) : ∃ u, v.div w = .ok u ∧ u.IsInteger (m / n) := by
  obtain ⟨x, hx⟩ := Option.ne_none_iff_exists'.1 hfinite
  have hreal : (Number.integer n).toReal = .ok x := by
    rw [Number.toReal, realOfInteger, hx]
  have hquotient : (Number.integer m).wholeQuotient? (.integer n) = some (m / n) :=
    if_pos (Int.emod_eq_zero_of_dvd hdvd)
  rw [div, hv.number?, hw.number?]
  dsimp only
  rw [hreal, ok_bind, if_neg (not_abs_lt_tolerance hn hx), hquotient]
  exact store_integer (hv.kind_common hw) _

/-! ## The two together -/

/-- The remainder of two integers is smaller than the divisor and has the sign of the dividend, and once it is taken off,
the dividend is divided exactly: the quotient times the divisor, and the remainder, make up the dividend. Of the two
integers only the divisor has to be in the range of real numbers. -/
theorem divMod_integers (hv : v.IsInteger m) (hw : w.IsInteger n) (hn : n ≠ 0) (hfinite : floatOfInt? n ≠ none) :
    ∃ remainder quotient r q, v.mod w = .ok remainder ∧ (do (← v.sub remainder).div w) = .ok quotient ∧
      remainder.IsInteger r ∧ quotient.IsInteger q ∧
      (∃ u, (do (← quotient.mul w).add remainder) = .ok u ∧ u.IsInteger m) ∧
      r.natAbs < n.natAbs ∧ (r = 0 ∨ r.sign = m.sign) := by
  obtain ⟨remainder, hremainder, hr⟩ := mod_integers hv hw hn
  obtain ⟨whole, hwhole, hdifference⟩ := numeric_integers (· - ·) (· - ·) hv hr
  have hdvd : n ∣ m - m.tmod n := Int.dvd_self_sub_tmod
  obtain ⟨quotient, hquotient, hq⟩ := div_integers hdifference hw hn hfinite hdvd
  obtain ⟨product, hproduct, hp⟩ := numeric_integers (· * ·) (· * ·) hq hw
  obtain ⟨sum, hsum, hs⟩ := numeric_integers (· + ·) (· + ·) hp hr
  have hback : (m - m.tmod n) / n * n + m.tmod n = m := by
    rw [Int.ediv_mul_cancel hdvd, Int.sub_add_cancel]
  have hsign : m.tmod n = 0 ∨ (m.tmod n).sign = m.sign := by
    by_cases hwhole : n ∣ m
    · exact .inl (Int.tmod_eq_zero_of_dvd hwhole)
    · exact .inr (by rw [Int.sign_tmod, if_neg hwhole])
  rw [hback] at hs
  refine ⟨remainder, quotient, m.tmod n, (m - m.tmod n) / n, hremainder, ?_, hr, hq, ⟨sum, ?_, hs⟩, ?_, hsign⟩
  · rw [sub, hwhole]
    exact hquotient
  · rw [mul, hproduct]
    exact hsum
  · rw [Int.natAbs_tmod]
    exact Nat.mod_lt _ (Int.natAbs_pos.2 hn)

/-- A narrow negative integer and a wide positive one: seven leaves one, with the sign of the dividend. -/
theorem divMod_minus_seven :
    (present .tinyint (.integer (-7)) rfl).IsInteger (-7) ∧ (present .bigint (.integer 2) rfl).IsInteger 2 ∧
      floatOfInt? 2 ≠ none ∧ ∃ remainder quotient r q,
        (present .tinyint (.integer (-7)) rfl).mod (present .bigint (.integer 2) rfl) = .ok remainder ∧
        (do (← (present .tinyint (.integer (-7)) rfl).sub remainder).div (present .bigint (.integer 2) rfl))
          = .ok quotient ∧
        remainder.IsInteger r ∧ quotient.IsInteger q ∧
        (∃ u, (do (← quotient.mul (present .bigint (.integer 2) rfl)).add remainder) = .ok u ∧ u.IsInteger (-7)) ∧
        r.natAbs < (2 : Int).natAbs ∧ (r = 0 ∨ r.sign = (-7 : Int).sign) := by
  have hfinite : floatOfInt? 2 ≠ none := by decide +kernel
  exact ⟨⟨rfl, rfl⟩, ⟨rfl, rfl⟩, hfinite, divMod_integers ⟨rfl, rfl⟩ ⟨rfl, rfl⟩ (by decide) hfinite⟩

end Value

end Relational

import Relational.Decimal.Numeral

/-!
# Numerals in decimal

The digits that `natText` and `paddedText` write are ASCII digits, and their value is the number written.
-/

namespace Relational.Decimal

/-! ## One digit -/

/-- What holds of the ten digits holds of every digit written. -/
theorem digitChar_induction (P : Char → Prop) (h : ∀ d < 10, P (Char.ofNat (48 + d))) (n : Nat) : P (digitChar n) :=
  h (n % 10) (Nat.mod_lt n (by decide))

theorem isDigit_digitChar (n : Nat) : (digitChar n).isDigit = true :=
  digitChar_induction (fun c => c.isDigit = true) (by decide) n

theorem value_digitChar (n : Nat) : (digitChar n).toNat - '0'.toNat = n % 10 := by
  have hlt : n % 10 < 10 := Nat.mod_lt n (by decide)
  rw [digitChar]
  generalize n % 10 = d at hlt
  revert d
  decide

/-! ## Digits of a number -/

theorem digitsOnto_append (n : Nat) (digits : List Char) : digitsOnto n digits = digitsOnto n [] ++ digits := by
  induction n using Nat.strongRecOn generalizing digits with
  | ind n ih =>
    rw [digitsOnto, digitsOnto.eq_def n []]
    split
    · rfl
    · have hlt : n / 10 < n := by omega
      rw [ih _ hlt (digitChar n :: digits), ih _ hlt [digitChar n], List.append_assoc]
      rfl

theorem natDigits_of_lt {n : Nat} (h : n < 10) : natDigits n = [digitChar n] := by
  rw [natDigits, digitsOnto, if_pos h]

theorem natDigits_of_le {n : Nat} (h : 10 ≤ n) : natDigits n = natDigits (n / 10) ++ [digitChar n] := by
  rw [natDigits, digitsOnto, if_neg (Nat.not_lt.2 h), digitsOnto_append]
  rfl

/-- Facts about the digits of a number follow from one digit at a time. -/
theorem natDigits_induction {P : Nat → List Char → Prop} (one : ∀ n < 10, P n [digitChar n])
    (more : ∀ n, 10 ≤ n → P (n / 10) (natDigits (n / 10)) → P n (natDigits (n / 10) ++ [digitChar n])) (n : Nat) :
    P n (natDigits n) := by
  induction n using Nat.strongRecOn with
  | ind n ih =>
    rcases Nat.lt_or_ge n 10 with h | h
    · rw [natDigits_of_lt h]
      exact one n h
    · rw [natDigits_of_le h]
      exact more n h (ih (n / 10) (by omega))

theorem natDigits_ne_nil (n : Nat) : natDigits n ≠ [] :=
  natDigits_induction (P := fun _ digits => digits ≠ []) (by simp) (by simp) n

theorem isDigit_of_mem_natDigits {n : Nat} {c : Char} (h : c ∈ natDigits n) : c.isDigit = true := by
  have hall : ∀ c ∈ natDigits n, c.isDigit = true := by
    refine natDigits_induction (P := fun _ digits => ∀ c ∈ digits, c.isDigit = true) ?_ ?_ n
    · intro n _ c hc
      rw [List.mem_singleton.1 hc]
      exact isDigit_digitChar n
    · intro n _ ih
      rw [List.forall_mem_append, List.forall_mem_singleton]
      exact ⟨ih, isDigit_digitChar n⟩
  exact hall c h

/-- Only the digits of zero start with a zero. -/
theorem head_natDigits {n : Nat} (h : 0 < n) : (natDigits n).head? ≠ some '0' := by
  refine natDigits_induction (P := fun n digits => 0 < n → digits.head? ≠ some '0') ?_ ?_ n h
  · intro n hlt hpos
    have hd : ∀ d < 10, 0 < d → [digitChar d].head? ≠ some '0' := by decide
    exact hd n hlt hpos
  · intro n hle ih _
    cases hdigits : natDigits (n / 10) with
    | nil => exact absurd hdigits (natDigits_ne_nil _)
    | cons d digits =>
      rw [hdigits] at ih
      exact ih (by omega)

/-- The digits of a number have the number as their value. -/
theorem ofDigits_natDigits (n : Nat) : ofDigits ((natDigits n).map fun c => c.toNat - '0'.toNat) = n := by
  refine natDigits_induction (P := fun n digits => ofDigits (digits.map fun c => c.toNat - '0'.toNat) = n) ?_ ?_ n
  · intro n hlt
    show 10 * 0 + ((digitChar n).toNat - '0'.toNat) = n
    rw [value_digitChar]
    omega
  · intro n _ ih
    rw [ofDigits, List.map_append, List.foldl_append, ← ofDigits, ih]
    show 10 * (n / 10) + ((digitChar n).toNat - '0'.toNat) = n
    rw [value_digitChar]
    omega

theorem exists_digitChar_mem_natDigits (n : Nat) : ∃ m, digitChar m ∈ natDigits n := by
  apply natDigits_induction (P := fun _ digits => ∃ m, digitChar m ∈ digits)
  · exact fun n _ => ⟨n, by simp⟩
  · exact fun n _ _ => ⟨n, by simp⟩

theorem exists_digitChar_mem_intText (n : Int) : ∃ m, digitChar m ∈ (intText n).toList := by
  obtain ⟨m, hm⟩ := exists_digitChar_mem_natDigits n.natAbs
  refine ⟨m, ?_⟩
  rw [intText]
  split
  · simp only [String.toList_append, natText, String.toList_ofList, List.mem_append]
    exact .inr hm
  · rw [natText, String.toList_ofList]
    exact hm

end Relational.Decimal

import Mathlib
import Relational.Decimal.Binary
import Relational.Value

/-!
# The sign and the magnitude of a floating point number

A `Float` is a word of bits that is unpacked into a sign, an exponent and a mantissa before it is computed with, and
packed again after that. Packing is undone by unpacking, so the numbers nearest to a quotient with the two signs are the
negative of each other. A number minus itself is zero unless it is infinite or NaN, and zero minus a number is the
negative of the number but for the sign of a zero. The absolute value leaves out the sign, and the number nearest to an
integer other than zero keeps the magnitude, so it is never small enough to count as zero.
-/

namespace Relational.Decimal

open Float.Model (Format UnpackedFloat)
open Float.Model.UnpackedFloat

variable {b b' : BitVec Format.binary64.numBits}

/-! ## The parts of the bits -/

theorem toNat_unpackExponent (b : BitVec Format.binary64.numBits) :
    (unpackExponent b).toNat = b.toNat / 2 ^ 52 % 2 ^ 11 := by
  rw [unpackExponent, BitVec.toNat_cast, BitVec.extractLsb_toNat, Nat.shiftRight_eq_div_pow]
  rfl

theorem toNat_unpackMantissa (b : BitVec Format.binary64.numBits) : (unpackMantissa b).toNat = b.toNat % 2 ^ 52 := by
  rw [unpackMantissa, BitVec.toNat_cast, BitVec.extractLsb_toNat, Nat.shiftRight_eq_div_pow, Nat.pow_zero, Nat.div_one]
  rfl

theorem toNat_unpackSign (b : BitVec Format.binary64.numBits) : (unpackSign b).toNat = b.toNat / 2 ^ 63 % 2 := by
  rw [unpackSign, BitVec.toNat_cast, BitVec.extractLsb_toNat, Nat.shiftRight_eq_div_pow]
  rfl

theorem toBitVec_ofBitVec (bit : BitVec 1) : (Sign.ofBitVec bit).toBitVec = bit := by
  revert bit
  decide

/-- The bits are those of the sign, of the exponent and of the mantissa. -/
theorem packComponents_parts (b : BitVec Format.binary64.numBits) :
    packComponents .binary64 (Sign.ofBitVec (unpackSign b)) (unpackExponent b) (unpackMantissa b) = b := by
  have hbound : b.toNat < 2 ^ 64 := b.isLt
  rw [← BitVec.toNat_inj, packComponents, BitVec.toNat_append, ← Nat.shiftLeft_add_eq_or_of_lt (unpackMantissa b).isLt,
    BitVec.toNat_append, ← Nat.shiftLeft_add_eq_or_of_lt (unpackExponent b).isLt, Nat.shiftLeft_eq, Nat.shiftLeft_eq,
    toBitVec_ofBitVec, toNat_unpackSign, toNat_unpackExponent, toNat_unpackMantissa]
  simp only [Format.binary64]
  omega

/-! ## Packing what was unpacked -/

section Finite

variable {sign : Sign} {m : Nat} {e : Int} {exponent : BitVec Format.binary64.exponentBits}
  {mantissa : BitVec Format.binary64.mantissaBitsWithoutImplicit}

/-- The exponent is stored with a bias, and counted from the last digit of the mantissa. -/
theorem biased_eq (k : Nat) (he : e = (k : Int) - 1075) :
    (e + Format.binary64.exponentBias + Format.binary64.mantissaBitsWithoutImplicit).toNat = k := by
  have hbias : (Format.binary64.exponentBias : Int) = 1023 := rfl
  have hwidth : (Format.binary64.mantissaBitsWithoutImplicit : Int) = 52 := rfl
  rw [hbias, hwidth]
  omega

/-- A number with a hidden bit. -/
theorem pack_normal (hpos : 0 < m) (hm : m = 2 ^ 52 + mantissa.toNat) (he : e = (exponent.toNat : Int) - 1075)
    (hrange : exponent.toNat + 1 < 2 ^ 11) :
    pack .binary64 (.finite sign m e hpos) = packComponents .binary64 sign exponent mantissa := by
  have hmantissa : mantissa.toNat < 2 ^ 52 := mantissa.isLt
  have hdigits : m.log2 + 1 = Format.binary64.mantissaBits := by
    have hlog : m.log2 = 52 := (Nat.log2_eq_iff (Nat.ne_of_gt hpos)).2 ⟨by omega, by omega⟩
    rw [hlog]
    rfl
  have hfraction : BitVec.ofNat Format.binary64.mantissaBitsWithoutImplicit m = mantissa := by
    rw [← BitVec.toNat_inj, BitVec.toNat_ofNat, hm, Nat.add_mod_left, Nat.mod_eq_of_lt hmantissa]
  simp only [pack, biased_eq _ he]
  rw [if_neg (Nat.not_le.2 hrange), if_pos hdigits, hfraction, BitVec.ofNat_toNat, BitVec.setWidth_eq]

/-- A number with the least exponent and no hidden bit. -/
theorem pack_subnormal (hpos : 0 < mantissa.toNat) (he : e = -1074) :
    pack .binary64 (.finite sign mantissa.toNat e hpos) = packComponents .binary64 sign 0#_ mantissa := by
  have hlog : mantissa.toNat.log2 < 52 := (Nat.log2_lt (Nat.ne_of_gt hpos)).2 mantissa.isLt
  have hdigits : mantissa.toNat.log2 + 1 ≠ Format.binary64.mantissaBits := by
    have hbits : Format.binary64.mantissaBits = 53 := rfl
    omega
  simp only [pack, biased_eq 1 he]
  rw [if_neg (by decide), if_neg hdigits, BitVec.ofNat_toNat, BitVec.setWidth_eq]

end Finite

/-- Bits are packed as they were unpacked, if those of NaN are its only ones. -/
theorem pack_unpack (hvalid : Format.binary64.Valid b) : pack .binary64 (unpack .binary64 b) = b := by
  have hparts := packComponents_parts b
  unfold unpack
  dsimp only
  split
  case isTrue hones =>
    split
    case isTrue hzero =>
      rw [hones, hzero] at hparts
      exact hparts
    case isFalse hnan => exact (hvalid.eq_packedNaN hones hnan).symm
  case isFalse hones =>
    split
    case isTrue hzeros =>
      rw [hzeros] at hparts ⊢
      split
      case isTrue hzero =>
        rw [hzero] at hparts
        exact hparts
      case isFalse hsome => exact (pack_subnormal _ rfl).trans hparts
    case isFalse hzeros =>
      have hother : (unpackExponent b).toNat ≠ 2 ^ 11 - 1 := fun h => hones (BitVec.toNat_inj.1 h)
      have hexponent : (unpackExponent b).toNat < 2 ^ 11 := (unpackExponent b).isLt
      have hhidden : (1#1 ++ unpackMantissa b).toNat = 2 ^ 52 + (unpackMantissa b).toNat := by
        rw [BitVec.toNat_append, ← Nat.shiftLeft_add_eq_or_of_lt (unpackMantissa b).isLt]
        rfl
      have hrange : (unpackExponent b).toNat + 1 < 2 ^ 11 := by omega
      exact (pack_normal _ hhidden rfl hrange).trans hparts

/-! ## Finite numbers -/

/-- The parts of a number. -/
def unpacked (x : Float) : UnpackedFloat :=
  x.toModel.unpack

theorem unpackExponent_eq_ones (b : BitVec Format.binary64.numBits) :
    unpackExponent b = -1#_ ↔ b.toNat / 2 ^ 52 % 2 ^ 11 = 2047 := by
  rw [← BitVec.toNat_inj, toNat_unpackExponent]
  rfl

/-- Only an infinity and NaN have no binary form. -/
theorem ofFloat?_eq_none_iff (x : Float) :
    Binary.ofFloat? x = none ↔ unpacked x = .notANumber ∨ ∃ sign, unpacked x = .infinity sign := by
  have hnone : Binary.ofFloat? x = none ↔ x.toBits.toBitVec.toNat / 2 ^ 52 % 2 ^ 11 = 2047 := by
    show _ ↔ x.toBits.toNat / twoTo 52 % twoTo 11 = 2047
    unfold Binary.ofFloat?
    dsimp only
    split
    · simp_all
    · split <;> simp_all
  rw [hnone, ← unpackExponent_eq_ones]
  show _ ↔ unpack .binary64 x.toBits.toBitVec = _ ∨ ∃ sign, unpack .binary64 x.toBits.toBitVec = .infinity sign
  unfold unpack
  dsimp only
  split
  · split <;> simp_all
  · split
    · split <;> simp_all
    · simp_all

/-- The difference of a number and itself is zero, unless the number is infinite or NaN. -/
theorem float_sub_self (x : Float) : x - x = Float.ofBits 0 ∧ Binary.ofFloat? x ≠ none ∨
    x - x = Float.ofModel (.pack .notANumber) ∧ Binary.ofFloat? x = none := by
  have hdifference : x - x = Float.ofModel (.pack (UnpackedFloat.sub .binary64 (unpacked x) (unpacked x))) := rfl
  rw [hdifference, ne_eq, ofFloat?_eq_none_iff]
  cases unpacked x with
  | notANumber => exact .inr ⟨rfl, .inl rfl⟩
  | infinity sign => cases sign <;> exact .inr ⟨rfl, .inr ⟨_, rfl⟩⟩
  | zero sign => cases sign <;> exact .inl ⟨rfl, by simp⟩
  | finite sign m e hpos =>
    refine .inl ⟨?_, by simp⟩
    simp only [UnpackedFloat.sub, Int.sub_self, UnpackedFloat.normalize]
    rfl

/-- Zero minus a number is the negative of the number, but a zero that is subtracted leaves a positive one. -/
theorem float_zero_sub (x : Float) : Float.ofBits 0 - x = -x ∨
    Float.ofBits 0 - x = Float.ofBits 0 ∧ (-x = Float.ofBits 0 ∨ -x = Float.ofModel (.pack (.zero .negative))) := by
  have hdifference : Float.ofBits 0 - x =
      Float.ofModel (.pack (UnpackedFloat.sub .binary64 (.zero .positive) (unpacked x))) := rfl
  have hneg : -x = Float.ofModel (.pack (unpacked x).neg) := rfl
  rw [hdifference, hneg]
  cases unpacked x with
  | zero sign =>
    cases sign with
    | negative => exact .inr ⟨rfl, .inl rfl⟩
    | positive => exact .inr ⟨rfl, .inr rfl⟩
  | _ => exact .inl rfl

/-! ## Signs -/

/-- Bits that differ in the sign alone. -/
theorem unpack_neg {b' : BitVec Format.binary64.numBits} (hpositive : b.toNat < 2 ^ 63)
    (hnegative : b'.toNat = b.toNat + 2 ^ 63) : unpack .binary64 b' = (unpack .binary64 b).neg := by
  have hexponent : unpackExponent b' = unpackExponent b := by
    rw [← BitVec.toNat_inj, toNat_unpackExponent, toNat_unpackExponent, hnegative]
    omega
  have hmantissa : unpackMantissa b' = unpackMantissa b := by
    rw [← BitVec.toNat_inj, toNat_unpackMantissa, toNat_unpackMantissa, hnegative]
    omega
  have hsign : unpackSign b = 0#1 ∧ unpackSign b' = 1#1 := by
    rw [← BitVec.toNat_inj, ← BitVec.toNat_inj, toNat_unpackSign, toNat_unpackSign, hnegative,
      Nat.add_div_right _ (by decide), Nat.div_eq_of_lt hpositive]
    exact ⟨rfl, rfl⟩
  unfold unpack
  simp only [hexponent, hmantissa, hsign.1, hsign.2]
  split
  · split <;> rfl
  · split
    · split <;> rfl
    · rfl

theorem nearestBits_le (num den : Nat) : nearestBits num den ≤ 2047 * 2 ^ 52 := by
  unfold nearestBits
  split
  · exact Nat.zero_le _
  · exact Nat.min_le_right _ _

/-- Bits up to those of infinity, with a sign, are not those of NaN. -/
theorem valid_of_mod_le (h : b.toNat % 2 ^ 63 ≤ 2047 * 2 ^ 52) : Format.binary64.Valid b := by
  refine ⟨fun hones hnan => absurd ?_ hnan⟩
  rw [unpackExponent_eq_ones] at hones
  rw [← BitVec.toNat_inj, toNat_unpackMantissa]
  show _ = 0
  omega

/-- The magnitude is rounded, whatever the sign. -/
theorem nearest_neg (num den : Nat) : nearest true num den = -nearest false num den := by
  have hbits := nearestBits_le num den
  unfold nearest
  generalize nearestBits num den = n at hbits
  have hlow : (UInt64.ofNat n).toBitVec.toNat = n := by
    rw [UInt64.toNat_toBitVec, UInt64.toNat_ofNat', Nat.mod_eq_of_lt (by omega)]
  have hhigh : (UInt64.ofNat (n + twoTo 63)).toBitVec.toNat = n + 2 ^ 63 := by
    have hsign : twoTo 63 = 2 ^ 63 := rfl
    rw [UInt64.toNat_toBitVec, UInt64.toNat_ofNat', hsign, Nat.mod_eq_of_lt (by omega)]
  rw [if_pos rfl, if_neg Bool.false_ne_true, Nat.add_zero]
  generalize UInt64.ofNat n = low at hlow ⊢
  generalize UInt64.ofNat (n + twoTo 63) = high at hhigh ⊢
  have hunpack : unpack .binary64 high.toBitVec = (unpack .binary64 low.toBitVec).neg :=
    unpack_neg (by omega) (by omega)
  have hsame : pack .binary64 (unpack .binary64 low.toBitVec) = low.toBitVec := pack_unpack (valid_of_mod_le (by omega))
  show Float.ofModel (.pack (unpack .binary64 high.toBitVec)) =
    Float.ofModel (.pack (unpack .binary64 (pack .binary64 (unpack .binary64 low.toBitVec))).neg)
  rw [hsame, hunpack]

/-! ## The sign left out -/

/-- Bits that are the same but for the sign. -/
theorem unpack_abs (hpositive : b.toNat < 2 ^ 63) (hsame : b'.toNat % 2 ^ 63 = b.toNat) :
    (unpack .binary64 b').abs = unpack .binary64 b := by
  have hexponent : unpackExponent b' = unpackExponent b := by
    rw [← BitVec.toNat_inj, toNat_unpackExponent, toNat_unpackExponent]
    omega
  have hmantissa : unpackMantissa b' = unpackMantissa b := by
    rw [← BitVec.toNat_inj, toNat_unpackMantissa, toNat_unpackMantissa]
    omega
  have hsign : unpackSign b = 0#1 := by
    rw [← BitVec.toNat_inj, toNat_unpackSign, Nat.div_eq_of_lt hpositive]
    rfl
  unfold unpack
  simp only [hexponent, hmantissa, hsign]
  split
  · split <;> rfl
  · split
    · split <;> rfl
    · rfl

/-- The absolute value of a nearest number is the one without the sign. -/
theorem abs_nearest (negative : Bool) (num den : Nat) : (nearest negative num den).abs = nearest false num den := by
  have hbits := nearestBits_le num den
  unfold nearest
  generalize nearestBits num den = n at hbits
  have hlow : (UInt64.ofNat (n + 0)).toBitVec.toNat = n := by
    rw [UInt64.toNat_toBitVec, UInt64.toNat_ofNat', Nat.mod_eq_of_lt (by omega), Nat.add_zero]
  have hsame : (UInt64.ofNat (n + if negative then twoTo 63 else 0)).toBitVec.toNat % 2 ^ 63 = n := by
    have hsign : twoTo 63 = 2 ^ 63 := rfl
    rw [UInt64.toNat_toBitVec, UInt64.toNat_ofNat', hsign]
    split <;> omega
  rw [if_neg Bool.false_ne_true]
  generalize UInt64.ofNat (n + if negative then twoTo 63 else 0) = signed at hsame ⊢
  generalize UInt64.ofNat (n + 0) = low at hlow ⊢
  have habs : (unpack .binary64 signed.toBitVec).abs = unpack .binary64 low.toBitVec :=
    unpack_abs (by omega) (by omega)
  have hpack : pack .binary64 (unpack .binary64 signed.toBitVec) = signed.toBitVec :=
    pack_unpack (valid_of_mod_le (by omega))
  show Float.ofModel (.pack (unpack .binary64 (pack .binary64 (unpack .binary64 signed.toBitVec))).abs) =
    Float.ofModel (.pack (unpack .binary64 low.toBitVec))
  rw [hpack, habs]

/-! ## The magnitude of an integer -/

/-- A number that is not small has a hidden bit and an exponent that is not small. -/
theorem unpack_of_le (hlow : 1021 * 2 ^ 52 ≤ b.toNat) (hhigh : b.toNat < 2047 * 2 ^ 52) :
    ∃ m e hpos, unpack .binary64 b = .finite .positive m e hpos ∧ -54 ≤ e := by
  have hexponent := toNat_unpackExponent b
  have hones : unpackExponent b ≠ -1#_ := by
    rw [ne_eq, unpackExponent_eq_ones]
    omega
  have hzeros : unpackExponent b ≠ 0#_ := by
    rw [ne_eq, ← BitVec.toNat_inj, hexponent]
    show ¬ _ = 0
    omega
  have hsign : unpackSign b = 0#1 := by
    rw [← BitVec.toNat_inj, toNat_unpackSign, Nat.div_eq_of_lt (by omega)]
    rfl
  have hhidden : (1#1 ++ unpackMantissa b).toNat = 2 ^ 52 + (unpackMantissa b).toNat := by
    rw [BitVec.toNat_append, ← Nat.shiftLeft_add_eq_or_of_lt (unpackMantissa b).isLt]
    rfl
  refine ⟨(1#1 ++ unpackMantissa b).toNat, (unpackExponent b).toNat - 1075, by omega, ?_, by omega⟩
  unfold unpack
  dsimp only
  rw [if_neg hones, if_neg hzeros, hsign]
  rfl

theorem float_lt_iff (x y : Float) : x < y ↔ (unpacked x).compare (unpacked y) = some .lt := by
  show decide (((unpacked x).compare (unpacked y) == some .lt) = true) = true ↔ _
  rw [decide_eq_true_iff, beq_iff_eq]

theorem not_lt_tolerance {bits : UInt64} (hlow : 1021 * 2 ^ 52 ≤ bits.toNat) (hhigh : bits.toNat < 2047 * 2 ^ 52) :
    ¬ Float.ofBits bits < Value.tolerance := by
  have hsame : pack .binary64 (unpack .binary64 bits.toBitVec) = bits.toBitVec :=
    pack_unpack (valid_of_mod_le (by rw [UInt64.toNat_toBitVec]; omega))
  have hparts : unpacked (Float.ofBits bits) = unpack .binary64 bits.toBitVec := congrArg (unpack .binary64) hsame
  have htolerance : unpacked Value.tolerance = .finite .positive 4835703278458517 (-82) (by decide) := rfl
  obtain ⟨m, e, hpos, hunpack, he⟩ := unpack_of_le (b := bits.toBitVec) hlow hhigh
  have hgreater : compare e (-82) = .gt := Int.compare_eq_gt.2 (by omega)
  rw [float_lt_iff, hparts, hunpack, htolerance]
  simp [UnpackedFloat.compare, hgreater]

/-- An integer other than zero is scaled up by less than its digits. -/
theorem le_nearestBits {n : Nat} (hn : n ≠ 0) : 1021 * 2 ^ 52 ≤ nearestBits n 1 := by
  have hlog : Nat.log2 1 = 0 := by decide
  have htwo : twoTo 52 = 2 ^ 52 := rfl
  unfold nearestBits
  rw [if_neg hn, hlog, htwo]
  dsimp only
  generalize n.log2 = digits
  -- the exponent is one of two, and the lower one is the number of digits less 53
  split <;> omega

/-- The number nearest to an integer other than zero does not count as zero. -/
theorem not_abs_lt_tolerance {n : Int} {x : Float} (hn : n ≠ 0) (hx : floatOfInt? n = some x) :
    ¬ x.abs < Value.tolerance := by
  unfold floatOfInt? at hx
  split at hx
  case isFalse => cases hx
  case isTrue hhigh =>
    cases hx
    have hlow : 1021 * 2 ^ 52 ≤ nearestBits n.natAbs 1 := le_nearestBits (by omega)
    have htwo : twoTo 52 = 2 ^ 52 := rfl
    rw [htwo] at hhigh
    have hbits : (UInt64.ofNat (nearestBits n.natAbs 1)).toNat = nearestBits n.natAbs 1 := by
      rw [UInt64.toNat_ofNat', Nat.mod_eq_of_lt (by omega)]
    rw [abs_nearest, nearest, if_neg Bool.false_ne_true, Nat.add_zero]
    exact not_lt_tolerance (by omega) (by omega)

end Relational.Decimal

import Mathlib
import Switchboard.Binary64

/-!
Doubles in parts. Every operation on doubles unpacks its arguments, works on the parts and packs the
result again, and packing may round a number away. Two kinds of numbers come out as what they went in:
amounts, which are not below zero, and numbers with a full significand and an exponent in range.
-/

namespace Switchboard.Binary64

open Float.Model Float.Model.UnpackedFloat

/-- The sign, significand and exponent of a double, or which special number it is. -/
def parts (x : Float) : UnpackedFloat := x.toModel.unpack

/-- What is left of the parts once they are a double. -/
def repack (u : UnpackedFloat) : UnpackedFloat := (Float.Model.pack u).unpack

/-- Zero, of either sign, or above it. -/
inductive Amount : UnpackedFloat → Prop where
  | zero (s : Sign) : Amount (.zero s)
  | finite (m : Nat) (e : Int) (positive : 0 < m) : Amount (.finite .positive m e positive)
  | infinity : Amount (.infinity .positive)

/-- A number above zero with a significand of 53 bits and an exponent within these bounds. -/
inductive Normal (low high : Int) : UnpackedFloat → Prop where
  | finite (m : Nat) (e : Int) (positive : 0 < m) (full : m.log2 = 52) (above : low ≤ e) (below : e ≤ high) :
    Normal low high (.finite .positive m e positive)

theorem Normal.amount {low high : Int} {u : UnpackedFloat} (normal : Normal low high u) : Amount u := by
  cases normal
  exact .finite _ _ _

theorem Normal.mono {low low' high high' : Int} {u : UnpackedFloat} (normal : Normal low high u)
    (lower : low' ≤ low) (higher : high ≤ high') : Normal low' high' u := by
  cases normal with
  | finite m e positive full above below =>
    exact .finite m e positive full (Int.le_trans lower above) (Int.le_trans below higher)

/-! ### Packing -/

@[simp] theorem unpackSign_packComponents {spec : Format} {s : Sign} {e : BitVec spec.exponentBits}
    {m : BitVec spec.mantissaBitsWithoutImplicit} : unpackSign (packComponents spec s e m) = s.toBitVec := by
  ext i hi
  obtain rfl : i = 0 := by omega
  simp [unpackSign, packComponents, BitVec.getLsbD_eq_getElem, BitVec.getLsbD_append, BitVec.getElem_append]

@[simp] theorem ofBitVec_toBitVec (s : Sign) : Sign.ofBitVec s.toBitVec = s := by
  cases s <;> rfl

theorem toNat_packComponents (e : BitVec 11) (m : BitVec 52) :
    (packComponents Format.binary64 .positive e m).toNat = e.toNat * 2 ^ 52 + m.toNat := by
  have unsigned : (Sign.positive.toBitVec ++ e).toNat = e.toNat := by
    rw [BitVec.toNat_append, show Sign.positive.toBitVec.toNat = 0 from rfl, Nat.zero_shiftLeft, Nat.zero_or]
  rw [packComponents, BitVec.toNat_append, unsigned, ← Nat.shiftLeft_add_eq_or_of_lt m.isLt,
    Nat.shiftLeft_eq]

theorem repack_eq (u : UnpackedFloat) :
    repack u = UnpackedFloat.unpack Format.binary64 (UnpackedFloat.pack Format.binary64 u) := rfl

theorem repack_zero (s : Sign) : repack (.zero s) = .zero s := by
  cases s <;> rfl

theorem repack_notANumber : repack .notANumber = .notANumber := rfl

theorem ofNat_ne_special {field : Nat} (finite : field < 2047) : BitVec.ofNat 11 field ≠ -1#11 := by
  intro special
  have value := congrArg BitVec.toNat special
  have top : (-1#11).toNat = 2047 := rfl
  rw [BitVec.toNat_ofNat, Nat.mod_eq_of_lt (by omega)] at value
  omega

/-- Components of a positive number whose exponent is not the one of special numbers. -/
theorem unpack_amount {e : BitVec 11} {m : BitVec 52} (finite : e ≠ -1#11) :
    Amount (UnpackedFloat.unpack Format.binary64 (packComponents Format.binary64 .positive e m)) := by
  unfold UnpackedFloat.unpack
  simp only [unpackMantissa_packComponents, unpackExponent_packComponents, unpackSign_packComponents,
    ofBitVec_toBitVec, if_neg finite]
  split
  · split
    · exact .zero _
    · exact .finite _ _ _
  · exact .finite _ _ _

theorem repack_amount {u : UnpackedFloat} (amount : Amount u) : Amount (repack u) := by
  cases amount with
  | zero s =>
    rw [repack_zero]
    exact .zero s
  | infinity => exact .infinity
  | finite m e positive =>
    rw [repack_eq]
    unfold UnpackedFloat.pack
    dsimp only
    split
    · exact .infinity
    · rename_i inside
      split
      · have size : 2 ^ Format.binary64.exponentBits = 2048 := rfl
        exact unpack_amount (ofNat_ne_special (by omega))
      · exact unpack_amount (by decide)

theorem toNat_append_one (m : BitVec 52) : (1#1 ++ m).toNat = 2 ^ 52 + m.toNat := by
  rw [BitVec.toNat_append, ← Nat.shiftLeft_add_eq_or_of_lt m.isLt]
  rfl

theorem log2_append_one (m : BitVec 52) : (1#1 ++ m).toNat.log2 = 52 := by
  have size := m.isLt
  rw [Nat.log2_eq_iff (by rw [toNat_append_one]; omega), toNat_append_one]
  omega

/-- Components of a positive number whose exponent is neither the one of special numbers nor the one of
numbers without a hidden bit. -/
theorem unpack_normal {field : Nat} (hidden : 0 < field) (finite : field < 2047) (m : BitVec 52) :
    Normal (field - 1075) (field - 1075) (UnpackedFloat.unpack Format.binary64
      (packComponents Format.binary64 .positive (BitVec.ofNat 11 field) m)) := by
  have exact : (BitVec.ofNat 11 field).toNat = field := by
    rw [BitVec.toNat_ofNat, Nat.mod_eq_of_lt (by omega)]
  have notSubnormal : BitVec.ofNat 11 field ≠ 0#11 := by
    intro subnormal
    rw [subnormal, BitVec.toNat_zero] at exact
    omega
  have number := log2_append_one m
  unfold UnpackedFloat.unpack
  simp only [unpackMantissa_packComponents, unpackExponent_packComponents, unpackSign_packComponents,
    ofBitVec_toBitVec, if_neg (ofNat_ne_special finite), if_neg notSubnormal, exact]
  exact .finite _ _ _ number (Int.le_refl _) (Int.le_refl _)

theorem repack_normal {low high : Int} {u : UnpackedFloat} (normal : Normal low high u)
    (lowest : -1074 ≤ low) (highest : high ≤ 971) : Normal low high (repack u) := by
  cases normal with
  | finite m e positive full above below =>
    have packed : UnpackedFloat.pack Format.binary64 (.finite .positive m e positive) =
        packComponents Format.binary64 .positive (BitVec.ofNat 11 (e + 1075).toNat) (BitVec.ofNat 52 m) := by
      have biased : e + (Format.binary64.exponentBias : Int) + (52 : Nat) = e + 1075 := by
        have bias : Format.binary64.exponentBias = 1023 := rfl
        omega
      have size : 2 ^ Format.binary64.exponentBits = 2048 := rfl
      have bits : Format.binary64.mantissaBits = 53 := rfl
      unfold UnpackedFloat.pack
      dsimp only
      rw [biased, if_neg (by omega), if_pos (by omega)]
    rw [repack_eq, packed]
    exact (unpack_normal (by omega) (by omega) _).mono (by omega) (by omega)

theorem unpack_normal_bits {b : BitVec 64} (least : 1023 * 2 ^ 52 ≤ b.toNat)
    (most : b.toNat < 2047 * 2 ^ 52) : Normal (-52) 971 (UnpackedFloat.unpack Format.binary64 b) := by
  have components : b = packComponents Format.binary64 .positive
      (BitVec.ofNat 11 (b.toNat / 2 ^ 52)) (BitVec.ofNat 52 b.toNat) := by
    apply BitVec.eq_of_toNat_eq
    rw [toNat_packComponents, BitVec.toNat_ofNat, BitVec.toNat_ofNat]
    omega
  rw [components]
  exact (unpack_normal (by omega) (by omega) _).mono (by omega) (by omega)

/-! ### Rounding -/

/-- Rounding does not change the sign. -/
theorem roundWithAccuracy_amount (m : Nat) (e : Int) (accuracy : Accuracy) :
    Amount (roundWithAccuracy Format.binary64 .positive m e accuracy) := by
  unfold roundWithAccuracy
  dsimp only
  split
  · exact .zero _
  · exact .finite _ _ _

theorem normalize_amount {m : Int} (positive : 0 < m) (e : Int) (s : Sign) :
    Amount (UnpackedFloat.normalize Format.binary64 m e s) := by
  have above : compare m 0 = .gt := Int.compare_eq_gt.mpr positive
  unfold UnpackedFloat.normalize
  rw [above]
  exact roundWithAccuracy_amount _ _ _

theorem roundedMantissa_bounds (m : ExtendedMantissa) :
    m.mantissa ≤ m.roundedMantissa ∧ m.roundedMantissa ≤ m.mantissa + 1 := by
  obtain ⟨m, half, rest⟩ := m
  cases half <;> cases rest <;>
    simp [ExtendedMantissa.roundedMantissa, ExtendedMantissa.accuracy, Accuracy.roundToNearestEven]
  omega

@[simp] theorem mantissa_ofMantissaAndAccuracy (m : Nat) (accuracy : Accuracy) :
    (ExtendedMantissa.ofMantissaAndAccuracy m accuracy).mantissa = m := by
  cases accuracy with
  | exact => rfl
  | inexact half => cases half <;> rfl

theorem minExponent_binary64 : Format.binary64.minExponent = -1074 := rfl

/-- A significand of 53 bits is where it should be, one of 54 bits is shifted by one. -/
theorem shiftToTargetExponent_full {m : Nat} {e : Int} (accuracy : Accuracy) (full : 2 ^ 52 ≤ m)
    (short : m < 2 ^ 54) (lowest : -1074 ≤ e) :
    let shifted := shiftToTargetExponent Format.binary64 m e accuracy
    (2 ^ 52 ≤ shifted.1.mantissa ∧ shifted.1.mantissa < 2 ^ 53) ∧ e ≤ shifted.2 ∧ shifted.2 ≤ e + 1 := by
  have target : Format.binary64.targetExponent (totalExponent m e) = m.log2 - 52 + e := by
    have least : 52 ≤ m.log2 := (Nat.le_log2 (by omega)).mpr full
    have bits : (Format.binary64.mantissaBits : Int) = 53 := rfl
    rw [Format.targetExponent, totalExponent, minExponent_binary64, bits]
    omega
  unfold shiftToTargetExponent shiftToExponent
  dsimp only
  rw [target]
  by_cases exact : m < 2 ^ 53
  · have log : m.log2 = 52 := (Nat.log2_eq_iff (by omega)).mpr ⟨full, exact⟩
    have none : ((m.log2 : Int) - 52 + e - e).toNat = 0 := by omega
    rw [none]
    have still : ∀ em : ExtendedMantissa, em >>> 0 = em := fun _ => rfl
    rw [still, mantissa_ofMantissaAndAccuracy]
    omega
  · have log : m.log2 = 53 := (Nat.log2_eq_iff (by omega)).mpr ⟨by omega, short⟩
    have one : ((m.log2 : Int) - 52 + e - e).toNat = 1 := by omega
    have halved : ∀ em : ExtendedMantissa, (em >>> 1).mantissa = em.mantissa / 2 := fun _ => rfl
    rw [one, halved, mantissa_ofMantissaAndAccuracy]
    omega

theorem roundWithAccuracy_normal {m : Nat} {e : Int} (accuracy : Accuracy) (full : 2 ^ 52 ≤ m)
    (short : m < 2 ^ 54) (lowest : -1074 ≤ e) :
    Normal e (e + 2) (roundWithAccuracy Format.binary64 .positive m e accuracy) := by
  obtain ⟨⟨least, most⟩, above, below⟩ := shiftToTargetExponent_full accuracy full short lowest
  unfold roundWithAccuracy
  dsimp only
  generalize shiftToTargetExponent Format.binary64 m e accuracy = first at *
  -- Rounding up may carry into a new bit, which the second shift takes away.
  obtain ⟨roundedUp, carried⟩ := roundedMantissa_bounds first.1
  obtain ⟨⟨least', most'⟩, above', below'⟩ :=
    shiftToTargetExponent_full .exact (Nat.le_trans least roundedUp) (by omega) (Int.le_trans lowest above)
  generalize shiftToTargetExponent Format.binary64 first.1.roundedMantissa first.2 .exact = second at *
  rw [dif_neg (by omega)]
  have log : second.1.mantissa.log2 = 52 := (Nat.log2_eq_iff (by omega)).mpr ⟨least', most'⟩
  exact .finite _ _ _ log (by omega) (by omega)

end Switchboard.Binary64

import Switchboard.Number
import Switchboard.Proofs.Binary64
import Switchboard.Proofs.Binary64.Packing
import Switchboard.Reading

/-!
Arithmetic on amounts. Sums of amounts are amounts, and so are products, unless one factor is zero and the
other infinite: then there is no product, and a sum that such a product has entered stays undefined.
-/

namespace Switchboard.Binary64

open Float.Model Float.Model.UnpackedFloat

theorem parts_add (x y : Float) :
    parts (x + y) = repack (UnpackedFloat.add Format.binary64 (parts x) (parts y)) := rfl

theorem parts_mul (x y : Float) :
    parts (x * y) = repack (UnpackedFloat.mul Format.binary64 (parts x) (parts y)) := rfl

theorem parts_div (x y : Float) :
    parts (x / y) = repack (UnpackedFloat.div Format.binary64 (parts x) (parts y)) := rfl

theorem parts_ofBits (bits : UInt64) :
    parts (Float.ofBits bits) = repack (UnpackedFloat.unpack Format.binary64 bits.toBitVec) := rfl

theorem parts_of_toBits {x : Float} {bits : UInt64} (same : x.toBits = bits) :
    parts x = UnpackedFloat.unpack Format.binary64 bits.toBitVec := by
  rw [← same]
  rfl

theorem isNaN_iff {x : Float} : x.isNaN = true ↔ parts x = .notANumber := by
  rw [show x.isNaN = (parts x).isNaN from rfl]
  generalize parts x = u
  cases u <;> simp [UnpackedFloat.isNaN]

theorem isInf_iff {x : Float} (amount : Amount (parts x)) :
    x.isInf = true ↔ parts x = .infinity .positive := by
  rw [show x.isInf = (parts x).isInf from rfl]
  generalize parts x = u at amount
  cases amount <;> simp [UnpackedFloat.isInf]

theorem Amount.isNaN_eq_false {x : Float} (amount : Amount (parts x)) : x.isNaN = false := by
  rw [show x.isNaN = (parts x).isNaN from rfl]
  generalize parts x = u at amount
  cases amount <;> rfl

/-! ### Comparison with zero -/

theorem le_iff {x y : Float} : x ≤ y ↔ (parts x).le (parts y) = true := by
  exact decide_eq_true_iff

theorem parts_zero : parts (Nat.toFloat 0) = .zero .positive := by
  have bits : (Nat.toFloat 0).toBits = 0 := by decide +kernel
  rw [parts_of_toBits bits]
  rfl

/-- What is at least zero is an amount, and the undefined number is none. -/
theorem admits_zero_iff {x : Float} : Bound.admitsFloat x (.atLeast 0) = true ↔ Amount (parts x) := by
  rw [Bound.admitsFloat, decide_eq_true_iff, le_iff, parts_zero]
  generalize parts x = u
  constructor
  · intro above
    cases u with
    | notANumber => cases above
    | zero s => exact .zero s
    | infinity s => cases s with
      | negative => cases above
      | positive => exact .infinity
    | finite s m e positive => cases s with
      | negative => cases above
      | positive => exact .finite m e positive
  · intro amount
    cases amount <;> rfl

/-! ### Sums -/

theorem add_amount {x y : Float} (left : Amount (parts x)) (right : Amount (parts y)) :
    Amount (parts (x + y)) := by
  rw [parts_add]
  apply repack_amount
  generalize parts x = u at left
  generalize parts y = v at right
  cases left with
  | infinity => cases right <;> exact .infinity
  | zero s =>
    cases right with
    | infinity => exact .infinity
    | finite m e positive => exact .finite m e positive
    | zero s' =>
      unfold UnpackedFloat.add
      dsimp only
      split
      · exact .zero _
      · exact .zero _
  | finite m e positive =>
    cases right with
    | infinity => exact .infinity
    | zero s => exact .finite m e positive
    | finite m' e' positive' =>
      have left : 0 < m <<< (e - min e e').toNat := Nat.shiftLeft_pos_iff.mpr positive
      have right : 0 < m' <<< (e' - min e e').toNat := Nat.shiftLeft_pos_iff.mpr positive'
      refine normalize_amount ?_ _ _
      dsimp only [Sign.apply]
      omega

theorem add_undefined {x y : Float} (undefined : x.isNaN = true ∨ y.isNaN = true) :
    (x + y).isNaN = true := by
  rw [isNaN_iff, isNaN_iff] at undefined
  rw [isNaN_iff, parts_add]
  rcases undefined with left | right
  · rw [left]
    exact repack_notANumber
  · rw [right]
    generalize parts x = u
    cases u <;> exact repack_notANumber

/-! ### Products -/

theorem normal_mul_amount {low high : Int} {x y : Float} (left : Normal low high (parts x))
    (right : Amount (parts y)) : Amount (parts (x * y)) := by
  rw [parts_mul]
  apply repack_amount
  generalize parts x = u at left
  generalize parts y = v at right
  cases left with
  | finite m e positive =>
    cases right with
    | infinity => exact .infinity
    | zero s => exact .zero _
    | finite m' e' positive' => exact roundWithAccuracy_amount _ _ _

theorem zero_mul {s : Sign} {x y : Float} (left : parts x = .zero s) (right : Amount (parts y)) :
    if y.isInf then (x * y).isNaN = true else Amount (parts (x * y)) := by
  split
  case isTrue infinite =>
    rw [isNaN_iff, parts_mul, left, (isInf_iff right).mp infinite]
    exact repack_notANumber
  case isFalse finite =>
    rw [isInf_iff right] at finite
    rw [parts_mul, left]
    apply repack_amount
    generalize parts y = v at right finite
    cases right with
    | infinity => exact (finite rfl).elim
    | zero s' => exact .zero _
    | finite m e positive => exact .zero _

/-! ### Quotients -/

theorem zero_div {low high : Int} {x y : Float} (left : parts x = .zero .positive)
    (right : Normal low high (parts y)) : parts (x / y) = .zero .positive := by
  rw [parts_div, left]
  generalize parts y = v at right
  cases right with
  | finite m e positive => exact repack_zero .positive

/-- The quotient of two numbers with full significands has 53 or 54 bits before it is rounded. -/
theorem div_normal {low high low' high' : Int} {x y : Float} (left : Normal low high (parts x))
    (right : Normal low' high' (parts y)) (lowest : -1021 ≤ low - high') (highest : high - low' ≤ 1022) :
    Normal (low - high' - 53) (high - low' - 51) (parts (x / y)) := by
  rw [parts_div]
  refine repack_normal ?_ (by omega) (by omega)
  generalize parts x = u at left
  generalize parts y = v at right
  cases left with
  | finite m e positive full above below =>
    cases right with
    | finite m' e' positive' full' above' below' =>
      unfold UnpackedFloat.div divCore
      dsimp only
      have target : Format.binary64.targetExponent (totalExponent m e - totalExponent m' e') = e - e' - 53 := by
        have bits : (Format.binary64.mantissaBits : Int) = 53 := rfl
        rw [Format.targetExponent, totalExponent, totalExponent, minExponent_binary64, bits]
        omega
      have shift : (e - e' - (e - e' - 53)).toNat = 53 := by omega
      -- The dividend is shifted so that the quotient has all its bits, or one more.
      have bounds : 2 ^ 52 ≤ m <<< 53 / m' ∧ m <<< 53 / m' < 2 ^ 54 := by
        obtain ⟨least, most⟩ := (Nat.log2_eq_iff (by omega)).mp full
        obtain ⟨least', most'⟩ := (Nat.log2_eq_iff (by omega)).mp full'
        rw [Nat.le_div_iff_mul_le positive', Nat.div_lt_iff_lt_mul positive', Nat.shiftLeft_eq]
        omega
      rw [target, Int.min_eq_right (by omega), shift]
      refine (roundWithAccuracy_normal _ bounds.1 bounds.2 (by omega)).mono (by omega) (by omega)

/-! ### Whole numbers and millions of them -/

theorem parts_ofInt_pos {n : Nat} {x : Float} (nearest : ofInt? n = some x) (positive : 0 < n) :
    Normal (-52) 971 (parts x) := by
  have above : ¬((n : Int) < 0) := by omega
  have least := le_magnitude positive
  unfold ofInt? ofRatio? at nearest
  dsimp only at nearest
  rw [Int.natAbs_natCast] at nearest
  split at nearest
  case isFalse => cases nearest
  case isTrue finite =>
    obtain rfl := Option.some.inj nearest
    have size : overflow = 2047 * 2 ^ 52 := rfl
    have hidden : hiddenBit = 2 ^ 52 := rfl
    have bits : (UInt64.ofNat (magnitude n 1)).toBitVec.toNat = magnitude n 1 :=
      Nat.mod_eq_of_lt (by omega)
    rw [withSign, decide_eq_false above, if_neg (by decide), parts_ofBits]
    exact repack_normal (unpack_normal_bits (by omega) (by omega)) (by omega) (by omega)

theorem parts_ofInt_zero {x : Float} (nearest : ofInt? 0 = some x) : parts x = .zero .positive := by
  have zero : (ofInt? 0).map Float.toBits = some 0 := by decide +kernel
  rw [nearest] at zero
  rw [parts_of_toBits (Option.some.inj zero)]
  rfl

theorem million_normal : Normal (-33) (-33) (parts 1000000.0) := by
  have bits : Float.toBits 1000000.0 = 0x412E848000000000 := by decide +kernel
  have full : (0x1E848000000000 : Nat).log2 = 52 := by decide +kernel
  rw [parts_of_toBits bits]
  exact .finite 0x1E848000000000 (-33) (by omega) full (Int.le_refl _) (Int.le_refl _)

end Switchboard.Binary64

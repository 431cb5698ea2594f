import Switchboard.Binary64

/-!
Quotients that stay within the doubles: `quotient?_of_le` says that a part of a whole always has one, and
`le_magnitude` where the doubles of whole numbers begin.
-/

namespace Switchboard.Binary64

theorem roundQuotient_le (n d : Nat) : roundQuotient n d ≤ n / d + 1 := by
  have parity : n / d % 2 < 2 := Nat.mod_lt _ (by omega)
  unfold roundQuotient
  dsimp only
  split
  · omega
  · split
    · omega
    · omega

/-- A quotient below the next power of two leaves a significand of at most 53 bits. -/
theorem significand_le (q : Nat) : q / Nat.pow 2 (q.log2 - 52) + 1 ≤ 2 * hiddenBit := by
  have below : q < 2 ^ (q.log2 + 1) := Nat.lt_log2_self
  have split : q < 2 ^ (q.log2 - 52) * (2 * hiddenBit) := by
    have bits : 2 * hiddenBit = 2 ^ 53 := rfl
    rw [bits, ← Nat.pow_add]
    exact Nat.lt_of_lt_of_le below (Nat.pow_le_pow_right (by omega) (by omega))
  exact Nat.div_lt_of_lt_mul split

theorem log2_le_of_le_pow {q k : Nat} (le : q ≤ Nat.pow 2 k) : q.log2 ≤ k := by
  rcases Nat.eq_zero_or_pos q with rfl | positive
  · simp
  · have powers : 2 ^ q.log2 ≤ 2 ^ k := Nat.le_trans (Nat.log2_self_le (by omega)) le
    exact (Nat.pow_le_pow_iff_right (by omega)).mp powers

theorem magnitude_lt_overflow {n d : Nat} (le : n ≤ d) : magnitude n d < overflow := by
  have quotient : one * n / d ≤ one := by
    rcases Nat.eq_zero_or_pos d with rfl | positive
    · simp
    · calc one * n / d ≤ one * d / d := Nat.div_le_div_right (Nat.mul_le_mul_left _ le)
        _ = one := Nat.mul_div_cancel _ positive
  have exponent : (one * n / d).log2 ≤ 1074 := by
    generalize one * n / d = q at quotient
    unfold one at quotient
    generalize 1074 = k at quotient ⊢
    exact log2_le_of_le_pow quotient
  have rounded := roundQuotient_le (one * n) (d * Nat.pow 2 ((one * n / d).log2 - 52))
  rw [← Nat.div_div_eq_div_mul] at rounded
  have significand := significand_le (one * n / d)
  have scaled : hiddenBit * ((one * n / d).log2 - 52) ≤ hiddenBit * 1022 :=
    Nat.mul_le_mul_left _ (by omega)
  have room : hiddenBit * 1022 + 2 * hiddenBit < overflow := by decide
  unfold magnitude
  dsimp only
  omega

/-- The share of a part in the whole is never beyond the doubles. -/
theorem quotient?_of_le {a b : Nat} (le : a ≤ b) : ∃ x, quotient? a b = some x := by
  have bits := magnitude_lt_overflow le
  unfold quotient? ofRatio?
  dsimp only
  rw [Int.natAbs_natCast, Int.natAbs_natCast, if_pos bits]
  exact ⟨_, rfl⟩

/-! ### Whole numbers -/

theorem le_roundQuotient (n d : Nat) : n / d ≤ roundQuotient n d := by
  unfold roundQuotient
  dsimp only
  split
  · omega
  · split
    · omega
    · omega

theorem hiddenBit_le {q : Nat} (long : 52 ≤ q.log2) : hiddenBit ≤ q / Nat.pow 2 (q.log2 - 52) := by
  have positive : q ≠ 0 := by
    rintro rfl
    simp at long
  refine (Nat.le_div_iff_mul_le (Nat.pow_pos (by omega))).mpr ?_
  calc hiddenBit * Nat.pow 2 (q.log2 - 52) = 2 ^ (52 + (q.log2 - 52)) := (Nat.pow_add 2 52 _).symm
    _ = 2 ^ q.log2 := by rw [Nat.add_sub_of_le long]
    _ ≤ q := Nat.log2_self_le positive

/-- The bits of a whole number above zero are those of a number that is at least one. -/
theorem le_magnitude {n : Nat} (positive : 0 < n) : 1023 * hiddenBit ≤ magnitude n 1 := by
  have exponent : 1074 ≤ (one * n / 1).log2 := by
    have large : one ≤ one * n := Nat.le_mul_of_pos_right _ positive
    rw [Nat.div_one]
    generalize one * n = q at large
    unfold one at large
    generalize 1074 = k at large ⊢
    have nonzero : q ≠ 0 := Nat.ne_of_gt (Nat.lt_of_lt_of_le (Nat.pow_pos (by omega)) large)
    exact (Nat.le_log2 nonzero).mpr large
  have rounded := le_roundQuotient (one * n) (1 * Nat.pow 2 ((one * n / 1).log2 - 52))
  rw [← Nat.div_div_eq_div_mul] at rounded
  have significand := hiddenBit_le (q := one * n / 1) (by omega)
  have scaled : hiddenBit * 1022 ≤ hiddenBit * ((one * n / 1).log2 - 52) := Nat.mul_le_mul_left _ (by omega)
  calc 1023 * hiddenBit = hiddenBit * 1022 + hiddenBit := by decide
    _ ≤ magnitude n 1 := Nat.add_le_add scaled (Nat.le_trans significand rounded)
end Switchboard.Binary64

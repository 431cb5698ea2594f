import Switchboard.Fault

/-!
Time spans in microseconds, made from seconds. A span counts its days in a machine word and holds at
most 999999999 of them.
-/

namespace Switchboard.Span

def microsPerSecond : Nat := 1000000

def microsPerDay : Int := 86400000000

/-- The first whole number beyond a word of 32 bits. -/
def wordEnd : Int := 0x80000000

/-- Checks the number of days of a span, counted down to the day that has begun. -/
def ofMicros (micros : Int) : Except Fault Int :=
  let days := micros / microsPerDay
  if wordEnd ≤ days ∨ days < -wordEnd then .error .spanUncountable
  else if 999999999 < days ∨ days < -999999999 then .error (.spanTooLong days)
  else .ok micros

def ofSeconds (seconds : Nat) : Except Fault Int :=
  ofMicros (seconds * microsPerSecond : Nat)

/-- `2 ^ exponent` seconds. From the 64th power on the days are beyond count. -/
def ofPowerOfTwo (exponent : Nat) : Except Fault Int :=
  if 64 ≤ exponent then .error .spanUncountable else ofSeconds (Nat.pow 2 exponent)

theorem ofPowerOfTwo_eq (exponent : Nat) : ofPowerOfTwo exponent = ofSeconds (Nat.pow 2 exponent) := by
  unfold ofPowerOfTwo
  split
  · rename_i h
    have hpow : Nat.pow 2 64 ≤ Nat.pow 2 exponent := Nat.pow_le_pow_right (Nat.le_succ 1) h
    have hdays : wordEnd ≤ ((Nat.pow 2 exponent * microsPerSecond : Nat) : Int) / microsPerDay := by
      simp only [Nat.pow_eq] at hpow
      simp only [wordEnd, microsPerSecond, microsPerDay, Nat.pow_eq]
      omega
    exact (if_pos (Or.inl hdays)).symm
  · rfl

/-- A number of seconds that is not negative. The whole seconds count exactly; the rest is taken to
microseconds in doubles and rounded, a half going to the even neighbour. -/
def ofFloat (seconds : Float) : Except Fault Int :=
  if !seconds.isFinite then .error .infiniteNumber
  else
    let whole := Binary64.units seconds / Binary64.one
    let rest := (Binary64.ofRatio? false (Binary64.units seconds % Binary64.one) Binary64.one).getD 0.0
    let micros := Binary64.roundQuotient (Binary64.units (rest * 1000000.0)) Binary64.one
    ofMicros (whole * microsPerSecond + micros)

end Switchboard.Span

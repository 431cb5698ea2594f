/-!
Doubles as exact integers. A finite double is a whole number of units of `2 ^ -1074`, so every
conversion between doubles and exact numbers is arithmetic on `Nat`: `units` reads the magnitude
off the bits, `ofRatio?` rounds a quotient to the nearest double, halves to the even neighbour.
-/

namespace Switchboard.Binary64

def isNegative (x : Float) : Bool := x.toBits >>> 63 == 1

def fraction (x : Float) : Nat := (x.toBits &&& 0xFFFFFFFFFFFFF).toNat

def exponentField (x : Float) : Nat := ((x.toBits >>> 52) &&& 0x7FF).toNat

def hiddenBit : Nat := 0x10000000000000

/-- The significand with its hidden bit, which subnormal numbers lack. -/
def significand (x : Float) : Nat :=
  if exponentField x = 0 then fraction x else hiddenBit + fraction x

/-- The number of places by which the significand is shifted from the unit. -/
def shift (x : Float) : Nat := exponentField x - 1

def one : Nat := Nat.pow 2 1074

/-- The magnitude of a finite double, counted in units. -/
def units (x : Float) : Nat := significand x * Nat.pow 2 (shift x)

/-- The whole number nearest to `n / d`, a half going to the even neighbour. -/
def roundQuotient (n d : Nat) : Nat :=
  let q := n / d
  let r := n % d
  if 2 * r < d then q else if d < 2 * r then q + 1 else q + q % 2

/-- The first pattern beyond the finite doubles. -/
def overflow : Nat := 0x7FF * hiddenBit

/-- The bits of the double nearest to `n / d`, sign apart. From `2 ^ 52` on the pattern of a double
counts doubles, so a significand that rounds up to `2 ^ 53` needs no second step. -/
def magnitude (n d : Nat) : Nat :=
  let scaled := one * n
  let s := (scaled / d).log2 - 52
  hiddenBit * s + roundQuotient scaled (d * Nat.pow 2 s)

def signBit : Nat := 0x8000000000000000

def withSign (negative : Bool) (bits : Nat) : Float :=
  Float.ofBits (UInt64.ofNat (if negative then signBit + bits else bits))

/-- The double nearest to `± n / d`; none beyond the largest. -/
def ofRatio? (negative : Bool) (n d : Nat) : Option Float :=
  let bits := magnitude n d
  if bits < overflow then some (withSign negative bits) else none

def infinity (negative : Bool) : Float := withSign negative overflow

def nan : Float := Float.ofBits 0x7FF8000000000000

def ofInt? (n : Int) : Option Float := ofRatio? (n < 0) n.natAbs 1

/-- The double nearest to the exact quotient of two whole numbers, the second not zero. -/
def quotient? (a b : Int) : Option Float :=
  ofRatio? (xor (decide (a < 0)) (decide (b < 0))) a.natAbs b.natAbs

/-- The double nearest to `± digits · 10 ^ exponent`, infinite beyond the largest. Past 400 places
either way the size alone decides. -/
def ofDecimal (negative : Bool) (digits : Nat) (exponent : Int) : Float :=
  let places := (Nat.toDigits 10 digits).length
  if digits = 0 ∨ exponent + places < -400 then withSign negative 0
  else if 400 < exponent + places then infinity negative
  else
    let x? := if 0 ≤ exponent then ofRatio? negative (digits * Nat.pow 10 exponent.toNat) 1
      else ofRatio? negative digits (Nat.pow 10 (-exponent).toNat)
    x?.getD (infinity negative)

/-- The whole part of a finite double, dropped toward zero. -/
def truncate (x : Float) : Int :=
  let whole : Nat := units x / one
  if isNegative x then -(whole : Int) else whole

/-- The exact value of a finite double without a fractional part. -/
def toInt? (x : Float) : Option Int :=
  if x.isFinite && units x % one == 0 then some (truncate x) else none

/-- The second number if it is less than the first. -/
def least (a b : Float) : Float := if b < a then b else a

/-- The second number if it is greater than the first. -/
def greatest (a b : Float) : Float := if a < b then b else a

end Switchboard.Binary64

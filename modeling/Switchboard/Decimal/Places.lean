import Switchboard.Decimal.Shortest

/-!
Doubles with a given number of decimal places or of significant digits. Both round the exact value
of the double, a half going to the even neighbour.
-/

namespace Switchboard.Decimal

open Binary64

def pointed (n places : Nat) : String :=
  if places = 0 then toString n
  else
    let ds := toString n
    let ds := zeros (places + 1 - ds.length) ++ ds
    let whole := ds.length - places
    (ds.take whole).toString ++ "." ++ (ds.drop whole).toString

/-- Writes what is not finite by name and leaves finite magnitudes to `digits`. -/
def signed (x : Float) (digits : Unit → String) : String :=
  if x.isNaN then "nan"
  else (if isNegative x then "-" else "") ++ if x.isInf then "inf" else digits ()

def fixed (places : Nat) (x : Float) : String :=
  signed x fun _ => pointed (roundQuotient (units x * Nat.pow 10 places) one) places

/-- The magnitude as a fraction whose whole part counts multiples of `10 ^ k`. -/
def onGrid (x : Float) (k : Int) : Nat × Nat :=
  if 0 ≤ k then (units x, one * Nat.pow 10 k.toNat) else (units x * Nat.pow 10 (-k).toNat, one)

/-- Looks, from coarse to fine, for the grid on which the magnitude has `n` digits before the
point, and rounds there. Rounding up to `10 ^ n` gives the first number of the grid above. -/
def significantFrom (x : Float) (n : Nat) : Nat → Int → Scaled
  | 0, k => ⟨0, k⟩
  | steps + 1, k =>
    let (m, step) := onGrid x k
    if Nat.pow 10 (n - 1) ≤ m / step then
      let d := roundQuotient m step
      if d = Nat.pow 10 n then ⟨Nat.pow 10 (n - 1), k + 1⟩ else ⟨d, k⟩
    else significantFrom x n steps (k - 1)

/-- A finite magnitude rounded to `n` significant digits, `n` not zero. -/
def significant (n : Nat) (x : Float) : Scaled :=
  if units x = 0 then ⟨0, 1 - n⟩
  else significantFrom x n 6 (tensAbove (units x) one + 1 - n)

/-- The exponent of the leading digit when `n` digits are kept. -/
def Scaled.leading (s : Scaled) (n : Nat) : Int := s.exponent + n - 1

/-- One digit, the point, `places` digits and an exponent. -/
def scientific (places : Nat) (x : Float) : String :=
  signed x fun _ =>
    let s := significant (places + 1) x
    let ds := toString s.digits
    let ds := ds ++ zeros (places + 1 - ds.length)
    let tail := (ds.drop 1).toString
    (ds.take 1).toString ++ (if tail.isEmpty then "" else "." ++ tail) ++ "e"
      ++ exponentText (s.leading (places + 1))

def trimZeros (s : String) : String :=
  if s.any (· == '.') then
    let kept := (s.toList.reverse.dropWhile (· == '0')).reverse
    String.ofList (if kept.getLast? == some '.' then kept.dropLast else kept)
  else s

/-- At most `n` significant digits, `n` not zero, positional from `1e-4` up to `10 ^ top`. Trailing zeros
are dropped unless `keepZeros` asks for all digits and the point. -/
def generalUpTo (top : Int) (n : Nat) (keepZeros : Bool) (x : Float) : String :=
  let trim (s : String) : String :=
    if !keepZeros then trimZeros s else if s.any (· == '.') then s else s ++ "."
  signed x fun _ =>
    let s := significant n x
    let e := s.leading n
    if -4 ≤ e ∧ e < top then
      let places := (n - 1 - e).toNat
      trim (pointed (roundQuotient (units x * Nat.pow 10 places) one) places)
    else
      let ds := toString s.digits
      let ds := ds ++ zeros (n - ds.length)
      trim ((ds.take 1).toString ++ "." ++ (ds.drop 1).toString) ++ "e" ++ exponentText e

/-- At most `digits` significant digits, and at least one, positional up to the number of digits. -/
def general (digits : Nat) (keepZeros : Bool) (x : Float) : String :=
  let n := max digits 1
  generalUpTo n n keepZeros x

/-- At most `digits` significant digits, and at least one; a positional number has one of them behind
the point, be it a zero. -/
def generalPointed (digits : Nat) (keepZeros : Bool) (x : Float) : String :=
  let n := max digits 1
  let s := generalUpTo (n - 1) n keepZeros x
  if !x.isFinite || s.any (fun c => c == '.' || c == 'e') then s else s ++ ".0"

/-- Sets a point behind the whole part of a number that has none. -/
def withPoint (s : String) : String :=
  let whole := s.toList.takeWhile (· != 'e')
  String.ofList (whole ++ '.' :: s.toList.drop whole.length)

/-- A number with a point, which what is not finite has no place for. -/
def ensurePoint (s : String) : String :=
  if s.any Char.isDigit && !s.any (· == '.') then withPoint s else s

/-- A magnitude in positional, scientific or general notation, as the letter f, e or g in either case
says. The longer form always has a point, and its general notation keeps all digits. -/
def inNotation (letter : Char) (places : Nat) (isLong : Bool) (x : Float) : String :=
  let pointed (s : String) : String := if isLong && places = 0 then withPoint s else s
  let text :=
    if !x.isFinite then fixed 0 x
    else if letter.toLower == 'f' then pointed (fixed places x)
    else if letter.toLower == 'e' then pointed (scientific places x)
    else general places isLong x
  if letter.isUpper then String.ofList (text.toList.map Char.toUpper) else text

end Switchboard.Decimal

import Switchboard.Binary64

/-!
The shortest decimal text of a double. Of all decimals that round to the double the shortest is
written, and of several of that length the nearest. The reals that round to a double form an
interval; a decimal grid that meets it also has one of the value's two neighbours inside, so the
search looks at two points of each grid, from coarse to fine.
-/

namespace Switchboard.Decimal

open Binary64

/-- The number `digits · 10 ^ exponent`. -/
structure Scaled where
  digits : Nat
  exponent : Int
deriving Repr, DecidableEq

/-- A double and the interval that rounds to it, in quarters of a unit. -/
structure Interval where
  low : Nat
  value : Nat
  high : Nat
  /-- Ends belong to the interval when the significand is even. -/
  closed : Bool

/-- Below a power of two the next double is only half as far away. -/
def interval (x : Float) : Interval :=
  let gap := Nat.pow 2 (shift x)
  let v := 4 * units x
  { low := v - (if fraction x = 0 ∧ 1 < exponentField x then 1 else 2) * gap
    value := v
    high := v + 2 * gap
    closed := significand x % 2 == 0 }

def Interval.holds (i : Interval) (t : Nat) : Bool :=
  if i.closed then i.low ≤ t && t ≤ i.high else i.low < t && t < i.high

def Interval.scale (i : Interval) (n : Nat) : Interval :=
  { i with low := i.low * n, value := i.value * n, high := i.high * n }

/-- The multiple of `10 ^ k` nearest to the value, if it lies in the interval. -/
def Interval.onGrid? (i : Interval) (k : Int) : Option Nat :=
  let j := if 0 ≤ k then i else i.scale (Nat.pow 10 (-k).toNat)
  let step := if 0 ≤ k then 4 * one * Nat.pow 10 k.toNat else 4 * one
  let d := j.value / step
  let below := j.value - d * step
  let above := (d + 1) * step - j.value
  match j.holds (d * step), j.holds ((d + 1) * step) with
  | true, true => some (if below < above then d else if above < below then d + 1 else d + d % 2)
  | true, false => some d
  | false, true => some (d + 1)
  | false, false => none

/-- The first of the grids `10 ^ k`, `10 ^ (k - 1)`, … that meets the interval. -/
def Interval.search (i : Interval) : Nat → Int → Scaled
  | 0, k => ⟨0, k⟩
  | steps + 1, k =>
    match i.onGrid? k with
    | some d => ⟨d, k⟩
    | none => search i steps (k - 1)

/-- An exponent of ten just above the value of `n / d`. -/
def tensAbove (n d : Nat) : Int := ((n.log2 : Int) - d.log2) * 30103 / 100000 + 2

/-- The shortest decimal of a finite double other than zero. Seventeen digits always suffice, and
the first grid lies at most four places above the leading digit. -/
def shortest (x : Float) : Scaled :=
  let i := interval x
  i.search 24 (tensAbove i.value (4 * one))

/-- Where a number stops being written without an exponent, as positions of the decimal point
counted from the first digit. -/
structure Layout where
  lowest : Int
  highest : Int

/-- Sixteen places before the point and three zeros behind it are written out. -/
def layout : Layout := ⟨-3, 16⟩

def zeros (n : Nat) : String := String.ofList (List.replicate n '0')

/-- A sign, then at least two digits. -/
def exponentText (e : Int) : String :=
  let ds := toString e.natAbs
  (if e < 0 then "-" else "+") ++ zeros (2 - ds.length) ++ ds

def Layout.render (l : Layout) (s : Scaled) : String :=
  let ds := toString s.digits
  let n : Int := ds.length
  let point := n + s.exponent
  if l.lowest ≤ point ∧ point ≤ l.highest then
    if point ≤ 0 then "0." ++ zeros (-point).toNat ++ ds
    else if n ≤ point then ds ++ zeros (point - n).toNat ++ ".0"
    else (ds.take point.toNat).toString ++ "." ++ (ds.drop point.toNat).toString
  else
    let tail := (ds.drop 1).toString
    (ds.take 1).toString ++ (if tail.isEmpty then "" else "." ++ tail) ++ "e" ++ exponentText (point - 1)

/-- The text of a double: the shortest digits that read back, `.0` after a whole number. -/
def text (x : Float) : String :=
  if x.isNaN then "nan"
  else
    let sign := if isNegative x then "-" else ""
    if x.isInf then sign ++ "inf"
    else if units x = 0 then sign ++ "0.0"
    else sign ++ layout.render (shortest x)

end Switchboard.Decimal

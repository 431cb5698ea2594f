import Switchboard.Fault

/-!
Numbers as they are given: a flag counts as zero or one, a whole number exactly, a decimal as the double
that it is. Numbers of different forms are compared by their exact values.
-/

namespace Switchboard

inductive Number where
  | flag (b : Bool)
  | whole (n : Int)
  | decimal (x : Float)

namespace Number

instance : Coe Int Number := ⟨whole⟩

instance : Coe Nat Number := ⟨fun n => whole n⟩

def ofData? : Data → Option Number
  | .bool b => some (flag b)
  | .int n => some (whole n)
  | .float x => some (decimal x)
  | _ => none

def toData : Number → Data
  | flag b => .bool b
  | whole n => .int n
  | decimal x => .float x

def text (n : Number) : String := n.toData.shown

def toFloat : Number → Except Fault Float
  | flag b => .ok (if b then 1.0 else 0.0)
  | whole n => (Binary64.ofInt? n).elim (.error .intTooLarge) .ok
  | decimal x => .ok x

/-! ### Order -/

/-- Where a number stands among all others. -/
inductive Standing where
  /-- Below all finite numbers. -/
  | bottom
  /-- A finite number, counted in units of the smallest double. -/
  | finite (units : Int)
  /-- Above all finite numbers. -/
  | top
deriving DecidableEq, Repr

/-- The standing of a number; the undefined number has none. -/
def standing? : Number → Option Standing
  | flag b => some (.finite (if b then Binary64.one else 0))
  | whole n => some (.finite (n * Binary64.one))
  | decimal x =>
    if x.isNaN then none
    else if x.isFinite then
      some (.finite (Numeral.withSign (Binary64.isNegative x) (Binary64.units x)))
    else some (if Binary64.isNegative x then .bottom else .top)

def Standing.atMost : Standing → Standing → Bool
  | .bottom, _ => true
  | _, .top => true
  | .finite a, .finite b => decide (a ≤ b)
  | _, _ => false

/-- No comparison with the undefined number is true. -/
def atMost (a b : Number) : Bool :=
  match a.standing?, b.standing? with
  | some a, some b => a.atMost b
  | _, _ => false

def isNegative : Number → Bool
  | flag _ => false
  | whole n => decide (n < 0)
  | decimal x => decide (x < 0.0)

end Number
end Switchboard

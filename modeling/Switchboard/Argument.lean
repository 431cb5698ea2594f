import Switchboard.Calendar.Notation
import Switchboard.Number
import Switchboard.Text.Hex

/-!
Arguments that come as untyped data. Each reader here makes one kind of argument of a value, or says why
the value cannot serve. None of them is as lenient as the reading of records.
-/

namespace Switchboard.Argument

/-! ### Numbers -/

def float : Data → Except Fault Float
  | .text s => match Numeral.anyFloat? s with
    | some x => .ok x
    | none => .error (.numberUnreadable s)
  | d => match Number.ofData? d with
    | some n => n.toFloat
    | none => .error (.misfit (.notNumber d.kindName))

def wholePart (x : Float) : Except Fault Int :=
  if x.isNaN then .error .undefinedNumber
  else if x.isFinite then .ok (Binary64.truncate x)
  else .error .infiniteNumber

/-- A whole number, which may be written out. The fraction of a decimal is dropped. -/
def whole : Data → Except Fault Int
  | .text s => match Numeral.anyInt? s with
    | some n => .ok n
    | none => .error ((Numeral.excess? s).elim (.wholeUnreadable s) .integerTooLong)
  | .float x => wholePart x
  | .int n => .ok n
  | .bool b => .ok (if b then 1 else 0)
  | d => .error (.misfit (.notWhole d.kindName))

/-- A number of repetitions; there are none if it is negative. -/
def count : Data → Except Fault Nat
  | .int n => .ok n.toNat
  | .bool b => .ok b.toNat
  | d => .error (.misfit (.notCount d.kindName))

/-- A number of microseconds, a half going to the even neighbour. -/
def micros : Data → Except Fault Int
  | .int n => .ok n
  | .bool b => .ok (if b then 1 else 0)
  | .float x => do
    let _ ← wholePart x
    let n := Binary64.roundQuotient (Binary64.units x) Binary64.one
    return Numeral.withSign (Binary64.isNegative x) n
  | d => .error (.misfit (.notSpan d.kindName))

def amount (d : Data) : Except Fault Number :=
  match Number.ofData? d with
  | some n => .ok n
  | none => .error (.misfit (.notDivisible d.kindName))

def summand (d : Data) : Except Fault Float :=
  match Number.ofData? d with
  | some n => n.toFloat
  | none => .error (.misfit (.notSummand d.kindName))

/-! ### Order -/

/-- The left value is at least the right one. Texts are ordered among themselves, as numbers are. -/
def atLeast (left right : Data) : Except Fault Bool :=
  match left, right with
  | .text a, .text b => .ok (decide (b ≤ a))
  | a, b => match Number.ofData? a, Number.ofData? b with
    | some a, some b => .ok (b.atMost a)
    | _, _ => .error (.misfit (.notOrdered ">=" left.kindName right.kindName))

/-- The value is a number below zero. -/
def isNegative (d : Data) : Except Fault Bool :=
  match Number.ofData? d with
  | some n => .ok n.isNegative
  | none => .error (.misfit (.notOrdered "<" d.kindName (Data.int 0).kindName))

/-! ### Bytes and moments -/

/-- Bytes in hexadecimal digits. -/
def bytes : Data → Except Fault (List UInt8)
  | .text s => (Text.readHex s).mapError .notHexDigit
  | d => .error (.misfit (.notHexText d.kindName))

def instant : Data → Except Fault Instant
  | .text s => (Instant.ofText s).mapError (.notMoment s)
  | _ => .error (.misfit .notMoment)

/-! ### Keys, items and fields -/

def key (d : Data) : Except Fault String :=
  if d.isKey then .ok d.shown else .error (.unusableKey d.kindName)

def items (d : Data) : Except Fault (List Data) :=
  match d.items? with
  | some xs => .ok xs
  | none => .error (.noItems d.kindName)

/-- The two items of a value that has just these. -/
def couple (d : Data) : Except Fault (Data × Data) :=
  match d.items? with
  | none => .error (.notIterable d.kindName)
  | some [first, second] => .ok (first, second)
  | some [] => .error (.tooFewParts 0)
  | some [_] => .error (.tooFewParts 1)
  | some _ => .error .tooManyParts

/-- Items that are handed to `taker` as its arguments. -/
def spread (taker : String) (d : Data) : Except Fault (List Data) :=
  match d.items? with
  | some xs => .ok xs
  | none => .error (.misfit (.noArguments taker d.kindName))

/-- Turns an item of a list of pairs into a field; a field whose key is no text is never read. -/
def pair (position : Nat) (d : Data) : Except Fault (Option (String × Data)) :=
  match d.items? with
  | none => .error (.pairNotIterable position)
  | some [.text k, v] => .ok (some (k, v))
  | some [key, _] => if key.isKey then .ok none else .error (.unusableKey key.kindName)
  | some xs => .error (.pairLength position xs.length)

def pairs : (position : Nat) → List Data → Except Fault (List (String × Data))
  | _, [] => .ok []
  | position, d :: rest => do
    let field ← pair position d
    let fields ← pairs (position + 1) rest
    return field.toList ++ fields

/-- The fields of an object or of a list of pairs. -/
def fields : Data → Except Fault (List (String × Data))
  | .object fs => .ok fs
  | d => do return Entries.ofPairs (← pairs 0 (← items d))

end Switchboard.Argument

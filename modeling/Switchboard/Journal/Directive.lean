import Switchboard.Data
import Switchboard.Decimal.Places
import Switchboard.Numeral

/-!
Directives: how one value is to be written into a line. A directive names a conversion and says how
wide and how precise the result is; a value that the conversion does not take has no written form.
-/

namespace Switchboard.Journal

structure Flags where
  /-- Blanks go behind the value. -/
  left : Bool := false
  /-- Positive numbers have a sign. -/
  plus : Bool := false
  /-- Positive numbers have a blank for a sign. -/
  blank : Bool := false
  /-- The longer form: with the mark of the base, or with a point. -/
  alternate : Bool := false
  /-- Numbers are filled up with zeros behind the sign. -/
  zeros : Bool := false

/-- What a directive writes: a value, or several of them, which have a written form only as a whole. -/
inductive Argument where
  | value (d : Data)
  | row (ds : List Data)
  /-- Fields by name, each as it is cited. -/
  | fields (cited : List (String × String))

namespace Argument

def value? : Argument → Option Data
  | value d => some d
  | _ => none

/-- The argument as a message cites it, texts between quotes. -/
def quoted : Argument → String
  | value d => d.quoted
  | row ds => Text.row (ds.map Data.quoted)
  | fields cited => "\x7b" ++ ", ".intercalate (cited.map fun f => Text.quoted f.1 ++ ": " ++ f.2) ++ "\x7d"

def shown : Argument → String
  | value d => d.shown
  | a => a.quoted

end Argument

/-- A directive whose measures are known. -/
structure Directive where
  flags : Flags := {}
  width : Nat := 0
  precision : Option Nat := none
  conversion : Char

namespace Directive

/-! ### Values as numbers -/

def intOf? : Data → Option Int
  | .int n => some n
  | .bool b => some (if b then 1 else 0)
  | _ => none

def wholeOf? : Data → Option Int
  | .float x => if x.isFinite then some (Binary64.truncate x) else none
  | d => intOf? d

def floatOf? : Data → Option Float
  | .float x => some x
  | d => (intOf? d).bind Binary64.ofInt?

/-! ### Written forms before padding -/

/-- A number as it is written: its sign, the mark of its base, and the rest. -/
structure Figure where
  sign : String := ""
  mark : String := ""
  body : String

def signOf (f : Flags) (negative : Bool) : String :=
  if negative then "-" else if f.plus then "+" else if f.blank then " " else ""

def baseOf (conversion : Char) : Nat :=
  if conversion == 'o' then 8 else if conversion == 'x' || conversion == 'X' then 16 else 10

def wholeFigure (d : Directive) (n : Int) : Figure :=
  let base := baseOf d.conversion
  let ds := Nat.toDigits base n.natAbs
  let ds := if d.conversion == 'X' then ds.map Char.toUpper else ds
  let ds := List.replicate (d.precision.getD 0 - ds.length) '0' ++ ds
  { sign := signOf d.flags (n < 0)
    mark := if d.flags.alternate && base != 10 then String.ofList ['0', d.conversion] else ""
    body := String.ofList ds }

def floatFigure (d : Directive) (x : Float) : Figure :=
  { sign := signOf d.flags (Binary64.isNegative x && !x.isNaN)
    body := Decimal.inNotation d.conversion (d.precision.getD 6) d.flags.alternate x.abs }

/-! ### Padding -/

def pad (width : Nat) (fill : Char) (s : String) : String :=
  String.ofList (List.replicate (width - s.length) fill)

/-- Fills a text up with blanks. -/
def padText (d : Directive) (s : String) : String :=
  let fill := pad d.width ' ' s
  if d.flags.left then s ++ fill else fill ++ s

/-- Fills a number up with zeros behind its sign, or with blanks. -/
def padFigure (d : Directive) (f : Figure) : String :=
  let front := f.sign ++ f.mark
  if d.flags.zeros && !d.flags.left then
    front ++ pad (d.width - front.length) '0' f.body ++ f.body
  else padText d (front ++ f.body)

def cut (precision : Option Nat) (s : String) : String :=
  match precision with
  | none => s
  | some n => (s.take n).toString

/-! ### Conversions -/

/-- A single character, given by itself or by its number. -/
def char? : Data → Option String
  | .text s => if s.length = 1 then some s else none
  | d => (intOf? d).bind fun n =>
    if 0 ≤ n ∧ n.toNat.isValidChar then some (String.singleton (Char.ofNat n.toNat)) else none

def writeValue? (d : Directive) (v : Data) : Option String :=
  let c := d.conversion
  if c == 'c' then (char? v).map d.padText
  else if c == 'd' || c == 'i' || c == 'u' then (wholeOf? v).map fun n => d.padFigure (d.wholeFigure n)
  else if c == 'o' || c == 'x' || c == 'X' then (intOf? v).map fun n => d.padFigure (d.wholeFigure n)
  else if ['e', 'E', 'f', 'F', 'g', 'G'].contains c then
    (floatOf? v).map fun x => d.padFigure (d.floatFigure x)
  else none

def write? (d : Directive) (a : Argument) : Option String :=
  let c := d.conversion
  if c == 's' then some (d.padText (cut d.precision a.shown))
  else if c == 'r' then some (d.padText (cut d.precision a.quoted))
  else if c == 'a' then some (d.padText (cut d.precision (Text.plainForm a.quoted)))
  else a.value?.bind d.writeValue?

end Directive
end Switchboard.Journal

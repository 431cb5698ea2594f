import Switchboard.Decimal.Places
import Switchboard.Text.Layout.Figure

/-!
Layouts of decimals. A layout names a notation, or leaves it to the number: without a precision it is
then the shortest text that reads back, with one it has so many digits at most and one behind the point
at least.
-/

namespace Switchboard.Text.Layout

def placesLimit : Nat := 0x7FFFFFFF

/-- The kinds of layouts that decimals have. -/
def decimalKinds : List Char := ['\x00', 'e', 'E', 'f', 'F', 'g', 'G', 'n', '%']

def plainDecimal (l : Layout) (x : Float) : String :=
  match l.limit with
  | some n => Decimal.generalPointed n l.alternate x
  | none => if l.alternate then Decimal.ensurePoint (Decimal.text x) else Decimal.text x

/-- A magnitude in the notation that a layout names; a percentage is positional. -/
def decimalText (l : Layout) (x : Float) : String :=
  if l.kind == '\x00' then l.plainDecimal x
  else
    let letter := if l.kind == '%' then 'f' else if l.kind == 'n' then 'g' else l.kind
    Decimal.inNotation letter (l.limit.getD 6) l.alternate x

def isZero (text : String) : Bool := text.all fun c => !('1' ≤ c && c ≤ '9')

/-- A decimal as it is set. What is written as zero need not have its minus. -/
def decimalFigure (l : Layout) (x : Float) : Except LayoutFlaw Figure :=
  if placesLimit < l.limit.getD 6 then .error .tooPrecise
  else
    let x := if l.kind == '%' then x * 100.0 else x
    let text := l.decimalText x.abs
    let isBare := l.negativeZero && x.isFinite && isZero text
    let negative := Binary64.isNegative x && !x.isNaN && !isBare
    let cs := text.toList
    .ok { front := l.signOf negative, digits := cs.takeWhile Char.isDigit
          tail := cs.dropWhile Char.isDigit ++ if l.kind == '%' then ['%'] else [] }

/-- A decimal in a layout as it is written; without any it stands as it is. -/
def applyDecimal (written : List Char) (x : Float) : Except LayoutFlaw (List Char) :=
  if written.isEmpty then .ok (Decimal.text x).toList
  else do
    let l ← read .decimal written
    if !decimalKinds.contains l.kind then throw (.unknownKind l.kind .decimal)
    let f ← l.decimalFigure x
    if widthLimit < l.width then throw .tooWide
    return l.setFigure f

end Switchboard.Text.Layout

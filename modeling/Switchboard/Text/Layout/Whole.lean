import Switchboard.Text.Layout.Decimal

/-!
Layouts of whole numbers: in a base, as a character, or in a notation of decimals.
-/

namespace Switchboard.Text.Layout

def baseOf? (kind : Char) : Option Nat :=
  match kind with
  | 'b' => some 2
  | 'o' => some 8
  | 'x' => some 16
  | 'X' => some 16
  | 'd' => some 10
  | 'n' => some 10
  | _ => none

def inBase (l : Layout) (base : Nat) (n : Int) : Except LayoutFlaw Figure :=
  if l.limit.isSome then .error .wholePrecision
  else if l.negativeZero then .error .wholeNegativeZero
  else
    let digits := Nat.toDigits base n.natAbs
    .ok { front := l.signOf (n < 0) ++ if l.alternate && base != 10 then ['0', l.kind] else []
          digits := if l.kind == 'X' then digits.map Char.toUpper else digits }

def asCharacter (l : Layout) (n : Int) : Except LayoutFlaw Figure :=
  if l.limit.isSome then .error .wholePrecision
  else if l.negativeZero then .error .wholeNegativeZero
  else if l.sign.isSome then .error .characterSign
  else if l.alternate then .error .characterAlternate
  else if 0 ≤ n ∧ n < 0x110000 then .ok { tail := [Char.ofNat n.toNat] }
  else .error .characterRange

/-- A number in a notation of decimals, which is that of the nearest double. -/
def asDecimal (l : Layout) (n : Int) : Except LayoutFlaw Figure :=
  match Binary64.ofInt? n with
  | none => .error .tooLarge
  | some x => l.decimalFigure x

def figure (subject : Subject) (l : Layout) (n : Int) : Except LayoutFlaw Figure :=
  match baseOf? l.kind with
  | some base => l.inBase base n
  | none =>
    if l.kind == 'c' then l.asCharacter n
    else if ['e', 'E', 'f', 'F', 'g', 'G', '%'].contains l.kind then l.asDecimal n
    else .error (.unknownKind l.kind subject)

/-- A whole number in a layout as it is written; without any it stands as it is. The subject says what
it stands for. -/
def applyWhole (subject : Subject) (written : List Char) (n : Int) : Except LayoutFlaw (List Char) :=
  if written.isEmpty then .ok (toString n).toList
  else do
    let l ← read subject written
    let f ← figure subject l n
    if widthLimit < l.width then throw .tooWide
    return l.setFigure f

end Switchboard.Text.Layout

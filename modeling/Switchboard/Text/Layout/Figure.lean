import Switchboard.Text.Layout

/-!
Figures: numbers as they are set into a field. Digits may be set apart in groups, and zeros that fill the
field from the left are grouped with them.
-/

namespace Switchboard.Text.Layout

/-- A number as it is written: sign and mark of the base, then digits that may be grouped, then the
rest. -/
structure Figure where
  front : List Char := []
  digits : List Char := []
  tail : List Char := []

/-! ### Groups of digits -/

/-- Sets the digits of a number apart in groups, from the last digit on. Zeros in front bring them up
to a least width; where they would begin with a separator, one more zero comes before it. Every group
takes up a digit or some of the width, which `fuel` counts. -/
def groupBack (size : Nat) (mark : Char) :
    (fuel : Nat) → (digits : List Char) → (least : Nat) → List Char
  | 0, _, _ => []
  | fuel + 1, digits, least =>
    let n := min size (max (max digits.length least) 1)
    let group := digits.take n ++ List.replicate (n - digits.length) '0'
    if digits.length ≤ n ∧ least ≤ n then group
    else group ++ mark :: groupBack size mark fuel (digits.drop n) (least - n - 1)

/-- Digits in groups, with zeros in front up to a least width. -/
def group (size : Nat) (mark : Char) (digits : List Char) (least : Nat) : List Char :=
  (groupBack size mark (digits.length + least + 1) digits.reverse least).reverse

/-- Decimal digits stand in groups of three, others in groups of four. -/
def groupSize (kind : Char) : Nat := if ['b', 'o', 'x', 'X'].contains kind then 4 else 3

/-! ### Signs -/

def signOf (l : Layout) (negative : Bool) : List Char :=
  if negative then ['-']
  else match l.sign with
    | some '-' => []
    | some c => [c]
    | none => []

/-! ### Setting -/

def setFigure (l : Layout) (f : Figure) : List Char :=
  let fixed := f.front.length + f.tail.length
  let least := if l.fill = '0' ∧ l.alignment = .inner then l.width - fixed else 0
  let digits :=
    if f.digits.isEmpty then []
    else match l.separator with
      | some mark => group (groupSize l.kind) mark f.digits least
      | none => List.replicate (least - f.digits.length) '0' ++ f.digits
  let room := l.width - (fixed + digits.length)
  let before := l.before room
  let inside := if l.alignment = .inner then room else 0
  List.replicate before l.fill ++ f.front ++ List.replicate inside l.fill ++ digits ++ f.tail
    ++ List.replicate (room - before - inside) l.fill

end Switchboard.Text.Layout

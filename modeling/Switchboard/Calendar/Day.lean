/-!
Days of the calendar that is Gregorian throughout, counted from 1 January of year 1. Days are
compared by their number; year, month and day of the month are computed for display.
-/

namespace Switchboard

structure Day where
  /-- Days since 1 January of year 1. -/
  number : Nat
deriving DecidableEq, Repr, Inhabited

namespace Day

/-- The calendar ends with year 9999. -/
def count : Nat := 3652059

instance : LE Day := ⟨fun a b => a.number ≤ b.number⟩
instance : LT Day := ⟨fun a b => a.number < b.number⟩
instance (a b : Day) : Decidable (a ≤ b) := inferInstanceAs (Decidable (a.number ≤ b.number))
instance (a b : Day) : Decidable (a < b) := inferInstanceAs (Decidable (a.number < b.number))

def isLeap (year : Nat) : Bool := year % 4 == 0 && (year % 100 != 0 || year % 400 == 0)

def monthLengths (year : Nat) : List Nat :=
  [31, if isLeap year then 29 else 28, 31, 30, 31, 30, 31, 31, 30, 31, 30, 31]

/-- Days before 1 January of a year. -/
def beforeYear (year : Nat) : Nat :=
  let y := year - 1
  365 * y + y / 4 - y / 100 + y / 400

/-- The day with this date, if there is one. -/
def ofDate? (year month day : Nat) : Option Day :=
  let lengths := monthLengths year
  if 1 ≤ year ∧ year ≤ 9999 ∧ 1 ≤ month ∧ 1 ≤ day ∧ day ≤ (lengths[month - 1]?).getD 0 then
    some ⟨beforeYear year + (lengths.take (month - 1)).foldl (· + ·) 0 + (day - 1)⟩
  else none

/-- Month and day of the month of the day that comes `n` days into the months of these lengths. -/
def inMonths : (month : Nat) → (n : Nat) → List Nat → Nat × Nat
  | month, n, [] => (month, n + 1)
  | month, n, length :: rest => if n < length then (month, n + 1) else inMonths (month + 1) (n - length) rest

/-- Year, month and day of the month, by cycles of 400, 100, 4 and 1 years. -/
def date (d : Day) : Nat × Nat × Nat :=
  let (c400, r) := (d.number / 146097, d.number % 146097)
  let c100 := min (r / 36524) 3
  let r := r - 36524 * c100
  let (c4, r) := (r / 1461, r % 1461)
  let c1 := min (r / 365) 3
  let year := 400 * c400 + 100 * c100 + 4 * c4 + c1 + 1
  let (month, day) := inMonths 1 (r - 365 * c1) (monthLengths year)
  (year, month, day)

/-- The decimal digits of `n`, at least `width` of them. -/
def padded (width n : Nat) : String :=
  let ds := toString n
  String.ofList (List.replicate (width - ds.length) '0') ++ ds

def text (d : Day) : String :=
  let (year, month, day) := d.date
  padded 4 year ++ "-" ++ padded 2 month ++ "-" ++ padded 2 day

def midnight (d : Day) : String := d.text ++ "T00:00:00+00:00"

end Day
end Switchboard

import Switchboard.Text.Quoted

/-!
What keeps a text from standing for a moment.
-/

namespace Switchboard

inductive MomentFlaw where
  /-- The text is in none of the forms that are known. -/
  | form
  | year (n : Nat)
  | month
  | day
  | hour
  | minute
  | second
  /-- The offset, in microseconds, is a day or more. -/
  | offset (micros : Int)
deriving DecidableEq, Repr

namespace MomentFlaw

/-- A span as days, seconds and microseconds, of which only the days may be negative and those that are
zero are left out. -/
def spanText (micros : Int) : String :=
  let day : Int := 86400000000
  let rest := (micros % day).toNat
  let parts : List (String × Int) :=
    [("days", micros / day), ("seconds", (rest / 1000000 : Nat)), ("microseconds", (rest % 1000000 : Nat))]
  let shown := (parts.filter (·.2 ≠ 0)).map fun p => s!"{p.1}={p.2}"
  "datetime.timedelta(" ++ (if shown.isEmpty then "0" else ", ".intercalate shown) ++ ")"

def message (written : String) : MomentFlaw → String
  | form => s!"Invalid isoformat string: {Text.quoted written}"
  | year n => s!"year {n} is out of range"
  | month => "month must be in 1..12"
  | day => "day is out of range for month"
  | hour => "hour must be in 0..23"
  | minute => "minute must be in 0..59"
  | second => "second must be in 0..59"
  | offset micros =>
    "offset must be a timedelta strictly between -timedelta(hours=24) and timedelta(hours=24), not "
      ++ spanText micros ++ "."

end MomentFlaw
end Switchboard

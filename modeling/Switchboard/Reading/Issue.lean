import Switchboard.Numeral

/-!
What can be wrong with a piece of data, and where. An issue names the place by the keys and indices
that lead to it; a flaw has a kind, a short tag that programs look at, and a message for people.
-/

namespace Switchboard

/-- One step on the way to a value inside a piece of data. -/
inductive Place where
  | key (name : String)
  | index (position : Int)
deriving DecidableEq, Repr

def Place.text : Place → String
  | key name => name
  | index i => toString i

/-- A limit on a number. -/
inductive Bound where
  | atMost (limit : Nat)
  | atLeast (limit : Nat)
  | above (limit : Nat)
deriving DecidableEq, Repr

inductive Flaw where
  | missing
  | notInt
  | intFraction
  | intUnreadable
  | intTooLong
  | notFinite
  | notNumber
  | numberUnreadable
  | notBool
  | boolUnreadable
  | notText
  | emptyText
  | notList
  | notObject
  /-- No object to read a record of this title from. -/
  | notRecord (title : String)
  | notOneOf (names : List String)
  | outside (bound : Bound)
  /-- The degraded streak is not shorter than the unavailable streak. -/
  | streaksOutOfOrder (degraded unavailable : Nat)
  /-- The record does not change once it is read. -/
  | sealed
deriving DecidableEq, Repr

namespace Flaw

def kind : Flaw → String
  | missing => "missing"
  | notInt => "int_type"
  | intFraction => "int_from_float"
  | intUnreadable => "int_parsing"
  | intTooLong => "int_parsing_size"
  | notFinite => "finite_number"
  | notNumber => "float_type"
  | numberUnreadable => "float_parsing"
  | notBool => "bool_type"
  | boolUnreadable => "bool_parsing"
  | notText => "string_type"
  | emptyText => "string_too_short"
  | notList => "list_type"
  | notObject => "dict_type"
  | notRecord _ => "model_type"
  | notOneOf _ => "enum"
  | outside (.atMost _) => "less_than_equal"
  | outside (.atLeast _) => "greater_than_equal"
  | outside (.above _) => "greater_than"
  | streaksOutOfOrder _ _ => "value_error"
  | sealed => "frozen_instance"

/-- Names between quotes, the last one set off by `or`. -/
def alternatives : List String → String
  | [] => ""
  | [a] => s!"'{a}'"
  | [a, b] => s!"'{a}' or '{b}'"
  | a :: rest => s!"'{a}', " ++ alternatives rest

/-- That the degraded streak is not the shorter one. A streak with too many digits is not written out. -/
def streakOrder (degraded unavailable : Nat) : String :=
  if degraded < Nat.pow 10 Numeral.digitLimit then
    s!"degraded_failure_threshold ({degraded}) must be less than unavailable_failure_threshold ({unavailable})"
  else
    "Exceeds the limit (4300 digits) for integer string conversion; "
      ++ "use sys.set_int_max_str_digits() to increase the limit"

def message : Flaw → String
  | missing => "Field required"
  | notInt => "Input should be a valid integer"
  | intFraction => "Input should be a valid integer, got a number with a fractional part"
  | intUnreadable => "Input should be a valid integer, unable to parse string as an integer"
  | intTooLong => "Unable to parse input string as an integer, exceeded maximum size"
  | notFinite => "Input should be a finite number"
  | notNumber => "Input should be a valid number"
  | numberUnreadable => "Input should be a valid number, unable to parse string as a number"
  | notBool => "Input should be a valid boolean"
  | boolUnreadable => "Input should be a valid boolean, unable to interpret input"
  | notText => "Input should be a valid string"
  | emptyText => "String should have at least 1 character"
  | notList => "Input should be a valid list"
  | notObject => "Input should be a valid dictionary"
  | notRecord title => s!"Input should be a valid dictionary or instance of {title}"
  | notOneOf names => "Input should be " ++ alternatives names
  | outside (.atMost n) => s!"Input should be less than or equal to {n}"
  | outside (.atLeast n) => s!"Input should be greater than or equal to {n}"
  | outside (.above n) => s!"Input should be greater than {n}"
  | streaksOutOfOrder d u => "Value error, " ++ streakOrder d u
  | sealed => "Instance is frozen"

end Flaw

/-- A flaw and the place where it was found. -/
structure Issue where
  place : List Place
  flaw : Flaw
deriving DecidableEq, Repr

namespace Issue

def under (p : Place) (i : Issue) : Issue := { i with place := p :: i.place }

/-- The two lines that a report gives to an issue; without a place there is only the second. -/
def lines (i : Issue) : String :=
  let place := if i.place.isEmpty then "" else ".".intercalate (i.place.map Place.text) ++ "\n"
  place ++ s!"  {i.flaw.message} [type={i.flaw.kind}]"

def report (title : String) (issues : List Issue) : String :=
  let n := issues.length
  let plural := if n = 1 then "" else "s"
  s!"{n} validation error{plural} for {title}\n" ++ "\n".intercalate (issues.map lines)

end Issue
end Switchboard

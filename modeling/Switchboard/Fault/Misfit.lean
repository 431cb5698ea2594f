/-!
Arguments of the wrong kind. An argument that comes as untyped data may be of a kind that cannot serve
where it is wanted; kinds go by the names that messages give them.
-/

namespace Switchboard

inductive Misfit where
  /-- No number, and no text that could be one. -/
  | notNumber (found : String)
  /-- Nothing that a whole number could be made of. -/
  | notWhole (found : String)
  /-- No count of repetitions. -/
  | notCount (found : String)
  /-- No number of microseconds. -/
  | notSpan (found : String)
  /-- A moment was to be read from something other than a text. -/
  | notMoment
  /-- No place in a row. -/
  | notPlace
  /-- Two values of which neither comes before the other. -/
  | notOrdered (sign left right : String)
  /-- Nothing that can be added to a number. -/
  | notSummand (found : String)
  /-- Nothing that can be divided. -/
  | notDivisible (found : String)
  /-- The name of a field is no text. -/
  | notFieldName (found : String)
  /-- The name of a channel is no text. -/
  | notChannelName
  /-- A level is no whole number. -/
  | notLevel
  /-- Bytes were to be read from something other than a text. -/
  | notHexText (found : String)
  /-- An environment variable or its value is no text. -/
  | notVariable (found : String)
  /-- Something was looked up in a list by what is no number. -/
  | notIndex (found : String)
  /-- Something was looked up in a text by a name. -/
  | notPosition
  /-- Fields were to be handed over by something that has no fields. -/
  | noFields (taker found : String)
  /-- Arguments were to be handed over by something that has no items. -/
  | noArguments (taker found : String)
  /-- More arguments than are taken, the taker itself counted among them. -/
  | tooManyArguments (taker : String) (most given : Nat)
deriving DecidableEq, Repr

def Misfit.message : Misfit → String
  | notNumber found => s!"float() argument must be a string or a real number, not '{found}'"
  | notWhole found =>
    s!"int() argument must be a string, a bytes-like object or a real number, not '{found}'"
  | notCount found => s!"'{found}' object cannot be interpreted as an integer"
  | notSpan found => s!"unsupported type for timedelta microseconds component: {found}"
  | notMoment => "fromisoformat: argument must be str"
  | notPlace => "slice indices must be integers or None or have an __index__ method"
  | notOrdered sign left right => s!"'{sign}' not supported between instances of '{left}' and '{right}'"
  | notSummand found => s!"unsupported operand type(s) for +=: 'float' and '{found}'"
  | notDivisible found => s!"unsupported operand type(s) for /: '{found}' and 'float'"
  | notFieldName found => s!"attribute name must be string, not '{found}'"
  | notChannelName => "A logger name must be a string"
  | notLevel => "level must be an integer"
  | notHexText found => s!"fromhex() argument must be str, not {found}"
  | notVariable found => s!"str expected, not {found}"
  | notIndex found => s!"list indices must be integers or slices, not {found}"
  | notPosition => "string indices must be integers, not 'str'"
  | noFields taker found => s!"{taker}() argument after ** must be a mapping, not {found}"
  | noArguments taker found => s!"{taker}() argument after * must be an iterable, not {found}"
  | tooManyArguments taker most given =>
    s!"{taker}() takes from 1 to {most} positional arguments but {given} were given"

end Switchboard

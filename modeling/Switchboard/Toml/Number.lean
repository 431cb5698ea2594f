import Switchboard.Calendar.Instant
import Switchboard.Toml.Text

/-!
Numbers and calendar values of a TOML document. Each form is tried on the front of the rest of the
document and takes as much as belongs to it.
-/

namespace Switchboard.Toml

/-! ### Numbers -/

/-- Digits of a class, single underscores between them dropped. `after` tells that a digit has been
read, without which there is nothing for an underscore to stand between. -/
def takeDigits (isDigit : Char → Bool) (after : Bool) : List Char → List Char × List Char
  | [] => ([], [])
  | c :: rest =>
    if isDigit c then
      let (ds, rest) := takeDigits isDigit true rest
      (c :: ds, rest)
    else if c == '_' && after then
      match rest with
      | d :: rest' =>
        if isDigit d then
          let (ds, rest'') := takeDigits isDigit true rest'
          (d :: ds, rest'')
        else ([], c :: rest)
      | [] => ([], [c])
    else ([], c :: rest)

/-- The base that a letter behind a zero stands for, and its digits. -/
def baseOf? : Char → Option (Nat × (Char → Bool))
  | 'x' => some (16, fun c => (Text.hexValue? c).isSome)
  | 'o' => some (8, fun c => '0' ≤ c && c ≤ '7')
  | 'b' => some (2, fun c => c == '0' || c == '1')
  | _ => none

/-- A whole number to the base 16, 8 or 2. -/
def basedNumber? : List Char → Option (Nat × List Char)
  | '0' :: letter :: rest => do
    let (base, isDigit) ← baseOf? letter
    let (ds, rest) := takeDigits isDigit false rest
    if ds.isEmpty then none
    let n ← valueIn? base ds
    return (n, rest)
  | _ => none

/-- A part of a number that begins with a mark, perhaps a sign, and has to have digits. -/
def takePart? (signed : Bool) (rest : List Char) : Option (Bool × List Char × List Char) :=
  let (negative, rest) := if signed then Numeral.splitSign rest else (false, rest)
  let (ds, rest) := takeDigits Char.isDigit false rest
  if ds.isEmpty then none else some (negative, ds, rest)

/-- Digits before the point: a zero, or digits that do not begin with one. -/
def wholeDigits? : List Char → Option (List Char × List Char)
  | '0' :: rest => some (['0'], rest)
  | cs =>
    let (ds, rest) := takeDigits Char.isDigit false cs
    if ds.isEmpty then none else some (ds, rest)

/-- A decimal number; with a point or an exponent it is a double. -/
def decimalNumber? (cs : List Char) : Option (Except Error (Data × List Char)) := do
  let (negative, body) := Numeral.splitSign cs
  let (ds, rest) ← wholeDigits? body
  let (fraction, rest) := match rest with
    | '.' :: r => match takePart? false r with
      | some (_, fs, r) => (some fs, r)
      | none => (none, rest)
    | _ => (none, rest)
  let (exponent, rest) := match rest with
    | c :: r => match if c == 'e' || c == 'E' then takePart? true r else none with
      | some (minus, es, r) => (some (Numeral.withSign minus (Numeral.valueOf es)), r)
      | none => (none, rest)
    | [] => (none, rest)
  if fraction.isNone && exponent.isNone then
    if Numeral.digitLimit < ds.length then return stop (.tooManyDigits ds.length) rest
    else return .ok (.int (Numeral.withSign negative (Numeral.valueOf ds)), rest)
  else
    let fs := fraction.getD []
    return .ok (.float (Binary64.ofDecimal negative (Numeral.valueOf (ds ++ fs))
      (exponent.getD 0 - fs.length)), rest)

def namedNumber? (cs : List Char) : Option (Data × List Char) :=
  let (negative, body) := Numeral.splitSign cs
  if ['i', 'n', 'f'].isPrefixOf body then some (.float (Binary64.infinity negative), body.drop 3)
  else if ['n', 'a', 'n'].isPrefixOf body then some (.float Binary64.nan, body.drop 3)
  else none

/-! ### Calendar values -/

def twoDigits? (low high : Nat) (cs : List Char) : Option (Nat × List Char) := do
  let (n, rest) ← Instant.takeNumber? 2 cs
  if low ≤ n ∧ n ≤ high then some (n, rest) else none

def expect? (c : Char) : List Char → Option (List Char)
  | d :: rest => if c == d then some rest else none
  | [] => none

/-- The fraction of a second behind a point that digits follow, in microseconds. -/
def takeFraction (cs : List Char) : Nat × List Char :=
  match cs with
  | '.' :: rest =>
    let (ds, behind) := Numeral.splitDigits rest
    if ds.isEmpty then (0, cs) else (Instant.fractionMicros ds, behind)
  | _ => (0, cs)

/-- Hours, minutes and seconds, perhaps a fraction, in microseconds. -/
def clock? (cs : List Char) : Option (Nat × List Char) := do
  let (hour, rest) ← twoDigits? 0 23 cs
  let (minute, rest) ← twoDigits? 0 59 (← expect? ':' rest)
  let (second, rest) ← twoDigits? 0 59 (← expect? ':' rest)
  let (fraction, rest) := takeFraction rest
  return (((hour * 60 + minute) * 60 + second) * 1000000 + fraction, rest)

def offset? : List Char → Option (Int × List Char)
  | [] => none
  | c :: rest =>
    if c == 'Z' || c == 'z' then some (0, rest)
    else if c == '+' || c == '-' then do
      let (hour, rest) ← twoDigits? 0 23 rest
      let (minute, rest) ← twoDigits? 0 59 (← expect? ':' rest)
      let micros : Int := (hour * 60 + minute) * 60000000
      return (if c == '-' then -micros else micros, rest)
    else none

/-- The form of a date, whether or not there is such a day. -/
def date? (cs : List Char) : Option ((Nat × Nat × Nat) × List Char) := do
  let (year, rest) ← Instant.takeNumber? 4 cs
  let (month, rest) ← twoDigits? 1 12 (← expect? '-' rest)
  let (day, rest) ← twoDigits? 1 31 (← expect? '-' rest)
  return ((year, month, day), rest)

/-- A time behind a date, set off by a letter or a blank. -/
def timeOfDay? : List Char → Option (Nat × Option Int × List Char)
  | [] => none
  | c :: rest =>
    if c == 'T' || c == 't' || c == ' ' then do
      let (micros, rest) ← clock? rest
      match offset? rest with
      | some (offset, rest) => return (micros, some offset, rest)
      | none => return (micros, none, rest)
    else none

/-- A date, alone or with a time, at the front of the document. -/
def calendarValue? (cs : List Char) : Option (Except Error (Data × List Char)) := do
  let ((year, month, day), rest) ← date? cs
  match Day.ofDate? year month day with
  | none => return stop .invalidDate cs
  | some d => match timeOfDay? rest with
    | none => return .ok (.temporal .date d.text, rest)
    | some (micros, offset, rest) =>
      let t : Instant := ⟨d.number * Span.microsPerDay + micros, offset, none⟩
      return .ok (.temporal .moment t.text, rest)

def timeValue? (cs : List Char) : Option (Data × List Char) :=
  (clock? cs).map fun (micros, rest) => (.temporal .time (Instant.clockText micros false), rest)

end Switchboard.Toml

import Switchboard.Calendar.Instant
import Switchboard.Calendar.MomentFlaw

/-!
Moments as the international standard writes them: a date, and behind any one character a time with
an optional offset. Dates count months or weeks, with or without hyphens between their parts; times
have colons between their parts or none. A text is looked at byte by byte.
-/

namespace Switchboard.Instant

open Switchboard.Span (microsPerDay microsPerSecond)

/-- The bytes of a text, as characters of the same numbers. -/
def bytes (s : String) : List Char := s.toUTF8.toList.map fun b => Char.ofNat b.toNat

/-! ### Dates -/

/-- How many bytes the date at the front takes. The first hyphen or the mark of weeks tells the form of
the date. Where a date by weeks may or may not end with a day, the digits that follow decide, since
those of a time come in pairs. -/
def dateLength? (cs : List Char) : Option Nat :=
  let n := cs.length
  if n < 7 then none
  else if n = 7 then some 7
  else if cs[4]? = some '-' then
    if cs[5]? = some 'W' then
      if cs[8]? = some '-' then
        if n = 9 then none else if cs[10]?.any Char.isDigit then some 8 else some 10
      else some 8
    else some 10
  else if cs[4]? = some 'W' then
    let stop := 7 + ((cs.drop 7).takeWhile Char.isDigit).length
    if stop < 9 then some stop else if stop % 2 = 0 then some 7 else some 8
  else some 8

/-- A date as it is written: by months, where its parts may lead nowhere, or by weeks. -/
inductive DateParts where
  | byMonth (year month day : Nat)
  /-- The number of the day, which may come after the calendar. -/
  | byWeek (year number : Nat)

/-- Days before the Monday of the first week of a year, which holds its first Thursday. -/
def beforeFirstWeek (year : Nat) : Nat :=
  let start := Day.beforeYear year
  let weekday := start % 7
  if weekday ≤ 3 then start - weekday else start - weekday + 7

/-- A year has a week more if it begins or ends on a Thursday. The year before the first counts as one
that does not. -/
def weeksIn (year : Nat) : Nat :=
  let weekday := Day.beforeYear year % 7
  if year ≠ 0 ∧ (weekday = 3 ∨ (weekday = 2 ∧ Day.isLeap year)) then 53 else 52

/-- The day of a week of a year, if there is such a week. The days of the year before the first lie in
no month of the calendar. -/
def weekDate? (year week day : Nat) : Option DateParts :=
  if week = 0 ∨ weeksIn year < week ∨ day = 0 ∨ 7 < day then none
  else if year = 0 then some (.byMonth 1 0 1)
  else some (.byWeek year (beforeFirstWeek year + (week - 1) * 7 + (day - 1)))

/-- A hyphen at the front, if there is to be one. -/
def dropHyphen? (isWanted : Bool) : List Char → Option (List Char)
  | '-' :: rest => some (if isWanted then rest else '-' :: rest)
  | cs => if isWanted then none else some cs

/-- The parts of a date that takes so many bytes. A week without a day begins it. -/
def dateParts? (length : Nat) (cs : List Char) : Option DateParts := do
  let (year, rest) ← takeNumber? 4 cs
  let isSpaced := rest.head? == some '-'
  match ← dropHyphen? isSpaced rest with
  | 'W' :: rest =>
    let (week, rest) ← takeNumber? 2 rest
    if cs.length - rest.length < length then
      let (day, _) ← takeNumber? 1 (← dropHyphen? isSpaced rest)
      weekDate? year week day
    else weekDate? year week 1
  | rest =>
    let (month, rest) ← takeNumber? 2 rest
    let (day, _) ← takeNumber? 2 (← dropHyphen? isSpaced rest)
    return .byMonth year month day

def DateParts.day : DateParts → Except MomentFlaw Day
  | byMonth year month day =>
    if year = 0 then .error (.year year)
    else if month = 0 ∨ 12 < month then .error .month
    else match Day.ofDate? year month day with
      | some d => .ok d
      | none => .error .day
  | byWeek year n => if n < Day.count then .ok ⟨n⟩ else .error (.year (year + 1))

/-! ### Times -/

/-- What a clock shows as it is written, and whether something is left behind it. -/
structure ClockParts where
  parts : List Nat
  micros : Nat := 0
  isOpen : Bool

namespace ClockParts

def hour (c : ClockParts) : Nat := (c.parts[0]?).getD 0

def minute (c : ClockParts) : Nat := (c.parts[1]?).getD 0

def second (c : ClockParts) : Nat := (c.parts[2]?).getD 0

def total (c : ClockParts) : Nat :=
  ((c.hour * 60 + c.minute) * 60 + c.second) * microsPerSecond + c.micros

end ClockParts

/-- The fraction of a second: six digits, or all there are if there are fewer. Digits behind the sixth
are dropped. -/
def fraction? (hasMore : Bool) (cs : List Char) : Option (Nat × Bool) :=
  let ds := cs.take 6
  if ds.all Char.isDigit then
    some (fractionMicros ds, hasMore || !((cs.drop 6).all Char.isDigit))
  else none

def isMark (c : Char) : Bool := c == '.' || c == ','

/-- A last part with a fraction behind it. -/
def fractionBehind? (hasMore : Bool) (n : Nat) (cs : List Char) : Option ClockParts :=
  (fraction? hasMore cs).map fun (micros, isOpen) => { parts := [n], micros, isOpen }

/-- The parts of a clock from one with so many behind it; whether colons stand between them is known
from the second part on. A fraction may end any of them, and behind the last one it needs no mark. What
stands alone behind a part counts as left over. -/
def partsFrom? (hasMore : Bool) : (left : Nat) → (spaced : Option Bool) → List Char → Option ClockParts
  | left, spaced, cs => do
    let (n, rest) ← takeNumber? 2 cs
    match rest with
    | [] => return { parts := [n], isOpen := hasMore }
    | [_] => return { parts := [n], isOpen := true }
    | c :: behind =>
      let isSpaced := spaced.getD (c == ':')
      let next ← if (isSpaced && c == ':') || isMark c then some behind
        else if isSpaced then none
        else some rest
      match left with
      | left + 1 =>
        if isMark c then fractionBehind? hasMore n next
        else
          let tail ← partsFrom? hasMore left (some isSpaced) next
          return { tail with parts := n :: tail.parts }
      | 0 => fractionBehind? hasMore n next

def clockParts? (hasMore : Bool) (cs : List Char) : Option ClockParts := partsFrom? hasMore 2 none cs

def beginsOffset (c : Char) : Bool := c == '+' || c == '-' || c == 'Z'

/-- An offset in microseconds. One of less than a second is none. -/
def offsetOf (negative : Bool) (c : ClockParts) : Int :=
  if c.total < microsPerSecond then 0 else Numeral.withSign negative c.total

def offset? : List Char → Option (Option Int)
  | [] => some none
  | ['Z'] => some (some 0)
  | sign :: rest =>
    if sign == 'Z' then none
    else (clockParts? false rest).bind fun c =>
      if c.isOpen then none else some (some (offsetOf (sign == '-') c))

/-- Time and offset. Before an offset the time may leave something over. -/
def time? (cs : List Char) : Option (ClockParts × Option Int) := do
  let front := cs.takeWhile (!beginsOffset ·)
  let rest := cs.drop front.length
  let clock ← clockParts? (!rest.isEmpty) front
  let offset ← offset? rest
  if rest.isEmpty && clock.isOpen then none
  return (clock, offset)

def timeOfDay (c : ClockParts) : Except MomentFlaw Nat :=
  if 24 ≤ c.hour then .error .hour
  else if 60 ≤ c.minute then .error .minute
  else if 60 ≤ c.second then .error .second
  else .ok c.total

/-! ### Moments -/

/-- How many bytes a character takes, by its first. -/
def byteCount (first : Char) : Nat :=
  if first.toNat < 0x80 then 1
  else if first.toNat < 0xE0 then 2
  else if first.toNat < 0xF0 then 3
  else 4

def ofText (s : String) : Except MomentFlaw Instant := do
  let cs := bytes s
  let some length := dateLength? cs | throw .form
  let some date := dateParts? length cs | throw .form
  match cs.drop length with
  | first :: rest =>
    let some (clock, offset) := time? (rest.drop (byteCount first - 1)) | throw .form
    if let some micros := offset then
      if microsPerDay ≤ micros.natAbs then throw (.offset micros)
    let day ← date.day
    return ⟨day.number * microsPerDay + (← timeOfDay clock), offset, none⟩
  | [] =>
    let day ← date.day
    return ⟨day.number * microsPerDay, none, none⟩

end Switchboard.Instant

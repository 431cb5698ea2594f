import Switchboard.Calendar.Day
import Switchboard.Calendar.Span

/-!
Clock readings. An instant is what a clock shows, in microseconds, together with the offset of that
clock from universal time if it is known. Readings of clocks with known offsets compare by universal
time, readings of clocks without by what they show; the two kinds do not mix. A clock may change its
offset, as the clocks of a place do twice a year; two readings of it compare by what it shows.
-/

namespace Switchboard

structure Instant where
  /-- Microseconds since the beginning of the calendar, as the clock shows them. -/
  reading : Int
  /-- Microseconds by which the clock is ahead of universal time. -/
  offset : Option Int
  /-- The zone whose clocks they are, if the offset is not the same at all times. -/
  zone : Option String
deriving DecidableEq, Repr, Inhabited

namespace Instant

open Switchboard.Span (microsPerDay)

/-- The end of the calendar. -/
def horizon : Int := Day.count * microsPerDay

def inCalendar (micros : Int) : Bool := 0 ≤ micros && micros < horizon

/-- The universal time; a clock of unknown offset is taken to show it. -/
def universal (t : Instant) : Int := t.reading - t.offset.getD 0

/-- The day of universal time on which the instant falls. -/
def day (t : Instant) : Except Fault Day :=
  if inCalendar t.universal then .ok ⟨(t.universal / microsPerDay).toNat⟩ else .error .dateOutOfRange

/-- Both are readings of clocks of one zone. -/
def sharesZone (t earlier : Instant) : Bool := t.zone.isSome && t.zone == earlier.zone

/-- The microseconds that have passed. Between readings of one zone a change of its offset goes unnoticed. -/
def since (t earlier : Instant) : Except Fault Int :=
  if t.sharesZone earlier then .ok (t.reading - earlier.reading)
  else if t.offset.isSome = earlier.offset.isSome then .ok (t.universal - earlier.universal)
  else .error .mixedMoments

/-- The reading so many microseconds later, of a clock that keeps its offset until then. -/
def later (t : Instant) (micros : Int) : Except Fault Instant :=
  match Span.ofMicros micros with
  | .error fault => .error fault
  | .ok micros =>
    if inCalendar (t.reading + micros) then .ok { t with reading := t.reading + micros }
    else .error .dateOutOfRange

/-! ### Written form -/

/-- Hours, minutes and, unless the caller leaves zeros out, seconds and microseconds. -/
def clockText (micros : Nat) (dropSeconds : Bool) : String :=
  let (seconds, fraction) := (micros / 1000000, micros % 1000000)
  let head := Day.padded 2 (seconds / 3600) ++ ":" ++ Day.padded 2 (seconds / 60 % 60)
  let tail := if fraction = 0 then "" else "." ++ Day.padded 6 fraction
  if dropSeconds && seconds % 60 == 0 && fraction == 0 then head
  else head ++ ":" ++ Day.padded 2 (seconds % 60) ++ tail

def offsetText (offset : Int) : String :=
  (if offset < 0 then "-" else "+") ++ clockText offset.natAbs true

/-- Date, the letter T, time and offset. -/
def text (t : Instant) : String :=
  let d : Day := ⟨(t.reading / microsPerDay).toNat⟩
  d.text ++ "T" ++ clockText (t.reading % microsPerDay).toNat false
    ++ (t.offset.map offsetText).getD ""

/-! ### Parts of written forms -/

def takeNumber? (n : Nat) (cs : List Char) : Option (Nat × List Char) :=
  let ds := cs.take n
  if ds.length = n ∧ ds.all Char.isDigit then some (Numeral.valueOf ds, cs.drop n) else none

/-- Microseconds from the digits behind a decimal point; digits past the sixth are dropped. -/
def fractionMicros (digits : List Char) : Nat :=
  let ds := digits.take 6
  Numeral.valueOf ds * Nat.pow 10 (6 - ds.length)

end Instant
end Switchboard

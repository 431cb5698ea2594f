import Switchboard.Binary64
import Switchboard.Text.Blank
import Switchboard.Text.Digit

/-!
Numbers written as text. One grammar over plain digits serves two readers: a setting in a field
is read from plain text, a setting in the environment may use the digits and blanks of any script.
-/

namespace Switchboard.Numeral

open Text

/-- Drops single underscores between digits; any other underscore spoils the number. -/
def dropUnderscores? : (afterDigit : Bool) → List Char → Option (List Char)
  | _, [] => some []
  | afterDigit, c :: rest =>
    if c == '_' then
      if afterDigit && (rest.head?.any Char.isDigit) then dropUnderscores? false rest else none
    else (c :: ·) <$> dropUnderscores? c.isDigit rest

/-- Splits off a sign; true stands for minus. -/
def splitSign : List Char → Bool × List Char
  | '-' :: rest => (true, rest)
  | '+' :: rest => (false, rest)
  | cs => (false, cs)

def valueOf (digits : List Char) : Nat := digits.foldl (fun n d => 10 * n + (d.toNat - '0'.toNat)) 0

def withSign (negative : Bool) (n : Nat) : Int := if negative then -(n : Int) else n

/-- A sign and at least one digit, nothing else. -/
def whole? (cs : List Char) : Option (Bool × List Char) :=
  let (negative, digits) := splitSign cs
  if !digits.isEmpty && digits.all Char.isDigit then some (negative, digits) else none

def splitDigits (cs : List Char) : List Char × List Char :=
  (cs.takeWhile Char.isDigit, cs.dropWhile Char.isDigit)

/-- The exponent part up to the end of the number: nothing, or a letter e and a whole number. -/
def exponent? : List Char → Option Int
  | [] => some 0
  | c :: rest =>
    if c == 'e' || c == 'E' then (whole? rest).map fun (negative, ds) => withSign negative (valueOf ds)
    else none

/-- Digits with at most one point among them and an optional exponent. -/
def decimal? (negative : Bool) (cs : List Char) : Option Float :=
  let (before, rest) := splitDigits cs
  let (behind, rest) := match rest with
    | '.' :: r => splitDigits r
    | _ => ([], rest)
  if before.isEmpty && behind.isEmpty then none
  else (exponent? rest).map fun e =>
    Binary64.ofDecimal negative (valueOf (before ++ behind)) (e - behind.length)

/-- A signed decimal, or the name of an infinity or of the undefined number in any case. -/
def float? (cs : List Char) : Option Float :=
  let (negative, body) := splitSign cs
  let name := String.ofList (body.map Char.toLower)
  if name == "inf" || name == "infinity" then some (Binary64.infinity negative)
  else if name == "nan" then some Binary64.nan
  else decimal? negative body

def digitLimit : Nat := 4300

/-! ### Numbers in fields -/

/-- Why a text is no whole number. -/
inductive Refusal where
  | malformed
  | tooLong
deriving DecidableEq, Repr

/-- A whole number in its plain form: an optional minus and digits, zero alone beginning with a zero.
The digits are counted before anything else, so that what follows too many of them is not looked at. -/
def plainInt (cs : List Char) : Except Refusal Int :=
  let (negative, body) := match cs with
    | '-' :: rest => (true, rest)
    | _ => (false, cs)
  let (digits, rest) := splitDigits body
  if digits.isEmpty then .error .malformed
  else if digits.head? == some '0' then
    if digits.length = 1 ∧ rest.isEmpty then .ok 0 else .error .malformed
  else if digitLimit < digits.length then .error .tooLong
  else if rest.isEmpty then .ok (withSign negative (valueOf digits))
  else .error .malformed

/-- What stands behind leading zeros, between which underscores do not count; `last` is the one just
before. A sign may stand there as well as a digit. A zero is kept before a point and at the end. -/
def behindZeros? (last : Char) : List Char → Option (List Char)
  | [] => some [last]
  | c :: rest =>
    if c == '0' || c == '_' then behindZeros? c rest
    else if c.isDigit || c == '-' then some (c :: rest)
    else if c == '.' then some (last :: c :: rest)
    else none

def dropLeadingZeros? : List Char → Option (List Char)
  | [] => none
  | c :: rest =>
    if c == '0' then behindZeros? '0' rest
    else if c.isDigit || c == '-' then some (c :: rest)
    else none

/-- Drops a point with nothing but zeros behind it, at least one. -/
def dropDecimalZeros (cs : List Char) : List Char :=
  match cs.dropWhile (· != '.') with
  | _ :: d :: zeros => if (d :: zeros).all (· == '0') then cs.takeWhile (· != '.') else cs
  | _ => cs

/-- Underscores stand one next to the other. -/
def hasDoubleUnderscore : List Char → Bool
  | '_' :: '_' :: _ => true
  | _ :: rest => hasDoubleUnderscore rest
  | [] => false

/-- Drops the underscores of a text, which are single and not at its ends. -/
def withoutUnderscores? (cs : List Char) : Option (List Char) :=
  if !cs.contains '_' || cs.head? == some '_' || cs.getLast? == some '_' || hasDoubleUnderscore cs then none
  else some (cs.filter (· != '_'))

/-- Brings a whole number to its plain form as far as that can be done. -/
def tidyInt? (cs : List Char) : Option (List Char) := do
  let cs := trim isBlank cs
  let cs ← match cs with
    | '+' :: '-' :: _ => none
    | '+' :: rest => some rest
    | _ => some cs
  let (negative, cs) := match cs with
    | '-' :: rest => (true, rest)
    | _ => (false, cs)
  let cs := dropDecimalZeros (← dropLeadingZeros? cs)
  let cs := (withoutUnderscores? cs).getD cs
  return if negative then '-' :: cs else cs

/-- A whole number, in its plain form or in one that can be brought to it. Only a text that needs no
tidying is refused for its length. -/
def fieldInt (s : String) : Except Refusal Int :=
  match plainInt s.toList with
  | .error .malformed => ((tidyInt? s.toList).bind fun cs => (plainInt cs).toOption).elim
      (.error .malformed) .ok
  | answer => answer

/-- A number between blanks, or one with underscores and without blanks. -/
def fieldFloat? (s : String) : Option Float :=
  (float? (trim isBlank s.toList)).or ((withoutUnderscores? s.toList).bind float?)

/-! ### Numbers in the environment -/

/-- Writes digits and blanks of other scripts as plain ones; what is neither spoils the number. -/
def plain (c : Char) : Char :=
  if c.toNat < 0x7F then c
  else if isBlank c then ' '
  else match digitValue? c with
    | some d => Char.ofNat ('0'.toNat + d)
    | none => '?'

def plainForm (s : String) : Option (List Char) :=
  dropUnderscores? false (trim isPlainBlank (s.toList.map plain))

def anyInt? (s : String) : Option Int :=
  ((plainForm s).bind whole?).bind fun (negative, digits) =>
    if digitLimit < digits.length then none else some (withSign negative (valueOf digits))

/-- How many digits a number begins with behind its sign, single underscores between them. Underscores
in other places spoil the count. -/
def leadingDigits? (cs : List Char) : Option Nat :=
  let run := (splitSign cs).2.takeWhile fun c => c.isDigit || c == '_'
  if run.head? == some '_' || run.getLast? == some '_' || hasDoubleUnderscore run then none
  else some (run.countP Char.isDigit)

/-- The number of digits of a whole number that has too many of them, whatever follows. -/
def excess? (s : String) : Option Nat :=
  (leadingDigits? (trim isPlainBlank (s.toList.map plain))).filter (digitLimit < ·)

def anyFloat? (s : String) : Option Float := (plainForm s).bind float?

end Switchboard.Numeral

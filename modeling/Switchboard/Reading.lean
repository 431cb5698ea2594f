import Switchboard.Data
import Switchboard.Numeral
import Switchboard.Reading.Issue
import Switchboard.Text.Lowercase

/-!
Reading untyped data into typed records. Readers are lenient about form (a number may come as text,
a flag as a word) and strict about limits, and a record reports the issues of all its fields in the
order of the fields.
-/

namespace Switchboard

/-- A value, or everything that is wrong with the data it was to be read from. -/
inductive Reading (α : Type) where
  | good (value : α)
  | bad (issues : List Issue)

namespace Reading

variable {α β : Type}

def map (f : α → β) : Reading α → Reading β
  | good a => good (f a)
  | bad issues => bad issues

/-- Applies a function that was read to an argument that was read; issues of both are kept. -/
def seq : Reading (α → β) → Reading α → Reading β
  | good f, good a => good (f a)
  | good _, bad issues => bad issues
  | bad issues, good _ => bad issues
  | bad left, bad right => bad (left ++ right)

instance : Applicative Reading where
  pure := good
  map := map
  seq f x := seq f (x ())

/-- Goes on with a second check only if the first reading is good. -/
def andThen (r : Reading α) (f : α → Reading β) : Reading β :=
  match r with
  | good a => f a
  | bad issues => bad issues

def under (p : Place) : Reading α → Reading α
  | good a => good a
  | bad issues => bad (issues.map (Issue.under p))

def toOption : Reading α → Option α
  | good a => some a
  | bad _ => none

def flaw (f : Flaw) : Reading α := bad [⟨[], f⟩]

/-- Reads the items of a list, or fields of an object, one after the other. -/
def each (read : α → Reading β) : List α → Reading (List β)
  | [] => good []
  | x :: xs => seq (map List.cons (read x)) (each read xs)

end Reading

namespace Bound

def admitsInt (n : Int) : Bound → Bool
  | .atMost l => n ≤ l
  | .atLeast l => (l : Int) ≤ n
  | .above l => (l : Int) < n

/-- A comparison with the undefined number is never true, so that number is within no bound. -/
def admitsFloat (x : Float) : Bound → Bool
  | .atMost l => x ≤ l.toFloat
  | .atLeast l => l.toFloat ≤ x
  | .above l => l.toFloat < x

end Bound

/-- A way to read data. -/
abbrev Reader (α : Type) := Data → Reading α

namespace Reader

open Reading

variable {α β : Type}

def map (f : α → β) (r : Reader α) : Reader β := fun d => Reading.map f (r d)

/-! ### Plain values -/

/-- Doubles that stand for a whole number must keep clear of the ends of 64 bits. -/
def wordLimit : Int := 0x8000000000000000

def intOfFloat (x : Float) : Reading Int :=
  if !x.isFinite then flaw .notFinite
  else match Binary64.toInt? x with
    | none => flaw .intFraction
    | some n => if -wordLimit < n ∧ n < wordLimit then good n else flaw .intTooLong

def int : Reader Int
  | .int n => good n
  | .bool b => good (if b then 1 else 0)
  | .float x => intOfFloat x
  | .text s => match Numeral.fieldInt s with
    | .ok n => good n
    | .error .malformed => flaw .intUnreadable
    | .error .tooLong => flaw .intTooLong
  | _ => flaw .notInt

/-- Whole numbers beyond the doubles are no numbers. -/
def number : Reader Float
  | .float x => good x
  | .int n => match Binary64.ofInt? n with
    | some x => good x
    | none => flaw .notNumber
  | .bool b => good (if b then 1.0 else 0.0)
  | .text s => match Numeral.fieldFloat? s with
    | some x => good x
    | none => flaw .numberUnreadable
  | _ => flaw .notNumber

def trueWords : List String := ["1", "t", "true", "on", "y", "yes"]

def falseWords : List String := ["0", "f", "false", "off", "n", "no"]

def boolOfText (s : String) : Reading Bool :=
  let word := Text.lowercase s
  if trueWords.contains word then good true
  else if falseWords.contains word then good false
  else flaw .boolUnreadable

/-- Zero and one stand for flags. -/
def boolOfInt (n : Int) : Reading Bool :=
  if n = 0 then good false else if n = 1 then good true else flaw .boolUnreadable

/-- A number is looked at only if it is whole and has room in 64 bits. -/
def bool : Reader Bool
  | .bool b => good b
  | .int n => if -wordLimit ≤ n ∧ n < wordLimit then boolOfInt n else flaw .notBool
  | .float x => match intOfFloat x with
    | good n => boolOfInt n
    | bad _ => flaw .notBool
  | .text s => boolOfText s
  | _ => flaw .notBool

def text : Reader String
  | .text s => good s
  | _ => flaw .notText

def someText : Reader String := fun d =>
  (text d).andThen fun s => if s.isEmpty then flaw .emptyText else good s

/-- Accepts nothing beside what `r` reads. -/
def optional (r : Reader α) : Reader (Option α)
  | .null => good none
  | d => Reading.map some (r d)

def oneOf (names : List String) (ofName? : String → Option α) : Reader α
  | .text s => match ofName? s with
    | some a => good a
    | none => flaw (.notOneOf names)
  | _ => flaw (.notOneOf names)

/-! ### Limits -/

/-- Only the first bound that fails is reported. -/
def bounded (admits : α → Bound → Bool) (bounds : List Bound) (r : Reader α) : Reader α := fun d =>
  (r d).andThen fun a => match bounds.find? fun b => !admits a b with
    | some b => flaw (.outside b)
    | none => good a

/-- A whole number within bounds, the last of which is not negative. -/
def nat (bounds : List Bound) : Reader Nat := map Int.toNat (bounded Bound.admitsInt bounds int)

def float (bounds : List Bound) : Reader Float := bounded Bound.admitsFloat bounds number

def share : Reader Float := float [.atMost 1, .atLeast 0]

/-! ### Lists, objects and records -/

def list (r : Reader α) : Reader (List α)
  | .list xs => each (fun p => under (.index p.2) (r p.1)) xs.zipIdx
  | _ => flaw .notList

/-- An object with values of one type under arbitrary keys. -/
def entries (r : Reader α) : Reader (Entries String α)
  | .object fs => each (fun p => under (.key p.1) (Reading.map (p.1, ·) (r p.2))) fs
  | _ => flaw .notObject

def object : Reader (List (String × Data))
  | .object fs => good fs
  | _ => flaw .notObject

/-- The field `name` of an object, which has to be there. -/
def required (name : String) (r : Reader α) (fs : List (String × Data)) : Reading α :=
  match Entries.get? fs name with
  | some d => under (.key name) (r d)
  | none => bad [⟨[.key name], .missing⟩]

def field (name : String) (r : Reader α) (default : α) (fs : List (String × Data)) : Reading α :=
  match Entries.get? fs name with
  | some d => under (.key name) (r d)
  | none => good default

/-- A record read from the fields of an object; fields that it does not know are passed over. -/
def record (title : String) (read : List (String × Data) → Reading α) : Reader α
  | .object fs => read fs
  | _ => flaw (.notRecord title)

end Reader
end Switchboard

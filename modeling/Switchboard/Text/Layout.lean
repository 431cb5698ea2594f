import Switchboard.Text.Digit

/-!
Layouts: a short notation for the way a text or a number is set into a field, with a fill character,
an alignment, a width and a limit on its length. Texts refuse the marks that only numbers know.
-/

namespace Switchboard.Text

inductive Alignment where
  | left
  | right
  | center
  /-- Between sign and digits, which texts lack. -/
  | inner
deriving DecidableEq, Repr

/-- What a layout is written for: its name, the kind of layout that it has unless another is named,
and where it stands by itself. -/
structure Subject where
  name : String
  kind : Char
  alignment : Alignment
deriving DecidableEq, Repr

namespace Subject

/-- Texts stand at the left. -/
def text : Subject := ⟨"str", 's', .left⟩

/-- Whole numbers stand at the right. -/
def whole : Subject := ⟨"int", 'd', .right⟩

/-- Decimals stand at the right and have a layout of their own if none is named. -/
def decimal : Subject := ⟨"float", '\x00', .right⟩

/-- Flags stand like the whole numbers that they count as. -/
def flag : Subject := ⟨"bool", 'd', .right⟩

end Subject

/-- What is wrong with a layout. -/
inductive LayoutFlaw where
  | tooManyDigits
  | noPrecision
  | unreadable (written : String) (subject : Subject)
  | separator (mark kind : Char)
  | bothSeparators
  | unknownKind (kind : Char) (subject : Subject)
  | blankSign
  | sign
  | negativeZero
  | alternate
  | innerAlignment
  /-- The field is wider than any text may be. -/
  | tooWide
  | wholePrecision
  | wholeNegativeZero
  /-- A number that is to stand for a character has no sign. -/
  | characterSign
  | characterAlternate
  /-- No character has this number. -/
  | characterRange
  /-- More decimal places than can be counted. -/
  | tooPrecise
  /-- A whole number beyond the doubles. -/
  | tooLarge
deriving DecidableEq, Repr

namespace LayoutFlaw

/-- A character by itself if it is plain and visible, by its number otherwise. -/
def cited (c : Char) : String :=
  if 32 < c.toNat && c.toNat < 128 then String.singleton c
  else "\\x" ++ String.ofList (Nat.toDigits 16 c.toNat)

def message : LayoutFlaw → String
  | tooManyDigits => "Too many decimal digits in format string"
  | noPrecision => "Format specifier missing precision"
  | unreadable written subject =>
    s!"Invalid format specifier '{written}' for object of type '{subject.name}'"
  | separator mark kind => s!"Cannot specify '{mark}' with '{cited kind}'."
  | bothSeparators => "Cannot specify both ',' and '_'."
  | unknownKind kind subject =>
    s!"Unknown format code '{cited kind}' for object of type '{subject.name}'"
  | blankSign => "Space not allowed in string format specifier"
  | sign => "Sign not allowed in string format specifier"
  | negativeZero => "Negative zero coercion (z) not allowed in string format specifier"
  | alternate => "Alternate form (#) not allowed in string format specifier"
  | innerAlignment => "'=' alignment not allowed in string format specifier"
  | tooWide => ""
  | wholePrecision => "Precision not allowed in integer format specifier"
  | wholeNegativeZero => "Negative zero coercion (z) not allowed in integer format specifier"
  | characterSign => "Sign not allowed with integer format specifier 'c'"
  | characterAlternate => "Alternate form (#) not allowed with integer format specifier 'c'"
  | characterRange => "%c arg not in range(0x110000)"
  | tooPrecise => "precision too big"
  | tooLarge => "int too large to convert to float"

end LayoutFlaw

structure Layout where
  fill : Char := ' '
  alignment : Alignment := .left
  sign : Option Char := none
  negativeZero : Bool := false
  alternate : Bool := false
  width : Nat := 0
  separator : Option Char := none
  limit : Option Nat := none
  kind : Char := 's'

namespace Layout

def alignmentOf? : Char → Option Alignment
  | '<' => some .left
  | '>' => some .right
  | '^' => some .center
  | '=' => some .inner
  | _ => none

def numberLimit : Nat := 0x7FFFFFFFFFFFFFFF

/-- Digits of any script. -/
def numberOf (ds : List Char) : Nat := ds.foldl (fun n c => 10 * n + (digitValue? c).getD 0) 0

def isDigit (c : Char) : Bool := (digitValue? c).isSome

def takeNumber (cs : List Char) : Except LayoutFlaw (List Char × List Char) :=
  let ds := cs.takeWhile isDigit
  if numberLimit < numberOf ds then .error .tooManyDigits else .ok (ds, cs.drop ds.length)

/-- The mark `c`, if it stands at the front. -/
def takeMark (c : Char) : List Char → Bool × List Char
  | d :: rest => if c == d then (true, rest) else (false, d :: rest)
  | [] => (false, [])

def takeAlignment (cs : List Char) : Option Char × Option Alignment × List Char :=
  match cs with
  | fill :: mark :: rest => match alignmentOf? mark with
    | some a => (some fill, some a, rest)
    | none => match alignmentOf? fill with
      | some a => (none, some a, mark :: rest)
      | none => (none, none, cs)
  | [mark] => match alignmentOf? mark with
    | some a => (none, some a, [])
    | none => (none, none, cs)
  | [] => (none, none, [])

def takeSign : List Char → Option Char × List Char
  | c :: rest => if c == ' ' || c == '+' || c == '-' then (some c, rest) else (none, c :: rest)
  | [] => (none, [])

def takeSeparator (cs : List Char) : Except LayoutFlaw (Option Char × List Char) :=
  let (comma, cs) := takeMark ',' cs
  let (underscore, cs) := takeMark '_' cs
  if comma && underscore then .error .bothSeparators
  else if comma then
    .ok (some ',', cs)
  else if underscore then
    if cs.head? == some ',' then .error .bothSeparators else .ok (some '_', cs)
  else .ok (none, cs)

def takeLimit (cs : List Char) : Except LayoutFlaw (Option Nat × List Char) :=
  match cs with
  | '.' :: rest => do
    let (ds, rest) ← takeNumber rest
    if ds.isEmpty then throw .noPrecision
    return (some (numberOf ds), rest)
  | _ => .ok (none, cs)

/-- Kinds of numbers whose digits may be grouped; the character of number zero counts as one. -/
def groups (mark kind : Char) : Bool :=
  ['d', 'e', 'f', 'g', 'E', 'G', '%', 'F', '\x00'].contains kind
    || (mark == '_' && ['b', 'o', 'x', 'X'].contains kind)

/-- Where something stands: a zero before the width moves what stands at the right between sign and
digits. -/
def place (subject : Subject) (given : Option Alignment) (zero : Bool) : Alignment :=
  given.getD (if zero && subject.alignment = .right then .inner else subject.alignment)

/-- Reads a layout; a zero before the width fills with zeros. -/
def read (subject : Subject) (written : List Char) : Except LayoutFlaw Layout := do
  let (fill, alignment, cs) := takeAlignment written
  let (sign, cs) := takeSign cs
  let (negativeZero, cs) := takeMark 'z' cs
  let (alternate, cs) := takeMark '#' cs
  let (zero, cs) := if fill.isNone then takeMark '0' cs else (false, cs)
  let (ds, cs) ← takeNumber cs
  let (separator, cs) ← takeSeparator cs
  let (limit, cs) ← takeLimit cs
  let kind ← match cs with
    | [] => pure subject.kind
    | [kind] => pure kind
    | _ => throw (.unreadable (String.ofList written) subject)
  if let some mark := separator then
    if !groups mark kind then throw (.separator mark kind)
  return { fill := fill.getD (if zero then '0' else ' '), alignment := place subject alignment zero
           sign, negativeZero, alternate, width := numberOf ds, separator, limit, kind }

def widthLimit : Nat := 1000000000

/-- How much of the room that is left comes before the content. -/
def before (l : Layout) (room : Nat) : Nat :=
  match l.alignment with
  | .right => room
  | .center => room / 2
  | _ => 0

/-! ### Texts -/

/-- Refuses what only numbers know, and a width that cannot be filled. -/
def check (l : Layout) : Except LayoutFlaw Unit :=
  if l.kind != 's' then .error (.unknownKind l.kind .text)
  else if l.sign == some ' ' then .error .blankSign
  else if l.sign.isSome then .error .sign
  else if l.negativeZero then .error .negativeZero
  else if l.alternate then .error .alternate
  else if l.alignment = .inner then .error .innerAlignment
  else if widthLimit < l.width then .error .tooWide
  else .ok ()

def set (l : Layout) (text : List Char) : List Char :=
  let text := match l.limit with
    | some n => text.take n
    | none => text
  let room := l.width - text.length
  let before := l.before room
  List.replicate before l.fill ++ text ++ List.replicate (room - before) l.fill

/-- A text in a layout as it is written; without any the text stands as it is. -/
def apply (written text : List Char) : Except LayoutFlaw (List Char) :=
  if written.isEmpty then .ok text
  else do
    let l ← read .text written
    l.check
    return l.set text

end Layout
end Switchboard.Text

import Switchboard.Journal.Directive
import Switchboard.Text.Word

/-!
Patterns: text with directives behind percent signs. A directive writes the next argument or, with a
name in parentheses, that field of a record. A pattern that does not fit its arguments writes
nothing at all. `Pattern.isValid` is the weaker test that a line format has to pass in advance: that
it mentions some field in the right form.
-/

namespace Switchboard.Journal

/-- A measure of a directive: a number, or the next argument. -/
inductive Measure where
  | given (n : Nat)
  | byArgument

/-- A directive as it stands in a pattern. -/
structure Slot where
  field : Option String := none
  flags : Flags := {}
  width : Measure := .given 0
  precision : Option Measure := none
  conversion : Char

inductive Piece where
  | literal (c : Char)
  | slot (s : Slot)

/-- What the directives of a pattern draw on. -/
inductive Arguments where
  /-- Values, each of which has to be used once and in order. -/
  | values (vs : List Data)
  /-- Fields, used by name as often as wanted. -/
  | fields (fs : List (String × Argument))

namespace Pattern

/-! ### Reading a pattern -/

/-- A name up to its closing parenthesis; parentheses inside come in pairs. -/
def takeName? (depth : Nat) : List Char → Option (List Char × List Char)
  | [] => none
  | c :: rest =>
    if c == ')' && depth == 0 then some ([], rest)
    else
      let depth := if c == '(' then depth + 1 else if c == ')' then depth - 1 else depth
      (takeName? depth rest).map fun (name, rest) => (c :: name, rest)

def takeFlags (f : Flags) : List Char → Flags × List Char
  | '-' :: rest => takeFlags { f with left := true } rest
  | '+' :: rest => takeFlags { f with plus := true } rest
  | ' ' :: rest => takeFlags { f with blank := true } rest
  | '#' :: rest => takeFlags { f with alternate := true } rest
  | '0' :: rest => takeFlags { f with zeros := true } rest
  | cs => (f, cs)

/-- A star for an argument, or digits, of which there may be none. -/
def takeMeasure : List Char → Measure × List Char
  | '*' :: rest => (.byArgument, rest)
  | cs =>
    let (ds, rest) := Numeral.splitDigits cs
    (.given (Numeral.valueOf ds), rest)

/-- The name that a directive may begin with. -/
def takeField? : List Char → Option (Option String × List Char)
  | '(' :: rest => (takeName? 0 rest).map fun (name, rest) => (some (String.ofList name), rest)
  | cs => some (none, cs)

/-- A letter for the size of a number has no effect. -/
def dropSize : List Char → List Char
  | 'h' :: rest => rest
  | 'l' :: rest => rest
  | 'L' :: rest => rest
  | cs => cs

def takeSlot? (cs : List Char) : Option (Slot × List Char) := do
  let (field, cs) ← takeField? cs
  let (flags, cs) := takeFlags {} cs
  let (width, cs) := takeMeasure cs
  let (precision, cs) := match cs with
    | '.' :: rest =>
      let (p, rest) := takeMeasure rest
      (some p, rest)
    | _ => (none, cs)
  match dropSize cs with
  | [] => none
  | conversion :: rest => some ({ field, flags, width, precision, conversion }, rest)

/-- The pieces of a pattern, a doubled percent sign standing for one. Each piece takes a character at
least, which `fuel` counts. -/
def piecesFrom? : (fuel : Nat) → List Char → Option (List Piece)
  | 0, _ => some []
  | _, [] => some []
  | fuel + 1, '%' :: '%' :: rest => (piecesFrom? fuel rest).map (.literal '%' :: ·)
  | fuel + 1, '%' :: rest => do
    let (slot, rest) ← takeSlot? rest
    let pieces ← piecesFrom? fuel rest
    return .slot slot :: pieces
  | fuel + 1, c :: rest => (piecesFrom? fuel rest).map (.literal c :: ·)

def pieces? (cs : List Char) : Option (List Piece) := piecesFrom? cs.length cs

/-! ### Writing a line -/

/-- Arguments that are left, and the fields if there are names to look up. -/
structure Supply where
  next : List Argument
  fields : Option (List (String × Argument))

/-- Fields may also be written all at once. -/
def Supply.ofArguments : Arguments → Supply
  | .values vs => ⟨vs.map .value, none⟩
  | .fields fs => ⟨[.fields (fs.map fun e => (e.1, e.2.quoted))], some fs⟩

/-- Nothing may be left of values in order. -/
def Supply.isDone (s : Supply) : Bool := s.fields.isSome || s.next.isEmpty

/-- The value of a named field becomes the next argument. -/
def Supply.select? (s : Supply) : Option String → Option Supply
  | none => some s
  | some name => do
    let a ← Entries.get? (← s.fields) name
    return { s with next := [a] }

def Supply.take? (s : Supply) : Option (Argument × Supply) :=
  match s.next with
  | [] => none
  | a :: rest => some (a, { s with next := rest })

def measureLimit : Nat := 0x7FFFFFFF

def measure? (m : Measure) (s : Supply) : Option (Int × Supply) := do
  let (n, s) ← match m with
    | .given n => some ((n : Int), s)
    | .byArgument => do
      let (a, s) ← s.take?
      some (← Directive.intOf? (← a.value?), s)
  if n.natAbs ≤ measureLimit then some (n, s) else none

/-- What a slot writes. A negative width sets the value to the left. -/
def fill? (slot : Slot) (s : Supply) : Option (String × Supply) := do
  let s ← s.select? slot.field
  let (width, s) ← measure? slot.width s
  let (precision, s) ← match slot.precision with
    | none => some (none, s)
    | some m => (measure? m s).map fun (n, s) => (some n.toNat, s)
  let flags := if width < 0 then { slot.flags with left := true } else slot.flags
  let (a, s) ← s.take?
  let text ← Directive.write? ⟨flags, width.natAbs, precision, slot.conversion⟩ a
  return (text, s)

def writeAll? : List Piece → Supply → Option String
  | [], s => if s.isDone then some "" else none
  | .literal c :: rest, s => (writeAll? rest s).map (String.singleton c ++ ·)
  | .slot slot :: rest, s => do
    let (text, s) ← fill? slot s
    let tail ← writeAll? rest s
    return text ++ tail

def write? (pattern : String) (arguments : Arguments) : Option String := do
  writeAll? (← pieces? pattern.toList) (.ofArguments arguments)

/-! ### Line formats -/

/-- The conversions that a line format may name, in either case. -/
def conversions : List Char := ['d', 'i', 'o', 'u', 'x', 'e', 'f', 'g', 'c', 'r', 's', 'a', '%']

def isAnyDigit (c : Char) : Bool := (Text.digitValue? c).isSome

/-- The letter without regard to case. The long s and the two letters i that only one case of a plain
i maps to count as plain letters. -/
def foldCase (c : Char) : Char :=
  if c == 'ſ' then 's' else if c == 'ı' || c == 'İ' then 'i' else c.toLower

def dropMeasure : List Char → List Char
  | '*' :: rest => rest
  | cs => cs.dropWhile isAnyDigit

/-- A named field in the right form stands at the front. -/
def namesField (cs : List Char) : Bool :=
  match cs with
  | '%' :: '(' :: rest =>
    match rest.span Text.isWordChar with
    | (_ :: _, ')' :: rest) =>
      let rest := dropMeasure (rest.dropWhile fun c => ['#', '0', '+', ' ', '-'].contains c)
      let rest := match rest with
        | '.' :: precise => match precise with
          | '*' :: rest => rest
          | c :: _ => if isAnyDigit c then precise.dropWhile isAnyDigit else rest
          | [] => rest
        | _ => rest
      rest.head?.any fun c => conversions.contains (foldCase c)
    | _ => false
  | _ => false

def namesFieldSomewhere : List Char → Bool
  | [] => false
  | c :: rest => namesField (c :: rest) || namesFieldSomewhere rest

/-- A line format has to mention a field. -/
def isValid (pattern : String) : Bool := namesFieldSomewhere pattern.toList

end Pattern
end Switchboard.Journal

import Switchboard.Journal.Template.Content
import Switchboard.Text.Layout.Whole

/-!
Templates: text with fields between braces. A field is named, may pick an attribute or an item of its
content, may be cited, and may have a layout, which is a template itself. A doubled brace stands for
a brace.
-/

namespace Switchboard.Journal

namespace Template

/-- What keeps a template from being written out. -/
inductive Problem where
  | singleOpen
  | singleClose
  | openInName
  | unclosedField
  | unmatchedOpen
  | noConversion
  | expectedColon
  | unknownConversion (c : Char)
  | emptyAttribute
  | afterBracket
  | tooDeep
  | layout (f : Text.LayoutFlaw)
  /-- No field has this name. -/
  | unknownField (name : String)
  /-- Fields have names only, not numbers. -/
  | noPosition (index : Nat)
  | noAttribute (owner : Content) (name : String)
  | notIndexed (found : Content)
  /-- A kind can be narrowed down once. -/
  | notGeneric (found : Content)
  /-- Nothing is kept under this name or number. -/
  | noEntry (place : Atom)
  /-- The text has no character at this place. -/
  | noCharacter
  /-- The row or list has nothing at this place. -/
  | noItem (holder : Kind)
  /-- The place of a character is no number. -/
  | notAnIndex
  /-- The place in a row or list is no number. -/
  | notAnItem (holder : Kind)
  /-- Only texts, numbers, decimals and flags have layouts. -/
  | noLayout (found : Content)

namespace Problem

/-- A conversion by itself if it is plain and visible, by its number otherwise. -/
def citedConversion (c : Char) : String :=
  if c == '\x7f' then "\\x7f" else Text.LayoutFlaw.cited c

def message : Problem → String
  | singleOpen => "Single '\x7b' encountered in format string"
  | singleClose => "Single '\x7d' encountered in format string"
  | openInName => "unexpected '\x7b' in field name"
  | unclosedField => "expected '\x7d' before end of string"
  | unmatchedOpen => "unmatched '\x7b' in format spec"
  | noConversion => "end of string while looking for conversion specifier"
  | expectedColon => "expected ':' after conversion specifier"
  | unknownConversion c => s!"Unknown conversion specifier {citedConversion c}"
  | emptyAttribute => "Empty attribute in format string"
  | afterBracket => "Only '.' or '[' may follow ']' in format field specifier"
  | tooDeep => "Max string recursion exceeded"
  | layout f => f.message
  | unknownField name => Text.quoted name
  | noPosition i => s!"Replacement index {i} out of range for positional args tuple"
  | noAttribute (.kind _) "__abstractmethods__" => "__abstractmethods__"
  | noAttribute owner name => s!"{owner.asOwner} has no attribute '{name}'"
  | notIndexed found => s!"{found.asContainer} is not subscriptable"
  | notGeneric found => s!"{found.shown} is not a generic class"
  | noEntry place => place.cited
  | noCharacter => "string index out of range"
  | noItem holder => s!"{holder.shortName} index out of range"
  | notAnIndex => "string indices must be integers, not 'str'"
  | notAnItem holder => s!"{holder.shortName} indices must be integers or slices, not str"
  | noLayout found => s!"unsupported format string passed to {found.kindOf.name}.__format__"

end Problem

/-- A field as it stands in a template. -/
structure Slot where
  name : List Char
  conversion : Option Char := none
  layout : List Char := []

/-! ### Reading a field -/

/-- The name of a field, the mark that ends it, and the rest. An index may hold any character but
its closing bracket. -/
def takeName : (inIndex : Bool) → List Char → Except Problem (List Char × Char × List Char)
  | _, [] => .error .unclosedField
  | inIndex, c :: rest =>
    if inIndex then do
      let (name, mark, rest) ← takeName (c != ']') rest
      return (c :: name, mark, rest)
    else if c == '\x7b' then .error .openInName
    else if c == '\x7d' || c == ':' || c == '!' then .ok ([], c, rest)
    else do
      let (name, mark, rest) ← takeName (c == '[') rest
      return (c :: name, mark, rest)

/-- The layout of a field up to the brace that closes the field. -/
def takeLayout (depth : Nat) : List Char → Except Problem (List Char × List Char)
  | [] => .error .unmatchedOpen
  | c :: rest =>
    if c == '\x7d' && depth == 0 then .ok ([], rest)
    else do
      let depth := if c == '\x7b' then depth + 1 else if c == '\x7d' then depth - 1 else depth
      let (layout, rest) ← takeLayout depth rest
      return (c :: layout, rest)

def takeSlot (cs : List Char) : Except Problem (Slot × List Char) := do
  let (name, mark, rest) ← takeName false cs
  if mark == '\x7d' then return ({ name }, rest)
  else if mark == ':' then
    let (layout, rest) ← takeLayout 0 rest
    return ({ name, layout }, rest)
  else match rest with
    | [] => throw .noConversion
    | [_] => throw .unmatchedOpen
    | c :: '\x7d' :: rest => return ({ name, conversion := some c }, rest)
    | c :: ':' :: rest =>
      let (layout, rest) ← takeLayout 0 rest
      return ({ name, conversion := some c, layout }, rest)
    | _ => throw .expectedColon

/-! ### The content of a field -/

/-- A whole number in digits of any script, if the name is one. A number that is too large is refused
whatever follows it. -/
def index? (name : List Char) : Except Problem (Option Nat) :=
  match Text.Layout.takeNumber name with
  | .error f => .error (.layout f)
  | .ok (ds, rest) =>
    .ok (if !ds.isEmpty && rest.isEmpty then some (Text.Layout.numberOf ds) else none)

def isPathMark (c : Char) : Bool := c == '.' || c == '['

def attributeOf (c : Content) (name : String) : Except Problem Content :=
  match c.attributeNamed? name with
  | some a => .ok a
  | none => .error (.noAttribute (c.standsFor name) name)

/-- What plain data hold at a place or under a name. Texts and lists have places only. -/
def dataItem (d : Data) (place : Atom) : Except Problem Content :=
  match d, place with
  | .text s, .number i => match s.toList[i]? with
    | some c => .ok (.text (String.singleton c))
    | none => .error .noCharacter
  | .text _, _ => .error .notAnIndex
  | .list xs, .number i => match xs[i]? with
    | some d => .ok (.datum d)
    | none => .error (.noItem .list)
  | .list _, _ => .error (.notAnItem .list)
  | .object fs, .text name => match Entries.get? fs name with
    | some d => .ok (.datum d)
    | none => .error (.noEntry place)
  | .object _, _ => .error (.noEntry place)
  | d, _ => .error (.notIndexed (.datum d))

/-- What is kept at a place or under a name. Rows have places only. -/
def item (c : Content) (place : Atom) : Except Problem Content :=
  match c, place with
  | .datum d, _ => dataItem d place
  | .row atoms, .number i => match atoms[i]? with
    | some a => .ok (.ofAtom a)
    | none => .error (.noItem .row)
  | .row _, _ => .error (.notAnItem .row)
  | .directory k, .text name => match Member.own? k name with
    | some m => .ok (.kept m)
    | none => .error (.noEntry place)
  | .directory _, _ => .error (.noEntry place)
  | .narrowed _ _, _ => .error (.notGeneric c)
  | .kind k, _ => if Content.canBeNarrowed k then .ok (.narrowed k place) else .error (.notIndexed c)
  | _, _ => .error (.notIndexed c)

/-- What stands between brackets: a number, or a name that is none. -/
def placeOf (name : List Char) : Except Problem Atom := do
  match ← index? name with
  | some i => return .number i
  | none => return .text (String.ofList name)

def follow : (fuel : Nat) → Content → (path : List Char) → Except Problem Content
  | 0, c, _ => .ok c
  | _, c, [] => .ok c
  | fuel + 1, c, mark :: rest =>
    if mark == '.' then do
      let name := rest.takeWhile (!isPathMark ·)
      if name.isEmpty then throw .emptyAttribute
      follow fuel (← attributeOf c (String.ofList name)) (rest.drop name.length)
    else if mark == '[' then do
      let name := rest.takeWhile (· != ']')
      let place ← placeOf name
      if name.isEmpty then throw .emptyAttribute
      follow fuel (← item c place) (rest.drop (name.length + 1))
    else .error .afterBracket

/-- The content that a name with a path stands for. -/
def contentOf (fields : Entries String Content) (name : List Char) : Except Problem Content := do
  let first := name.takeWhile (!isPathMark ·)
  if first.isEmpty then throw (.noPosition 0)
  match ← index? first with
  | some i => throw (.noPosition i)
  | none => match Entries.get? fields (String.ofList first) with
    | none => throw (.unknownField (String.ofList first))
    | some c => follow name.length c (name.drop first.length)

/-- Turns a content into text as the conversion asks for. The character of number zero asks for
nothing. -/
def convert (conversion : Option Char) (c : Content) : Except Problem Content :=
  match conversion with
  | none => .ok c
  | some '\x00' => .ok c
  | some mark =>
    if mark == 's' then .ok (.text c.shown)
    else if mark == 'r' then .ok (.text c.cited)
    else if mark == 'a' then .ok (.text (Text.plainForm c.cited))
    else .error (.unknownConversion mark)

def lay (layout : List Char) (c : Content) : Except Problem (List Char) :=
  if layout.isEmpty then .ok c.shown.toList
  else match c with
    | .datum (.text s) => (Text.Layout.apply layout s.toList).mapError .layout
    | .datum (.int n) => (Text.Layout.applyWhole .whole layout n).mapError .layout
    | .datum (.bool b) => (Text.Layout.applyWhole .flag layout b.toNat).mapError .layout
    | .datum (.float x) => (Text.Layout.applyDecimal layout x).mapError .layout
    | c => .error (.noLayout c)

/-! ### Writing it out -/

/-- Layouts may be templates, but not those of fields in them. -/
def maxDepth : Nat := 2

/-- Writes out a template whose fields may be nested so deep. Every step takes a character, which
`fuel` counts. -/
def writeFrom (fields : Entries String Content) :
    (depth fuel : Nat) → List Char → Except Problem (List Char)
  | 0, _, _ => .error .tooDeep
  | _, 0, _ => .ok []
  | _, _, [] => .ok []
  | depth + 1, fuel + 1, c :: rest =>
    if c == '\x7d' then
      match rest with
      | '\x7d' :: rest => (writeFrom fields (depth + 1) fuel rest).map ('\x7d' :: ·)
      | _ => .error .singleClose
    else if c == '\x7b' then
      match rest with
      | [] => .error .singleOpen
      | '\x7b' :: rest => (writeFrom fields (depth + 1) fuel rest).map ('\x7b' :: ·)
      | rest => do
        let (slot, rest) ← takeSlot rest
        let content ← convert slot.conversion (← contentOf fields slot.name)
        let layout ← if slot.layout.contains '\x7b' then writeFrom fields depth fuel slot.layout
          else pure slot.layout
        let text ← lay layout content
        let tail ← writeFrom fields (depth + 1) fuel rest
        return text ++ tail
    else (writeFrom fields (depth + 1) fuel rest).map (c :: ·)

def write (template : String) (fields : Entries String Content) : Except Problem String :=
  (writeFrom fields maxDepth template.length template.toList).map String.ofList

end Template
end Switchboard.Journal

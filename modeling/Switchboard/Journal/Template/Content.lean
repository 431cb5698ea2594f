import Switchboard.Data
import Switchboard.Journal.Template.Kind

/-!
What a field in a template stands for: plain data to begin with, and whatever its attributes and items
lead to. Anything tells its kind, and a kind tells its name, its measures, its members and the kinds
that it comes under.
-/

namespace Switchboard.Journal.Template

/-- What a row can hold. -/
inductive Atom where
  | text (s : String)
  | number (n : Nat)
  | kind (k : Kind)
deriving DecidableEq, Repr

def Atom.cited : Atom → String
  | text s => Text.quoted s
  | number n => toString n
  | kind k => k.shown

inductive Content where
  | datum (d : Data)
  | kind (k : Kind)
  | row (items : List Atom)
  /-- What a kind offers by itself. -/
  | directory (k : Kind)
  /-- A kind that is narrowed down. -/
  | narrowed (k : Kind) (argument : Atom)
  | member (m : Member)
  /-- The member of a single thing. -/
  | bound (m : Member) (c : Content)

namespace Content

def text (s : String) : Content := datum (.text s)

def number (n : Int) : Content := datum (.int n)

def flag (b : Bool) : Content := datum (.bool b)

def nothing : Content := datum .null

def ofOption : Option String → Content
  | some s => text s
  | none => nothing

def ofAtom : Atom → Content
  | .text s => text s
  | .number n => number n
  | .kind k => kind k

/-- The kind of plain data. Moments stand for their written form. -/
def kindOfData : Data → Kind
  | .null => .nothing
  | .bool _ => .flag
  | .int _ => .number
  | .float _ => .decimal
  | .text _ => .text
  | .temporal _ _ => .text
  | .list _ => .list
  | .object _ => .entries

def kindOf : Content → Kind
  | datum d => kindOfData d
  | kind _ => .kind
  | row _ => .row
  | directory _ => .directory
  | narrowed _ _ => .narrowed
  | member m => m.kindOf
  | bound m _ => m.boundKind

/-! ### Attributes -/

def parentOf (k : Kind) : Content :=
  match k.parents with
  | [] => nothing
  | p :: _ => kind p

def constantOf (k : Kind) (name : String) : Content :=
  if name == "__doc__" then ofOption k.summary? else nothing

def kept (m : Member) : Content :=
  match m.sort with
  | .maker => bound m (kind m.owner)
  | .constant => constantOf m.owner m.name
  | _ => member m

/-- What a kind says about itself. Without any summary it is the member by which its things have theirs. -/
def summaryOf (k : Kind) : Content :=
  match k.summary?, Member.own? k "__doc__" with
  | some s, _ => text s
  | none, some m => kept m
  | none, none => nothing

def kindProperties (k : Kind) : List (String × Content) :=
  [("__name__", text k.shortName), ("__qualname__", text k.shortName),
    ("__module__", text k.home), ("__base__", parentOf k),
    ("__bases__", row (k.parents.map .kind)), ("__mro__", row (k.line.map .kind)),
    ("__dict__", directory k), ("__doc__", summaryOf k),
    ("__text_signature__", ofOption k.signature?), ("__basicsize__", number k.measures.size),
    ("__itemsize__", number k.measures.itemSize), ("__dictoffset__", number k.measures.fieldsAt),
    ("__weakrefoffset__", number k.measures.referencesAt), ("__flags__", number k.measures.marks)]

/-- What is worked out for a member that stands alone. A function that is kept with a kind is wrapped,
and is that of the kind once it is unwrapped. -/
def memberProperties (m : Member) : List (String × Content) :=
  if m.sort = .static then
    [("__func__", bound m (kind m.owner)), ("__wrapped__", bound m (kind m.owner)),
      ("__isabstractmethod__", flag false), ("__dict__", datum (.object []))]
  else
    [("__objclass__", kind m.owner), ("__name__", text m.name),
      ("__qualname__", text m.fullName), ("__doc__", ofOption m.offer.summary?),
      ("__text_signature__", ofOption m.offer.signature?)]

/-- A method of a single thing goes by the name of that thing, if it is a kind, or of its kind. -/
def boundProperties (m : Member) (c : Content) : List (String × Content) :=
  let holder := match c with
    | kind k => k
    | c => c.kindOf
  let fullName := if m.sort = .wrapper then m.fullName else s!"{holder.shortName}.{m.name}"
  [("__name__", text m.name), ("__qualname__", text fullName),
    ("__self__", if m.sort = .static then nothing else c), ("__doc__", ofOption m.offer.summary?),
    ("__text_signature__", ofOption m.offer.signature?), ("__objclass__", kind m.owner),
    ("__module__", nothing)]

/-- A number is its own whole and real part. -/
def numberProperties (n : Int) : List (String × Content) :=
  [("real", number n), ("imag", number 0), ("numerator", number n), ("denominator", number 1)]

def dataProperties : Data → List (String × Content)
  | .int n => numberProperties n
  | .bool b => numberProperties b.toNat
  | .float x => [("real", datum (.float x)), ("imag", datum (.float 0.0))]
  | _ => []

def narrowedProperties (k : Kind) (argument : Atom) : List (String × Content) :=
  [("__origin__", kind k), ("__args__", row [argument]), ("__parameters__", row []),
    ("__unpacked__", flag false), ("__typing_unpacked_tuple_args__", nothing)]

def properties (c : Content) : List (String × Content) :=
  ("__class__", kind c.kindOf) :: match c with
    | datum d => dataProperties d
    | kind k => kindProperties k
    | narrowed k argument => narrowedProperties k argument
    | member m => memberProperties m
    | bound m c => boundProperties m c
    | _ => []

/-- A member as it is found by way of a thing of its kind. -/
def through (c : Content) (m : Member) : Option Content :=
  match m.sort with
  | .property => Entries.get? c.properties m.name
  | .slot => Entries.get? c.properties m.name
  | .static => some (bound m (kind m.owner))
  | .classMethod => some (bound m (kind c.kindOf))
  | .method => some (bound m c)
  | .wrapper => some (bound m c)
  | _ => some (kept m)

/-- A member as it is found by way of the kind `k` that offers it. -/
def fromKind (k : Kind) (m : Member) : Content :=
  match m.sort with
  | .static => bound m (kind m.owner)
  | .classMethod => bound m (kind k)
  | _ => kept m

/-- What is worked out for a kind comes first, then what the kind offers, and last what any kind has. -/
def ofKindNamed? (k : Kind) (name : String) : Option Content :=
  match Member.find? .kind name, Member.find? k name with
  | some m, own? => if m.isComputed then (kind k).through m
    else ((own?.map (fromKind k)).or ((kind k).through m))
  | none, own? => own?.map (fromKind k)

/-- What a narrowed kind has of its own; for all else it stands for the kind. -/
def narrowedNames : List String :=
  ["__class__", "__origin__", "__args__", "__unpacked__", "__parameters__",
    "__typing_unpacked_tuple_args__", "__mro_entries__", "__reduce_ex__", "__reduce__", "__copy__",
    "__deepcopy__"]

def standsFor (c : Content) (name : String) : Content :=
  match c with
  | narrowed k _ => if narrowedNames.contains name then c else kind k
  | c => c

def attributeNamed? (c : Content) (name : String) : Option Content :=
  match c.standsFor name with
  | kind k => ofKindNamed? k name
  | c => (Member.find? c.kindOf name).bind c.through

/-- How a missing attribute is put down to its owner. -/
def asOwner : Content → String
  | kind k => s!"type object {Text.quoted k.name}"
  | c => s!"{Text.quoted c.kindOf.name} object"

/-! ### How contents are shown -/

/-- The member of a single thing. Where a thing is kept stays open. -/
def shownBound (m : Member) (holder : Kind) : String :=
  let head := if m.sort = .wrapper then s!"method-wrapper {Text.quoted m.name}"
    else s!"built-in method {m.name}"
  s!"<{head} of {holder.name} object at 0x0>"

def citedEntry : Content → String
  | datum d => d.quoted
  | member m => m.shown
  | bound m c => shownBound m c.kindOf
  | _ => Data.null.quoted

def shownDirectory (k : Kind) : String :=
  let entry (o : Offer) : String := s!"{Text.quoted o.name}: {(kept ⟨k, o⟩).citedEntry}"
  "\x7b" ++ ", ".intercalate (k.offers.map entry) ++ "\x7d"

def shownNarrowed (k : Kind) (argument : Atom) : String := s!"{k.shortName}[{argument.cited}]"

def shown : Content → String
  | datum d => d.shown
  | kind k => k.shown
  | row items => Text.row (items.map Atom.cited)
  | directory k => shownDirectory k
  | narrowed k argument => shownNarrowed k argument
  | member m => m.shown
  | bound m c => shownBound m c.kindOf

/-- The content as it is cited; a text is quoted, and a directory says what it is. -/
def cited : Content → String
  | datum d => d.quoted
  | directory k => s!"mappingproxy({shownDirectory k})"
  | c => c.shown

/-! ### Items -/

/-- How what has no items is named. -/
def asContainer : Content → String
  | kind k => s!"type {Text.quoted k.name}"
  | c => s!"{Text.quoted c.kindOf.name} object"

/-- Kinds that can be narrowed down. -/
def canBeNarrowed (k : Kind) : Bool := k = .kind || (Member.find? k "__class_getitem__").isSome

end Content
end Switchboard.Journal.Template

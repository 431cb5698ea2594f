import Switchboard.Toml.Value

/-!
TOML documents: statements, one to a line, which open tables and put values into the open one. A
table is declared only once, and a value written out in one place cannot be added to from another.
-/

namespace Switchboard.Toml

/-- A document as far as it has been read. -/
structure Document where
  root : Table := []
  /-- The table that is open. -/
  header : Key := []
  /-- Keys whose values cannot be added to, at any depth. -/
  closed : List Key := []
  /-- Tables that cannot be declared again. -/
  declared : List Key := []
  /-- Tables that dotted keys have made since the last header, declared with the next one. -/
  pending : List Key := []

namespace Document

def isClosed (doc : Document) (key : Key) : Bool := doc.closed.any (·.isPrefixOf key)

def isDeclared (doc : Document) (key : Key) : Bool := doc.declared.contains key

/-- Forgets what is known of a key and of all keys below it. -/
def forget (doc : Document) (key : Key) : Document :=
  { doc with
    closed := doc.closed.filter (!key.isPrefixOf ·)
    declared := doc.declared.filter (!key.isPrefixOf ·) }

/-- The tables on the way to a dotted key, from the open table on. -/
def onTheWay (header path : Key) : List Key :=
  (List.range (path.length - 1)).map fun n => header ++ path.take (n + 1)

/-- A value under a dotted key in the open table. -/
def pair (doc : Document) (cs : List Char) : Except Error (Document × List Char) := do
  let (path, rest) ← key cs
  let (item, rest) ← value (← equals rest)
  let way := onTheWay doc.header path
  match way.find? doc.isDeclared with
  | some taken => stop (.redefined taken) rest
  | none =>
    let parents := doc.header ++ path.dropLast
    if doc.isClosed parents then stop (.immutable parents) rest
    let last := path.getLastD ""
    let root ← located rest (Table.changeAt true (Table.add .overwritten last item) parents doc.root)
    let closed := if Toml.isClosed item then (doc.header ++ path) :: doc.closed else doc.closed
    return ({ doc with root, closed, pending := way ++ doc.pending }, rest)

/-- A header with the name of a table, behind its opening bracket. -/
def table (doc : Document) (cs : List Char) : Except Error (Document × List Char) := do
  let (path, rest) ← key (skipSpace cs)
  if doc.isDeclared path || doc.isClosed path then stop (.declaredTwice path) rest
  let root ← located rest (Table.changeAt true .ok path doc.root)
  match rest with
  | ']' :: rest =>
    return ({ doc with root, header := path, declared := path :: doc.declared }, rest)
  | rest => stop .expectedTableEnd rest

/-- A header that appends a table to a list, behind its opening brackets. -/
def listedTable (doc : Document) (cs : List Char) : Except Error (Document × List Char) := do
  let (path, rest) ← key (skipSpace cs)
  if doc.isClosed path then stop (.immutable path) rest
  let doc := doc.forget path
  let (parents, last) := path.split
  let root ← located rest (Table.changeAt true (Table.appendTable last) parents doc.root)
  match rest with
  | ']' :: ']' :: rest =>
    return ({ doc with root, header := path, declared := path :: doc.declared }, rest)
  | rest => stop .expectedArrayTableEnd rest

def settle (doc : Document) : Document :=
  { doc with declared := doc.pending ++ doc.declared, pending := [] }

def statement (doc : Document) (cs : List Char) : Except Error (Document × List Char) :=
  match cs with
  | [] => .ok (doc, [])
  | '[' :: '[' :: rest => listedTable doc.settle rest
  | '[' :: rest => table doc.settle rest
  | '#' :: _ => .ok (doc, cs)
  | c :: _ =>
    if isBare c || c == '"' || c == '\'' then pair doc cs else stop .invalidStatement cs

/-- All statements; each but the last takes a line break, which `fuel` counts. -/
def statements : (fuel : Nat) → Document → List Char → Except Error Document
  | 0, doc, _ => .ok doc
  | fuel + 1, doc, cs =>
    match skipSpace cs with
    | [] => .ok doc
    | '\n' :: rest => statements fuel doc rest
    | cs => do
      let (doc, rest) ← statement doc cs
      match ← skipComment (skipSpace rest) with
      | [] => return doc
      | '\n' :: rest => statements fuel doc rest
      | rest => stop .expectedLineEnd rest

end Document

/-- Line ends of two characters count as one. -/
def joinLineEnds : List Char → List Char
  | '\r' :: '\n' :: rest => '\n' :: joinLineEnds rest
  | c :: rest => c :: joinLineEnds rest
  | [] => []

/-- Why a document cannot be read: its text is malformed, or a number in it is too long. -/
inductive Refusal where
  | malformed (message : String)
  | tooManyDigits (count : Nat)

def read (text : String) : Except Refusal Table :=
  let cs := joinLineEnds text.toList
  match Document.statements (cs.length + 1) {} cs with
  | .ok doc => .ok doc.root
  | .error ⟨.tooManyDigits n, _⟩ => .error (.tooManyDigits n)
  | .error e => .error (.malformed (e.message cs))

end Switchboard.Toml

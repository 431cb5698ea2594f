import Switchboard.Text.Quoted

/-!
What can be wrong with a TOML document. A problem is located by the number of characters that are
left of the document where it shows; line and column are found from the document as a whole.
-/

namespace Switchboard.Toml

abbrev Key := List String

def Key.cited (key : Key) : String :=
  match key.map Text.quoted with
  | [k] => "(" ++ k ++ ",)"
  | ks => "(" ++ ", ".intercalate ks ++ ")"

inductive Problem where
  | invalidStatement
  | expectedLineEnd
  | expectedTableEnd
  | expectedArrayTableEnd
  | declaredTwice (key : Key)
  | immutable (key : Key)
  | redefined (key : Key)
  | overwritten
  | expectedEquals
  | invalidKey
  | unclosedArray
  | unclosedTable
  | duplicateKey (name : String)
  | badEscape
  | badHex
  | notScalar
  | expected (delimiter : String)
  | invalidChar (c : Char)
  | illegalChar (c : Char)
  | unterminated
  | invalidDate
  | invalidValue
  /-- A whole number with more digits than are read. -/
  | tooManyDigits (count : Nat)
deriving DecidableEq, Repr

def Problem.message : Problem → String
  | invalidStatement => "Invalid statement"
  | expectedLineEnd => "Expected newline or end of document after a statement"
  | expectedTableEnd => "Expected ']' at the end of a table declaration"
  | expectedArrayTableEnd => "Expected ']]' at the end of an array declaration"
  | declaredTwice key => s!"Cannot declare {key.cited} twice"
  | immutable key => s!"Cannot mutate immutable namespace {key.cited}"
  | redefined key => s!"Cannot redefine namespace {key.cited}"
  | overwritten => "Cannot overwrite a value"
  | expectedEquals => "Expected '=' after a key in a key/value pair"
  | invalidKey => "Invalid initial character for a key part"
  | unclosedArray => "Unclosed array"
  | unclosedTable => "Unclosed inline table"
  | duplicateKey name => s!"Duplicate inline table key {Text.quoted name}"
  | badEscape => "Unescaped '\\' in a string"
  | badHex => "Invalid hex value"
  | notScalar => "Escaped character is not a Unicode scalar value"
  | expected delimiter => s!"Expected {Text.quoted delimiter}"
  | invalidChar c => s!"Found invalid character {Text.quoted (String.singleton c)}"
  | illegalChar c => s!"Illegal character {Text.quoted (String.singleton c)}"
  | unterminated => "Unterminated string"
  | invalidDate => "Invalid date or datetime"
  | invalidValue => "Invalid value"
  | tooManyDigits n => s!"Integer of {n} digits"

/-- A problem and the number of characters left where it shows. -/
structure Error where
  problem : Problem
  left : Nat
deriving DecidableEq, Repr

/-- Line and column behind the first characters of a document. -/
def lineAndColumn (before : List Char) : Nat × Nat :=
  (before.count '\n' + 1, (before.reverse.takeWhile (· != '\n')).length + 1)

def Error.message (e : Error) (document : List Char) : String :=
  let place :=
    if e.left = 0 then "end of document"
    else
      let (line, column) := lineAndColumn (document.take (document.length - e.left))
      s!"line {line}, column {column}"
  s!"{e.problem.message} (at {place})"

/-- Reads something off the front of a document and leaves the rest. -/
abbrev Parser (α : Type) := List Char → Except Error (α × List Char)

def stop {α : Type} (problem : Problem) (rest : List Char) : Except Error α :=
  .error ⟨problem, rest.length⟩

end Switchboard.Toml

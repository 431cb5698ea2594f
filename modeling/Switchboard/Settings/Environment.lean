import Switchboard.Argument
import Switchboard.Settings.Merge
import Switchboard.Step

/-!
Settings from environment variables. A variable named after the prefix by two or more parts, set off
by double underscores, is written at the path of these parts; a part on the way that holds no object
gives way to one. The bare budget variable is written first, so that a prefixed one overrides it.
-/

namespace Switchboard.Settings

open Journal

def variablePrefix : String := "LLMRELAY__"

def budgetVariable : String := "LLM_MONTHLY_BUDGET"

/-- The value that a text stands for: a flag, a whole number, a number, or the text itself. -/
def valueOf (s : String) : Data :=
  let word := Text.lowercase s
  if word == "true" then .bool true
  else if word == "false" then .bool false
  else match Numeral.anyInt? s with
    | some n => .int n
    | none => match Numeral.anyFloat? s with
      | some x => .float x
      | none => .text s

/-- What a value stands for, which has to be a text. -/
def valueOfData : Data → Except Fault Data
  | .text s => .ok (valueOf s)
  | d => .error (.notAnObject d.kindName "lower")

/-! ### Variables -/

def variableText : Data → Except Fault String
  | .text s => .ok s
  | d => .error (.misfit (.notVariable d.kindName))

/-- A variable from a pair of its name and its value. -/
def variableOf (d : Data) : Except Fault (String × String) := do
  let (name, value) ← Argument.couple d
  return (← variableText name, ← variableText value)

def environmentOf : Data → Except Fault (Entries String String)
  | .null => .ok []
  | d => do return Entries.ofPairs (← (← Argument.items d).mapM variableOf)

/-! ### Paths -/

/-- Splits at double underscores, from left to right. `part` holds what was read of the current
part, backwards. -/
def splitParts (part : List Char) : List Char → List (List Char)
  | [] => [part.reverse]
  | '_' :: '_' :: rest => part.reverse :: splitParts [] rest
  | c :: rest => splitParts (c :: part) rest

/-- The path that a variable is written at, if it sets anything. -/
def path? (name : String) : Option (List String) :=
  let cs := name.toList
  let start := variablePrefix.toList
  if start.isPrefixOf cs then
    let parts := splitParts [] (Text.lowercase (String.ofList (cs.drop start.length))).toList
    if 2 ≤ parts.length then some (parts.map String.ofList) else none
  else none

/-- What a part on the way to a setting holds: the object there, or an empty one in its place. -/
def sectionAt : Option Data → Fields
  | some (.object fs) => fs
  | _ => []

def write (fields : Fields) : List String → Data → Fields
  | [], _ => fields
  | [k], v => Entries.put fields k v
  | k :: path, v => Entries.put fields k (.object (write (sectionAt (Entries.get? fields k)) path v))

/-! ### The overlay -/

def budgetOf (s : String) : Except Fault (Option Float) :=
  match valueOf s with
  | .int n => match Binary64.ofInt? n with
    | some x => .ok (some x)
    | none => .error .intTooLarge
  | .float x => .ok (some x)
  | _ => .ok none

/-- Writes the budget into its section, which is made if it is missing. -/
def writeBudget (fields : Fields) (amount : Float) : Except Fault Fields :=
  match Entries.get? fields "budget" with
  | none => .ok (Entries.put fields "budget" (.object [("monthly_budget", .float amount)]))
  | some (.object fs) =>
    .ok (Entries.put fields "budget" (.object (Entries.put fs "monthly_budget" (.float amount))))
  | some d => .error (.notWritable d)

def overlayBudget (fields : Fields) (environment : Entries String String) : Step Unit Fields :=
  match (Entries.get? environment budgetVariable).filter (!·.isEmpty) with
  | none => return fields
  | some s => do
    match ← Step.ofExcept (budgetOf s) with
    | some amount => Step.ofExcept (writeBudget fields amount)
    | none => do
      Step.write [Channel.settings.warning s!"Ignoring non-numeric {budgetVariable}={Text.quoted s}"]
      return fields

def overlayVariables (fields : Fields) (environment : Entries String String) : Fields :=
  environment.foldl (fun fs e => match path? e.1 with
    | some path => write fs path (valueOf e.2)
    | none => fs) fields

/-- Writes what the environment sets over the settings. -/
def overlay (fields : Fields) (environment : Entries String String) : Step Unit Fields := do
  let fields ← overlayBudget fields environment
  return overlayVariables fields environment

end Switchboard.Settings

import Switchboard.Decimal.Shortest
import Switchboard.Entries
import Switchboard.Text.Quoted

/-!
Untyped data: what a settings file, a table of overrides or a raw transport result holds before it
is read into a type of this library. Objects keep their keys in order. `quoted` writes a value the
way messages cite it.
-/

namespace Switchboard

/-- The three kinds of calendar values that a settings file can hold. -/
inductive Temporal where
  | moment
  | date
  | time
deriving DecidableEq, Repr

inductive Data where
  | null
  | bool (value : Bool)
  | int (value : Int)
  | float (value : Float)
  | text (value : String)
  /-- A calendar value in its standard written form. -/
  | temporal (kind : Temporal) (written : String)
  | list (items : List Data)
  | object (fields : List (String × Data))
deriving Inhabited

namespace Data

/-- The name by which a message calls the kind of a value. -/
def kindName : Data → String
  | null => "NoneType"
  | bool _ => "bool"
  | int _ => "int"
  | float _ => "float"
  | text _ => "str"
  | temporal .moment _ => "datetime.datetime"
  | temporal .date _ => "datetime.date"
  | temporal .time _ => "datetime.time"
  | list _ => "list"
  | object _ => "dict"

def isObject : Data → Bool
  | object _ => true
  | _ => false

def text? : Data → Option String
  | text s => some s
  | _ => none

/-- Lists and objects cannot be the key of a field. -/
def isKey : Data → Bool
  | list _ => false
  | object _ => false
  | _ => true

/-- A value counts as set unless it is nothing, false, zero or empty. -/
def isSet : Data → Bool
  | null => false
  | bool b => b
  | int n => n != 0
  | float x => !(x == 0.0)
  | text s => !s.isEmpty
  | temporal _ _ => true
  | list xs => !xs.isEmpty
  | object fs => !fs.isEmpty

mutual

/-- The value as a message cites it, texts between quotes. -/
def quoted : Data → String
  | null => "None"
  | bool b => if b then "True" else "False"
  | int n => toString n
  | float x => Decimal.text x
  | text s => Text.quoted s
  | temporal _ written => written
  | list xs => "[" ++ ", ".intercalate (quotedItems xs) ++ "]"
  | object fs => "\x7b" ++ ", ".intercalate (quotedFields fs) ++ "\x7d"

def quotedItems : List Data → List String
  | [] => []
  | x :: xs => quoted x :: quotedItems xs

def quotedFields : List (String × Data) → List String
  | [] => []
  | (k, v) :: fs => (Text.quoted k ++ ": " ++ quoted v) :: quotedFields fs

end

/-- The value on its own, a text without quotes. -/
def shown : Data → String
  | text s => s
  | d => quoted d

/-- What a value holds one after the other: items, characters or keys. -/
def items? : Data → Option (List Data)
  | list xs => some xs
  | text s => some (s.toList.map fun c => text (String.singleton c))
  | object fs => some (fs.map fun f => text f.1)
  | _ => none

def field? : Data → String → Option Data
  | object fs, k => Entries.get? fs k
  | _, _ => none

end Data
end Switchboard

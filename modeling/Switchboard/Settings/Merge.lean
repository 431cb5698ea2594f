import Switchboard.Fault

/-!
Merging settings. The override wins key by key; where both sides hold objects their keys are merged
in turn.
-/

namespace Switchboard.Settings

abbrev Fields := List (String × Data)

mutual

def merge (base : Fields) : Fields → Fields
  | [] => base
  | (k, v) :: rest => merge (Entries.put base k (mergeValue (Entries.get? base k) v)) rest

/-- Two objects are merged, anything else is replaced. -/
def mergeValue : Option Data → Data → Data
  | some (.object old), .object new => .object (merge old new)
  | _, new => new

end

/-- Merges data into settings; only objects can be merged. -/
def mergeData (base : Fields) : Data → Except Fault Fields
  | .object fs => .ok (merge base fs)
  | d => .error (.notAnObject d.kindName "items")

/-- Merges data into data. A list may stand in for the settings as long as nothing is written into
it. -/
def mergeAny (base override : Data) : Except Fault Data :=
  match base, override with
  | .object old, d => .object <$> mergeData old d
  | .list xs, .object [] => .ok (.list xs)
  | .list xs, .object _ => .error (.notWritable (.list xs))
  | .list _, d => .error (.notAnObject d.kindName "items")
  | d, _ => .error (.notAnObject d.kindName "copy")

/-- What lies at the end of a path of keys. -/
def lookup? : Data → List String → Option Data
  | d, [] => some d
  | d, k :: path => (d.field? k).bind fun v => lookup? v path

end Switchboard.Settings

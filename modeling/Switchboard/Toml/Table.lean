import Switchboard.Data
import Switchboard.Toml.Problem

/-!
Tables under construction. A value is put under a dotted key, and the tables on the way to it are
made as they are needed.
-/

namespace Switchboard.Toml

abbrev Table := List (String × Data)

namespace Table

/-- Changes the table at the end of a path. Missing tables on the way are made. With `enter` a list
of tables on the way is entered at its last table, without it a list is in the way. -/
def changeAt (enter : Bool) (change : Table → Except Problem Table) : Key → Table → Except Problem Table
  | [], table => change table
  | k :: path, table =>
    match Entries.get? table k with
    | none => do return Entries.put table k (.object (← changeAt enter change path []))
    | some (.object inner) => do return Entries.put table k (.object (← changeAt enter change path inner))
    | some (.list items) =>
      match items.getLast? with
      | some (.object inner) =>
        if enter then do
          let inner ← changeAt enter change path inner
          return Entries.put table k (.list (items.dropLast ++ [.object inner]))
        else .error .overwritten
      | _ => .error .overwritten
    | some _ => .error .overwritten

def add (taken : Problem) (k : String) (v : Data) (table : Table) : Except Problem Table :=
  if Entries.contains table k then .error taken else .ok (Entries.put table k v)

/-- Appends an empty table to the list under a key, which is made if it is missing. -/
def appendTable (k : String) (table : Table) : Except Problem Table :=
  match Entries.get? table k with
  | none => .ok (Entries.put table k (.list [.object []]))
  | some (.list items) => .ok (Entries.put table k (.list (items ++ [.object []])))
  | some _ => .error .overwritten

end Table

/-- The keys before the last one, and the last one. -/
def Key.split (key : Key) : Key × String := (key.dropLast, key.getLastD "")

def located {α : Type} (rest : List Char) : Except Problem α → Except Error α
  | .ok a => .ok a
  | .error problem => stop problem rest

/-- Tables and lists that are written out in one place cannot be added to from another one. -/
def isClosed : Data → Bool
  | .object _ => true
  | .list _ => true
  | _ => false

end Switchboard.Toml

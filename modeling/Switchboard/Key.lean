import Switchboard.Number

/-!
Keys: what something is kept under. Whatever is neither a list nor an object can be a key, and numbers
that are equal are one key, whatever their form. A register keeps the name under which a value was
first kept beside the value; `Register.get?_put` says what a write does to every look-up.
-/

namespace Switchboard

inductive Key where
  | nothing
  | text (s : String)
  | number (value : Number.Standing)
  /-- The undefined number, which equals nothing: it is known again by a number of its own. -/
  | undefined (serial : Nat)
  | temporal (kind : Temporal) (written : String)
deriving DecidableEq, Repr

namespace Key

def ofNumber (serial : Nat) (n : Number) : Key := n.standing?.elim (undefined serial) number

/-- The key that a value is; `serial` is for the undefined number. -/
def ofData (serial : Nat) (d : Data) : Except Fault Key :=
  match d with
  | .null => .ok nothing
  | .bool b => .ok (ofNumber serial (.flag b))
  | .int n => .ok (ofNumber serial (.whole n))
  | .float x => .ok (ofNumber serial (.decimal x))
  | .text s => .ok (text s)
  | .temporal kind written => .ok (temporal kind written)
  | .list _ => .error (.unusableKey d.kindName)
  | .object _ => .error (.unusableKey d.kindName)

/-- The undefined number counts from here when these keys are taken. -/
def freshSerial (taken : List Key) : Nat :=
  taken.foldl (fun n k => match k with
    | undefined serial => max n (serial + 1)
    | _ => n) 0

end Key

/-- A name as it is given, with the key that it is. -/
structure Handle where
  given : Data
  key : Key

namespace Handle

def ofText (s : String) : Handle := ⟨.text s, .text s⟩

def ofData (serial : Nat) (d : Data) : Except Fault Handle := (⟨d, ·⟩) <$> Key.ofData serial d

/-- What is nothing, zero or empty is no name. -/
def isSet (h : Handle) : Bool := h.given.isSet

def shown (h : Handle) : String := h.given.shown

end Handle

/-- Values under keys, each beside the name under which it was kept first. -/
abbrev Register (α : Type) := Entries Key (Data × α)

namespace Register

variable {α : Type}

def get? (r : Register α) (k : Key) : Option α := (Entries.get? r k).map Prod.snd

/-- Writes a value; the name stays that of the first write. -/
def put (r : Register α) (h : Handle) (v : α) : Register α :=
  Entries.put r h.key (((Entries.get? r h.key).map Prod.fst).getD h.given, v)

theorem get?_put (r : Register α) (h : Handle) (k : Key) (v : α) :
    get? (put r h v) k = if h.key = k then some v else get? r k := by
  by_cases hk : h.key = k <;> simp [get?, put, Entries.get?_put, hk]

/-- The values by their names. Of two names that read the same the later one counts. -/
def toData (r : Register α) (f : α → Data) : Data :=
  .object (Entries.ofPairs (r.map fun e => (e.2.1.shown, f e.2.2)))

/-- The number for the next undefined key. -/
def freshSerial (r : Register α) : Nat := Key.freshSerial (Entries.keys r)

end Register
end Switchboard

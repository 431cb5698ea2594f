import Switchboard.Argument
import Switchboard.Journal.Entry

/-!
The gate before the console. It is open to everything, or it lets only those entries pass that are
marked for display and urgent enough.
-/

namespace Switchboard.Journal

structure Gate where
  isOpen : Bool := false
  /-- The least level at which a marked entry passes. -/
  displayLevel : Level := .info
deriving DecidableEq, Repr

/-- An entry of this level, marked for display or not, passes the gate. -/
def Gate.admits (g : Gate) (marked : Bool) (level : Level) : Bool :=
  g.isOpen || (marked && decide (g.displayLevel ≤ level))

theorem Gate.admits_iff (g : Gate) (marked : Bool) (level : Level) :
    g.admits marked level = true ↔ g.isOpen = true ∨ (marked = true ∧ g.displayLevel ≤ level) := by
  simp [Gate.admits]

/-- A gate as it is asked for, by data that stays as it is. -/
structure GivenGate where
  isOpen : Data := .bool false
  displayLevel : Data := .int Level.info

namespace GivenGate

def taker : String := "DisplayFilter"

/-- A gate takes two arguments at most. -/
def ofArguments (d : Data) : Except Fault GivenGate := do
  match ← Argument.spread s!"{Channel.journal.name}.{taker}" d with
  | [] => return {}
  | [isOpen] => return { isOpen }
  | [isOpen, displayLevel] => return { isOpen, displayLevel }
  | ds => throw (.misfit (.tooManyArguments s!"{taker}.__init__" 3 (ds.length + 1)))

/-- An entry of this level, marked for display or not, passes the gate. An entry has its name looked up
by its level first; levels are compared only where that decides. -/
def admits (g : GivenGate) (marked : Bool) (level : Data) : Except Fault Bool := do
  let _ ← Argument.key level
  if g.isOpen.isSet then .ok true
  else if marked then Argument.atLeast level g.displayLevel
  else .ok false

end GivenGate

end Switchboard.Journal

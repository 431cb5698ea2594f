import Switchboard.Data
import Switchboard.Journal.Entry

/-!
Levels as they are given. A flag serves as a level too, as that of one or zero; it weighs the same as
the number and is shown as the flag that it is.
-/

namespace Switchboard.Journal

structure Rank where
  level : Level
  /-- The level was given as a flag. -/
  isFlag : Bool := false
deriving DecidableEq, Repr

namespace Rank

instance : Coe Level Rank := ⟨fun level => { level }⟩

def ofFlag (b : Bool) : Rank := ⟨b.toNat, true⟩

def toData (r : Rank) : Data := if r.isFlag then .bool (r.level != 0) else .int r.level

/-- The level that a value is, if it is one. -/
def ofData? : Data → Option Rank
  | .int n => some { level := n }
  | .bool b => some (ofFlag b)
  | _ => none

def label (r : Rank) : String :=
  if r.isFlag && r.level != 0 then s!"Level {r.toData.shown}" else r.level.label

end Rank
end Switchboard.Journal

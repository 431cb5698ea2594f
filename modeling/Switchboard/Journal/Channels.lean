import Switchboard.Entries
import Switchboard.Journal.Rank

/-!
The tree of channels and their levels. A channel comes into being when its name is first mentioned,
and then hangs below the nearest channel there is among the beginnings of its name that end before a
point. A channel without a level of its own has that of the channel above it.
-/

namespace Switchboard.Journal

/-- What there is at a name. -/
inductive ChannelNode where
  /-- A channel: its level, where zero is none, and the channel above it unless that is the root. -/
  | channel (level : Rank) (above : Option String)
  /-- No channel so far, but those below that looked for one here, in order. -/
  | place (below : List String)
deriving DecidableEq, Repr

structure ChannelTree where
  /-- The level of the root. -/
  root : Rank := Level.warning
  nodes : Entries String ChannelNode := []
deriving Repr

namespace ChannelTree

/-- The name of the root, which goes by the empty name as well. -/
def rootName : String := "root"

def isRoot (name : String) : Bool := name.isEmpty || name == rootName

def ownLevel (t : ChannelTree) (name : String) : Rank :=
  if isRoot name then t.root
  else match Entries.get? t.nodes name with
    | some (.channel level _) => level
    | _ => Level.unset

/-- The channel above a channel unless that is the root. -/
def above? (t : ChannelTree) (name : String) : Option String :=
  match Entries.get? t.nodes name with
  | some (.channel _ above) => above
  | _ => none

/-! ### New channels -/

/-- The beginnings of a name that end before a point, longest first; the name is read backwards. The
character before such a point belongs to the beginning, be it a point itself. -/
def ancestorsBack : List Char → List String
  | '.' :: c :: rest => String.ofList (c :: rest).reverse :: ancestorsBack rest
  | _ :: rest => ancestorsBack rest
  | [] => []

/-- The names at which a channel looks for the one above it, nearest first. -/
def ancestors (name : String) : List String := ancestorsBack name.toList.reverse

/-- Enters a new channel at the empty places on its way up, and finds the channel where that ends. -/
def climb (name : String) : List String → ChannelTree → Option String × ChannelTree
  | [], t => (none, t)
  | a :: rest, t =>
    match Entries.get? t.nodes a with
    | some (.channel _ _) => (some a, t)
    | some (.place below) =>
      climb name rest { t with nodes := Entries.put t.nodes a (.place (below ++ [name])) }
    | none => climb name rest { t with nodes := Entries.put t.nodes a (.place [name]) }

/-- Hangs a channel below a new one, unless the name of the channel above it so far begins with the
new name. Names are compared and not places, which spares the channels below the root the beginnings
of its name. -/
def takeOver (name : String) (t : ChannelTree) (c : String) : ChannelTree :=
  if name.toList.isPrefixOf ((t.above? c).getD rootName).toList then t
  else { t with nodes := Entries.put t.nodes c (.channel (t.ownLevel c) (some name)) }

def enter (t : ChannelTree) (name : String) : ChannelTree :=
  let (above, t) := climb name (ancestors name) t
  { t with nodes := Entries.put t.nodes name (.channel Level.unset above) }

/-- Makes the channel of a name if there is none. -/
def mention (t : ChannelTree) (name : String) : ChannelTree :=
  if isRoot name then t
  else match Entries.get? t.nodes name with
    | some (.channel _ _) => t
    | some (.place below) => (below.foldl (takeOver name) t).enter name
    | none => t.enter name

def setLevel (t : ChannelTree) (name : String) (l : Rank) : ChannelTree :=
  if isRoot name then { t with root := l }
  else
    let t := t.mention name
    { t with nodes := Entries.put t.nodes name (.channel l (t.above? name)) }

theorem ownLevel_setLevel (t : ChannelTree) (name : String) (l : Rank) :
    (t.setLevel name l).ownLevel name = l := by
  by_cases h : isRoot name = true <;> simp [setLevel, ownLevel, h]

/-! ### The level that counts -/

/-- The level of the root, plainly unset if it is none. -/
def rootLevel (t : ChannelTree) : Rank := if t.root.level = Level.unset then Level.unset else t.root

/-- The first level on the way up, which takes no more than so many channels. -/
def levelUp (t : ChannelTree) : Nat → String → Rank
  | 0, _ => t.rootLevel
  | n + 1, name =>
    if (t.ownLevel name).level ≠ Level.unset then t.ownLevel name
    else match t.above? name with
      | some above => levelUp t n above
      | none => t.rootLevel

/-- The level that counts for a channel. The channel above has the shorter name, so that no way up is
longer than the name at which it begins. -/
def effective (t : ChannelTree) (name : String) : Rank := t.levelUp name.length name

/-- Records at no level above zero are off everywhere. -/
def admits (t : ChannelTree) (name : String) (l : Level) : Bool :=
  decide (Level.unset < l) && decide ((t.effective name).level ≤ l)

end ChannelTree
end Switchboard.Journal

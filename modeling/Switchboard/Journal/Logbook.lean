import Switchboard.Journal.Channels
import Switchboard.Journal.Gate
import Switchboard.Journal.LevelName
import Switchboard.Journal.LogFile
import Switchboard.Journal.Record
import Switchboard.Step

/-!
The logbook: the tree of channels, and outlets at the root that records are written to. Two outlets,
the console and a file, are the logbook's own and are remembered as such; others may have been
attached by someone else and are left alone. An outlet is known by its number, which is never given
twice.
-/

namespace Switchboard.Journal

/-- The outlet to the terminal. -/
structure Console where
  level : Level
  pattern : String
  gate : Gate
deriving DecidableEq, Repr

/-- The outlet to a file. -/
structure FileOutlet where
  level : Level
  pattern : String
  file : LogFile
deriving DecidableEq, Repr

inductive Destination where
  | console (c : Console)
  | file (f : FileOutlet)
  /-- An outlet that someone else attached, by the name of its kind. -/
  | foreign (kind : String)
deriving DecidableEq, Repr

def Destination.kind : Destination → String
  | console _ => "StreamHandler"
  | file _ => "RotatingFileHandler"
  | foreign kind => kind

structure Outlet where
  number : Nat
  destination : Destination
deriving DecidableEq, Repr

/-- What the logbook remembers of its set-up. -/
structure Setup where
  isDone : Bool := false
  console : Option Outlet := none
  file : Option Outlet := none
  /-- The path of the journal file. -/
  path : Option String := none
deriving Repr

structure Logbook where
  channels : ChannelTree := {}
  /-- The outlets at the root, in order. -/
  outlets : List Outlet := []
  /-- The number of the next outlet. -/
  next : Nat := 0
  setup : Setup := {}
  storage : Storage
  /-- What was written to the terminal. -/
  terminal : String := ""

namespace Logbook

/-! ### Outlets -/

def attach (b : Logbook) (d : Destination) : Outlet × Logbook :=
  let o : Outlet := ⟨b.next, d⟩
  (o, { b with outlets := b.outlets ++ [o], next := b.next + 1 })

def attachForeign (b : Logbook) (kind : String) : Logbook := (b.attach (.foreign kind)).2

def detach (b : Logbook) (o : Option Outlet) : Logbook :=
  match o with
  | none => b
  | some o => { b with outlets := b.outlets.filter fun p => p.number != o.number }

/-- The logbook without its own outlets, which the set-up goes on remembering. -/
def withdrawn (b : Logbook) : Logbook := (b.detach b.setup.console).detach b.setup.file

/-- The logbook once its journal file is closed, if there is one, and what kept the file from taking its last
lines. -/
def closed (b : Logbook) : Option StorageError × Logbook :=
  match b.setup.file with
  | some ⟨_, .file f⟩ =>
    let closing := b.storage.close f.file.route
    (closing.1, { b with storage := closing.2 })
  | _ => (none, b)

/-- Takes the logbook's own outlets away, closes the file and forgets the set-up. A file that cannot be closed
stops this before anything is forgotten. -/
def clear : Step Logbook Unit := do
  let b ← Step.get
  let (error?, b) := b.withdrawn.closed
  Step.put b
  match error? with
  | some e => Step.fail (.storage e)
  | none => Step.put { b with setup := {} }

def print (b : Logbook) (text : String) : Logbook := { b with terminal := b.terminal ++ text }

/-! ### Writing -/

/-- The line that a console shows of a record, if it shows any. -/
def Console.line? (c : Console) (r : Record) : Option String :=
  if decide (c.level ≤ r.level.level) && c.gate.admits r.isMarked r.level.level then r.line? c.pattern else none

/-- The line that a file gets of a record, if it gets any. -/
def FileOutlet.line? (f : FileOutlet) (r : Record) : Option String :=
  if f.level ≤ r.level.level then r.line? f.pattern else none

def writeTo (r : Record) (b : Logbook) : Destination → Logbook
  | .console c => match Console.line? c r with
    | some line => b.print line
    | none => b
  | .file f => match FileOutlet.line? f r with
    | some line => { b with storage := f.file.addLine b.storage line }
    | none => b
  | .foreign _ => b

def deliver (b : Logbook) (r : Record) : Logbook :=
  b.outlets.foldl (fun b o => writeTo r b o.destination) b

/-- Makes the channel of a name if there is none. -/
def mention (b : Logbook) (channel : String) : Logbook := { b with channels := b.channels.mention channel }

/-- Writes a record that the level of its channel admits, and answers with it. -/
def log (r : Record) : Step Logbook (Option Record) := do
  Step.modify (·.mention r.channel)
  let b ← Step.get
  if b.channels.admits r.channel r.level.level then
    match r.clash? with
    | some name => Step.fail (.reservedField name)
    | none => do
      Step.modify (·.deliver r)
      return some r
  else return none

/-! ### Levels -/

/-- The level of a channel for which the settings name one that is not known. -/
def defaultComponentLevel : Level := .info

/-- Gives a channel a level of its own and answers with it. -/
def setComponentLevel (name : String) (l : LevelSpec) : Step Logbook Rank := do
  Step.modify fun b => { b with channels := b.channels.setLevel name (l.resolve defaultComponentLevel) }
  let b ← Step.get
  return b.channels.ownLevel name

/-- The levels of a channel, its own and the one that counts. -/
def channelLevels (name : String) : Step Logbook (Rank × Rank) := do
  Step.modify (·.mention name)
  let b ← Step.get
  return (b.channels.ownLevel name, b.channels.effective name)

end Logbook
end Switchboard.Journal

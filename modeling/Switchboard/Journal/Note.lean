import Switchboard.Argument
import Switchboard.Journal.Logbook

/-!
Notes: records as they are asked for, in data that may turn out to be of no use. What is of no use is
found in the order in which it is looked at, and what was done before that stays.
-/

namespace Switchboard.Journal

structure Note where
  channel : Data
  level : Data
  text : Data
  arguments : Data := .list []
  extra : Data := .null

namespace Note

/-- The name of a channel. What is empty stands for the root. -/
def channelName : Data → Except Fault String
  | .text s => .ok s
  | d => if d.isSet then .error (.misfit .notChannelName) else .ok ""

def levelOf (d : Data) : Except Fault Rank :=
  (Rank.ofData? d).elim (.error (.misfit .notLevel)) .ok

/-! ### Fields of the record's own -/

/-- A place in a list of so many items, which may be counted from the end. -/
def isPlace (n : Int) (length : Nat) : Bool := decide (-(length : Int) ≤ n ∧ n < length)

/-- What becomes of a list in place of fields: its items are looked up in it. -/
def fromList (length : Nat) : List Data → Except Fault Unit
  | [] => .ok ()
  | .int n :: rest => if isPlace n length then fromList length rest else .error .noPlace
  | .bool b :: rest => if b.toNat < length then fromList length rest else .error .noPlace
  | .text s :: _ =>
    .error (if Record.reserved.contains s then .reservedField s else .misfit (.notIndex "str"))
  | d :: _ => .error (if d.isKey then .misfit (.notIndex d.kindName) else .unusableKey d.kindName)

def extraFields : Data → Except Fault (List (String × Data))
  | .null => .ok []
  | .object fs => .ok fs
  | .text s => if s.isEmpty then .ok [] else .error (.misfit .notPosition)
  | .list ds => do
    fromList ds.length ds
    return []
  | d => .error (.noItems d.kindName)

/-- The fields with a mark for display, whatever they said before. -/
def displayed (extra : Data) : Except Fault Data :=
  match extra with
  | .object fs => .ok (.object (Entries.put fs "display" (.bool true)))
  | d => if d.isSet then .error (.notWritable d) else .ok (.object [("display", .bool true)])

end Note

namespace Logbook

/-- The channel and the arguments of a note, which `taker` gets. -/
def prepare (taker : String) (n : Note) : Step Logbook (String × List Data) := do
  let channel ← Step.ofExcept (Note.channelName n.channel)
  Step.modify (·.mention channel)
  let arguments ← Step.ofExcept (Argument.spread taker n.arguments)
  return (channel, arguments)

/-- Makes a record of a note, unless its level keeps it out. -/
def settle (channel : String) (arguments : List Data) (n : Note) : Step Logbook (Option Record) := do
  let level ← Step.ofExcept (Note.levelOf n.level)
  let b ← Step.get
  if b.channels.admits channel level.level then do
    let extra ← Step.ofExcept (Note.extraFields n.extra)
    log { channel, level, text := n.text, arguments, extra }
  else return none

def note (n : Note) : Step Logbook (Option Record) := do
  let (channel, arguments) ← prepare "logging.Logger.log" n
  settle channel arguments n

def noteDisplay (n : Note) : Step Logbook (Option Record) := do
  let (channel, arguments) ← prepare s!"{Channel.journal.name}.log_display" n
  let extra ← Step.ofExcept (Note.displayed n.extra)
  settle channel arguments { n with extra }

/-! ### Levels -/

/-- Gives a channel a level of its own and answers with it. -/
def noteLevel (component level : Data) : Step Logbook Rank := do
  let channel ← Step.ofExcept (Note.channelName component)
  Step.modify (·.mention channel)
  let level ← Step.ofExcept (LevelSpec.ofData level)
  setComponentLevel channel level

/-- The levels of channels, each with the one that counts for it. -/
def noteLevels (channels : Data) : Step Logbook (List (Rank × Rank)) := do
  let names ← Step.ofExcept (Argument.items channels)
  Step.each (fun d => do channelLevels (← Step.ofExcept (Note.channelName d))) names

end Logbook
end Switchboard.Journal

import Switchboard.Journal.Storage

/-!
Journal files that do not grow without end. Before a line would bring a file to its size limit, the
file is set aside under its first backup name, older backups moving up by one, and a new file is
begun. Without backups the file goes on growing. What stands in the way of a backup and cannot be
removed stops this; what was moved until then stays where it is. A device is never set aside.
-/

namespace Switchboard.Journal

structure LogFile where
  /-- The direct route of the file. -/
  route : Route
  /-- The size in bytes that the file stays below; zero for no limit. -/
  limit : Nat
  backups : Nat
deriving DecidableEq, Repr

namespace LogFile

/-- The route of a backup; number 1 is the newest. -/
def backup (f : LogFile) (n : Nat) : Route :=
  let name := f.route.getLastD ""
  f.route.dropLast ++ [s!"{name}.{n}"]

/-- The line would bring the file to its limit. A line counts by characters, the file by bytes. -/
def isFull (f : LogFile) (s : Storage) (line : String) : Bool :=
  0 < f.limit && (s.device? f.route).isNone && f.limit ≤ (s.content f.route).utf8ByteSize + line.length

/-- Moves something that is there to the place of something else. A folder does not give way, and the
name may be too long; the error is the storage as it is then. -/
def replace (s : Storage) (source target : Route) : Except Storage Storage :=
  match s.node? source, s.node? target with
  | none, _ => .ok s
  | some _, some .folder => .error s
  | some _, _ =>
    let s := s.remove target
    if s.canHold target then .ok (s.rename source target) else .error s

/-- Moves the first `n` backups up by one, the oldest first. -/
def moveBackups (f : LogFile) : (n : Nat) → Storage → Except Storage Storage
  | 0, s => .ok s
  | n + 1, s => do moveBackups f n (← replace s (f.backup (n + 1)) (f.backup (n + 2)))

def turn (f : LogFile) (s : Storage) : Except Storage Storage :=
  if f.backups = 0 then .ok s
  else do
    let s ← f.moveBackups (f.backups - 1) s
    let s ← replace s f.route (f.backup 1)
    return if (s.node? f.route).isNone then s.put f.route (.file "") else s

/-- Adds a line, the line end included. The line is lost if the file cannot be set aside. -/
def addLine (f : LogFile) (s : Storage) (line : String) : Storage :=
  match if f.isFull s line then f.turn s else .ok s with
  | .ok s => s.append f.route line
  | .error s => s

end LogFile
end Switchboard.Journal

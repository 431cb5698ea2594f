import Switchboard.Entries
import Switchboard.Text.Quoted

/-!
The place where journal files are kept: a tree of folders and files below a root. A route leads from
the root to a file or folder by names, `..` leading back; every name but the last has to be that of a
folder. A route may also begin at the top, outside of the root. Nothing but the folders in which the
root lies and a few devices are there at first. A device keeps nothing of what is written to it, and a full
one takes nothing: short lines for it are held back until the file is closed, which fails then.
-/

namespace Switchboard.Journal

/-- Names on the way from the root, or from the top if the first of them is the mark of the top. -/
abbrev Route := List String

namespace Route

/-- Splits at slashes. `name` holds what was read of the current name, backwards. -/
def split (name : List Char) : List Char → List (List Char)
  | [] => [name.reverse]
  | c :: rest => if c == '/' then name.reverse :: split [] rest else split (c :: name) rest

/-- The names in a written route; empty names and single points lead nowhere. -/
def ofText (s : String) : Route :=
  ((split [] s.toList).map String.ofList).filter fun name => !name.isEmpty && name != "."

/-- The mark of the top with which a written route begins. Two slashes are not the same as one, three
and more are. -/
def topMark? : List Char → Option String
  | '/' :: '/' :: '/' :: _ => some "/"
  | '/' :: '/' :: _ => some "//"
  | '/' :: _ => some "/"
  | _ => none

def isTopMark (name : String) : Bool := name == "/" || name == "//"

/-- The route begins at the top. -/
def isOutside (r : Route) : Bool := r.head?.any isTopMark

/-- Where a written route leads from a folder. -/
def fromFolder (folder : Route) (s : String) : Route :=
  match topMark? s.toList with
  | some mark => mark :: ofText s
  | none => folder ++ ofText s

end Route

inductive Node where
  | folder
  | file (content : String)
  | device (isFull : Bool)
deriving DecidableEq, Repr

/-- Why something cannot be done in the tree. -/
inductive Obstacle where
  | notFound
  | exists
  | notFolder
  | isFolder
  | nameTooLong
  /-- A name holds the character that ends names. -/
  | endMark
  | noSpace
deriving DecidableEq, Repr

/-- An obstacle and the path where it was met. -/
structure StorageError where
  obstacle : Obstacle
  path : String
deriving DecidableEq, Repr

def StorageError.message (e : StorageError) : String :=
  match e.obstacle with
  | .notFound => s!"[Errno 2] No such file or directory: {Text.quoted e.path}"
  | .exists => s!"[Errno 17] File exists: {Text.quoted e.path}"
  | .notFolder => s!"[Errno 20] Not a directory: {Text.quoted e.path}"
  | .isFolder => s!"[Errno 21] Is a directory: {Text.quoted e.path}"
  | .nameTooLong => s!"[Errno 36] File name too long: {Text.quoted e.path}"
  | .endMark => "embedded null byte"
  | .noSpace => "[Errno 28] No space left on device"

structure Storage where
  /-- The path of the root. -/
  root : String
  /-- The folder in which the root lies, by its direct route from the top. -/
  parent : Route := ["/"]
  /-- The home that a name with a tilde in front stands for, if there is one. Unless it is said where homes
  lie, such a name is like any other. -/
  homes : String → Option Route := fun name => some [name]
  /-- The devices, by their names on the way from the top, and whether they are full. -/
  devices : Entries Route Bool := [(["dev", "null"], false), (["dev", "full"], true)]
  /-- Everything below the root or outside of it, by its direct route. -/
  nodes : Entries Route Node := []
  /-- Files of which lines are held back, by their direct routes. -/
  held : List Route := []

namespace Storage

/-! ### Routes -/

/-- One step from a place. The top leads back to itself. -/
def step (s : Storage) (here : Route) (name : String) : Route :=
  if name != ".." then here ++ [name]
  else if here.isEmpty then s.parent
  else if here.length = 1 && here.isOutside then here
  else here.dropLast

def direct (s : Storage) (r : Route) : Route := r.foldl s.step []

/-- The folder that a text names, which may begin with the name of a home. -/
def folder? (s : Storage) (written : String) : Option Route :=
  match Route.topMark? written.toList, Route.ofText written with
  | none, first :: rest =>
    if first.toList.head? == some '~' then (s.homes first).map (· ++ rest) else some (first :: rest)
  | _, r => some r

def path (s : Storage) (r : Route) : String :=
  match r with
  | [] => s.root
  | first :: rest =>
    if Route.isTopMark first then first ++ "/".intercalate rest else "/".intercalate (s.root :: r)

/-- The device at a direct route: whether it is full. -/
def device? (s : Storage) (direct : Route) : Option Bool :=
  if direct.isOutside then Entries.get? s.devices (direct.drop 1) else none

/-- The root, the top, what lies between them and what lies above devices are folders that are always there. -/
def isGiven (s : Storage) (direct : Route) : Bool :=
  direct.isPrefixOf s.parent ||
    (direct.isOutside && (direct.length = 1 || s.devices.any fun e => (direct.drop 1).isPrefixOf e.1))

def node? (s : Storage) (direct : Route) : Option Node :=
  match s.device? direct with
  | some isFull => some (.device isFull)
  | none => if s.isGiven direct then some .folder else Entries.get? s.nodes direct

def put (s : Storage) (direct : Route) (n : Node) : Storage :=
  { s with nodes := Entries.put s.nodes direct n }

def remove (s : Storage) (direct : Route) : Storage :=
  { s with nodes := s.nodes.filter fun e => e.1 != direct }

/-- Puts one beginning of a route in the place of another. -/
def rebase (source target r : Route) : Route :=
  if source.isPrefixOf r then target ++ r.drop source.length else r

/-- Gives a file or a folder another name. What is below a folder goes with it. -/
def rename (s : Storage) (source target : Route) : Storage :=
  { s with nodes := s.nodes.map fun e => (rebase source target e.1, e.2) }

/-! ### Looking something up -/

def nameLimit : Nat := 255

def pathLimit : Nat := 4095

/-- The direct route to where a route leads from a folder. -/
def walk (s : Storage) (here : Route) : Route → Except Obstacle Route
  | [] => .ok here
  | name :: rest =>
    let next := s.step here name
    if nameLimit < name.utf8ByteSize then .error .nameTooLong
    else if rest.isEmpty then .ok next
    else match s.node? next with
      | none => .error .notFound
      | some .folder => walk s next rest
      | some _ => .error .notFolder

def locate (s : Storage) (r : Route) : Except Obstacle Route :=
  if r.any fun name => name.toList.any (· == '\x00') then .error .endMark
  else if pathLimit < (s.path r).utf8ByteSize then .error .nameTooLong
  else s.walk [] r

/-- Something could stand at a route. -/
def canHold (s : Storage) (r : Route) : Bool := (s.locate r).toOption.isSome

def isFolder (s : Storage) (r : Route) : Bool :=
  match s.locate r with
  | .ok direct => s.node? direct == some .folder
  | .error _ => false

/-! ### Folders -/

def makeFolder (s : Storage) (r : Route) : Except Obstacle Storage := do
  let direct ← s.locate r
  match s.node? direct with
  | some _ => throw .exists
  | none => return s.put direct .folder

/-- A folder that could not be made may be there already. -/
def unlessFolder (s : Storage) (r : Route) (o : Obstacle) : Option StorageError × Storage :=
  if s.isFolder r then (none, s) else (some ⟨o, s.path r⟩, s)

/-- Makes a folder unless it is there. The route is given backwards, so that the folders on the way
to one that is missing can be made first. What was made before an obstacle stays. -/
def ensureFolderBack (s : Storage) : List String → Option StorageError × Storage
  | [] => (none, s)
  | name :: parents =>
    let r := (name :: parents).reverse
    match s.makeFolder r with
    | .ok s => (none, s)
    | .error .notFound =>
      match s.ensureFolderBack parents with
      | (some e, s) => (some e, s)
      | (none, s) => match s.makeFolder r with
        | .ok s => (none, s)
        | .error o => s.unlessFolder r o
    | .error o => s.unlessFolder r o

/-- Makes a folder and the folders on the way to it, unless they are there. -/
def ensureFolder (s : Storage) (r : Route) : Option StorageError × Storage :=
  s.ensureFolderBack r.reverse

/-! ### Files -/

/-- The direct route of the file at a route, which is made if it is missing. -/
def openFile (s : Storage) (r : Route) : Except StorageError (Route × Storage) :=
  match s.locate r with
  | .error o => .error ⟨o, s.path r⟩
  | .ok direct => match s.node? direct with
    | some .folder => .error ⟨.isFolder, s.path r⟩
    | some _ => .ok (direct, s)
    | none => .ok (direct, s.put direct (.file ""))

def content (s : Storage) (direct : Route) : String :=
  match s.node? direct with
  | some (.file content) => content
  | _ => ""

/-- The most bytes of a line that are gathered before they are passed on. -/
def bufferSize : Nat := 4096

/-- Adds a line to a file that is open. What a full device does not take is held back if it was gathered, and
lost at once if it was passed on as it is. -/
def append (s : Storage) (direct : Route) (text : String) : Storage :=
  match s.node? direct with
  | some (.device isFull) =>
    if isFull && decide (text.utf8ByteSize ≤ bufferSize) then { s with held := direct :: s.held } else s
  | _ => s.put direct (.file (s.content direct ++ text))

/-- Closes a file. Lines that were held back find no room now either and are lost. -/
def close (s : Storage) (direct : Route) : Option StorageError × Storage :=
  if s.held.contains direct then (some ⟨.noSpace, s.path direct⟩, { s with held := s.held.filter (· != direct) })
  else (none, s)

/-- Writes a file in one go. -/
def write (s : Storage) (r : Route) (text : String) : Except StorageError Storage := do
  let (direct, s) ← s.openFile r
  match s.node? direct with
  | some (.device isFull) => if isFull then throw ⟨.noSpace, s.path r⟩ else return s
  | _ => return s.put direct (.file text)

/-- A text as it is read back: every end of a line is the same mark. -/
def withPlainEnds : List Char → List Char
  | '\r' :: '\n' :: rest => '\n' :: withPlainEnds rest
  | '\r' :: rest => '\n' :: withPlainEnds rest
  | c :: rest => c :: withPlainEnds rest
  | [] => []

/-- Every file below the root with its path and what is read from it. -/
def files (s : Storage) : List (String × String) :=
  s.nodes.filterMap fun e => match e.2 with
    | .file content =>
      if Route.isOutside e.1 then none
      else some (s.path e.1, String.ofList (withPlainEnds content.toList))
    | _ => none

end Storage
end Switchboard.Journal

import Switchboard.Journal.Logbook
import Switchboard.Settings.Sections

/-!
Setting up the logbook. The old outlets are taken away first, so that a set-up which stops half-way
leaves the logbook not set up, with what was attached until then. A journal file that cannot be
opened is no reason to stop: a warning is printed and there is no file. An old one that cannot be closed is.
-/

namespace Switchboard.Journal

/-- Settings as they are handed in: as such, or as data to be read. -/
inductive SettingsInput where
  | settings (s : JournalSettings)
  | data (d : Data)

def SettingsInput.read : SettingsInput → Except Fault JournalSettings
  | settings s => .ok s
  | data d => JournalSettings.reader.readFields .settings "LoggingConfig" d

def defaultApplication : Data := .text "llmrelay"

namespace Logbook

def checkPattern (pattern : String) : Except Fault Unit :=
  if pattern.isEmpty || Pattern.isValid pattern then .ok () else .error (.invalidPattern pattern)

/-! ### Outlets by the settings -/

def levelOf (name : String) (default : Level) : Level := (LevelSpec.known? name).getD default

/-- The gate before the console decides alone if the console as such is off. -/
def consoleOf (s : JournalSettings) : Console :=
  { level := if s.consoleEnabled then levelOf s.consoleLevel .warning else .debug
    pattern := s.consolePattern
    gate := ⟨s.consoleEnabled, levelOf s.displayLevel .info⟩ }

def attachConsole (s : JournalSettings) : Step Logbook Unit := do
  Step.ofExcept (checkPattern s.consolePattern)
  Step.modify fun b =>
    let (o, b) := b.attach (.console (consoleOf s))
    { b with setup := { b.setup with console := some o } }

/-- Why there is no journal file. -/
inductive FileProblem where
  | name (p : Template.Problem)
  | storage (e : StorageError)

def FileProblem.message : FileProblem → String
  | name p => p.message
  | storage e => e.message

/-- A name that asks for what a field does not have is a mistake of the caller. -/
def isMistake : Template.Problem → Bool
  | .noPosition _ => true
  | .noAttribute _ _ => true
  | .notIndexed _ => true
  | .noCharacter => true
  | .noItem _ => true
  | .notAnIndex => true
  | .notAnItem _ => true
  | .notGeneric _ => true
  | .noLayout _ => true
  | .layout .tooWide => true
  | .layout .characterRange => true
  | .layout .tooLarge => true
  | _ => false

/-- The folder for the journal file. A home that there is not stops the set-up. -/
def findFolder (s : JournalSettings) : Step Logbook Route := do
  let b ← Step.get
  match b.storage.folder? s.fileDirectory with
  | some folder => return folder
  | none => Step.fail .unknownHome

/-- The name of the journal file. -/
def nameOf (s : JournalSettings) (app : Data) : Except Template.Problem String :=
  Template.write s.fileName [("app", .datum app)]

/-- Opens the journal file in a folder that is there: its route as it is shown, and its direct route. -/
def openNamed (s : JournalSettings) (folder : Route) (app : Data) :
    Step Logbook (Except FileProblem (Route × Route)) := do
  let b ← Step.get
  match nameOf s app with
  | .error p => if isMistake p then Step.fail (.unusableFileName p) else return .error (.name p)
  | .ok name =>
    let shown := Route.fromFolder folder name
    match b.storage.openFile (b.storage.direct shown) with
    | .error e => return .error (.storage e)
    | .ok (direct, storage) => do
      Step.modify fun b => { b with storage }
      return .ok (shown, direct)

/-- Makes a folder unless it is there, and opens the journal file in it. -/
def openFile (s : JournalSettings) (folder : Route) (app : Data) :
    Step Logbook (Except FileProblem (Route × Route)) := do
  let b ← Step.get
  let (error?, storage) := b.storage.ensureFolder folder
  Step.modify fun b => { b with storage }
  match error? with
  | some e => return .error (.storage e)
  | none => openNamed s folder app

/-- Attaches the journal file that was opened. -/
def attachOpened (s : JournalSettings) (shown route : Route) : Step Logbook Unit := do
  Step.ofExcept (checkPattern s.filePattern)
  Step.modify fun b =>
    let file : LogFile := ⟨route, s.rotationBytes, s.rotationBackups⟩
    let (o, b) := b.attach (.file ⟨levelOf s.fileLevel .debug, s.filePattern, file⟩)
    { b with setup := { b.setup with file := some o, path := some (b.storage.path shown) } }

/-- Attaches the journal file, or prints why there is none. -/
def attachFile (s : JournalSettings) (app : Data) : Step Logbook Unit := do
  let folder ← findFolder s
  match ← openFile s folder app with
  | .error problem =>
    Step.modify fun b =>
      let folder := b.storage.path folder
      b.print s!"Warning: Cannot set up log file in {folder}: {problem.message}\n"
  | .ok (shown, route) => attachOpened s shown route

/-! ### The whole set-up -/

/-- Takes the old outlets away and lets everything through to the new ones. -/
def restart : Step Logbook Unit := do
  clear
  Step.modify fun b => { b with channels := b.channels.setLevel ChannelTree.rootName Level.debug }

def applyComponents (s : JournalSettings) : Step Logbook Unit :=
  Step.modify fun b =>
    let apply (t : ChannelTree) (e : String × String) : ChannelTree :=
      t.setLevel e.1 (levelOf e.2 defaultComponentLevel : Level)
    { b with channels := s.components.foldl apply b.channels }

/-- Marks the set-up as done and says so in the journal. -/
def finish (app : Data) : Step Logbook (Option String) := do
  Step.modify fun b => { b with setup := { b.setup with isDone := true } }
  let b ← Step.get
  let shown := b.setup.path.getD "None"
  let _ ← log (.ofEntry (Channel.journal.debug s!"Logging configured for {app.shown}. Log file: {shown}"))
  return b.setup.path

/-- What is done once the settings are read. -/
def setUp (s : JournalSettings) (app : Data) : Step Logbook (Option String) := do
  restart
  attachConsole s
  if s.fileEnabled then attachFile s app
  applyComponents s
  finish app

/-- Sets the logbook up and answers with the path of the journal file. A logbook that is set up stays
as it is unless the caller insists. -/
def configure (app : Data) (input : SettingsInput) (force : Bool) : Step Logbook (Option String) := do
  let b ← Step.get
  if b.setup.isDone && !force then return b.setup.path
  else do
    let s ← Step.ofExcept input.read
    setUp s app

/-- Undoes the set-up, levels apart. -/
def reset : Step Logbook Unit := clear

end Logbook
end Switchboard.Journal

import Switchboard.Settings.Environment
import Switchboard.Settings.Sections
import Switchboard.Toml.Document

/-!
Loading settings. Four sources are merged, each overriding the ones before it: a settings file, a
given document, the environment, and overrides. What comes of it is read and checked once, at the
end.
-/

namespace Switchboard.Settings

open Journal

/-- A settings file: where it is said to be, and what it holds if it is there. -/
structure File where
  path : String
  content : Option (List UInt8)

structure Sources where
  file : Option File := none
  /-- A document of which the relay's section counts. -/
  document : Option Data := none
  environment : Entries String String := []
  overrides : Option Data := none

/-- The section of a file or document that holds the settings of the relay. -/
def sectionName : String := "relay"

def parse (path : String) (content : List UInt8) : Except Fault Fields :=
  match Text.Utf8.decode content with
  | .error flaw => .error (.undecodableSettings flaw)
  | .ok cs => match Toml.read (String.ofList cs) with
    | .ok table => .ok table
    | .error (.malformed message) => .error (.unreadableSettings path message)
    | .error (.tooManyDigits count) => .error (.integerTooLong count)

/-- The relay's section of a table, empty if there is none. -/
def relaySection (fields : Fields) : Data := (Entries.get? fields sectionName).getD (.object [])

/-- Settings from a file. A file that is missing sets nothing. -/
def ofFile (f : File) : Step Unit Fields :=
  match f.content with
  | none => do
    Step.write [Channel.settings.warning s!"Config file not found: {f.path}"]
    return []
  | some content => do
    let table ← Step.ofExcept (parse f.path content)
    let fields ← Step.ofExcept (mergeData [] (relaySection table))
    Step.write [Channel.settings.debug s!"Loaded relay config from {f.path}"]
    return fields

def mergeDocument (base : Fields) : Data → Except Fault Fields
  | .object fs => mergeData base (relaySection fs)
  | d => .error (.notAnObject d.kindName "get")

/-- Merges a source that may be left out. -/
def mergeIfGiven (merge : Fields → Data → Except Fault Fields) (base : Fields) :
    Option Data → Except Fault Fields
  | none => .ok base
  | some d => merge base d

def gathered (s : Sources) : Step Unit Fields := do
  let fields ← match s.file with
    | none => pure []
    | some f => ofFile f
  let fields ← Step.ofExcept (mergeIfGiven mergeDocument fields s.document)
  let fields ← overlay fields s.environment
  Step.ofExcept (mergeIfGiven mergeData fields s.overrides)

def ofFields (fields : Fields) : Except Fault Settings :=
  match Settings.reader (.object fields) with
  | .good settings => .ok settings
  | .bad issues => .error (.invalidSettings issues)

def load (s : Sources) : Step Unit Settings := do
  let fields ← gathered s
  Step.ofExcept (ofFields fields)

end Switchboard.Settings

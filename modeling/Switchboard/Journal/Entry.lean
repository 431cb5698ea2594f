/-!
Journal entries. Every operation of the library returns the entries it writes; delivering them is
left to the journal itself. Levels are numbers, five of which have a name of their own.
-/

namespace Switchboard.Journal

/-- The weight of an entry: the higher, the more urgent. -/
abbrev Level := Int

namespace Level

def unset : Level := 0
def debug : Level := 10
def info : Level := 20
def warning : Level := 30
def error : Level := 40
def critical : Level := 50

def label (l : Level) : String :=
  if l = unset then "NOTSET"
  else if l = debug then "DEBUG"
  else if l = info then "INFO"
  else if l = warning then "WARNING"
  else if l = error then "ERROR"
  else if l = critical then "CRITICAL"
  else s!"Level {l}"

def named : List (String × Level) :=
  [("CRITICAL", critical), ("FATAL", critical), ("ERROR", error), ("WARN", warning),
    ("WARNING", warning), ("INFO", info), ("DEBUG", debug), ("NOTSET", unset)]

end Level

/-- A line in the journal: how urgent it is, which part of the library writes it, and what it says. -/
structure Entry where
  level : Level
  channel : String
  text : String
deriving DecidableEq, Repr

/-- The part of the library that a channel belongs to. -/
inductive Channel where
  | catalog
  | settings
  | health
  | spending
  | routing
  | relay
  | journal
deriving DecidableEq, Repr

def Channel.name : Channel → String
  | catalog => "llmrelay.catalog.registry"
  | settings => "llmrelay.config.relay_config"
  | health => "llmrelay.observability.health"
  | spending => "llmrelay.observability.cost_manager"
  | routing => "llmrelay.routing.model_router"
  | relay => "llmrelay.orchestrator"
  | journal => "llmrelay.logging_config"

namespace Channel

def debug (c : Channel) (text : String) : Entry := ⟨.debug, c.name, text⟩
def info (c : Channel) (text : String) : Entry := ⟨.info, c.name, text⟩
def warning (c : Channel) (text : String) : Entry := ⟨.warning, c.name, text⟩
def error (c : Channel) (text : String) : Entry := ⟨.error, c.name, text⟩

end Channel
end Switchboard.Journal

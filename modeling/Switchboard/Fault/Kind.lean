import Switchboard.Fault

/-!
The library's own kinds of faults, so that a caller can tell a failed attempt from the exhaustion of
every candidate. Kinds are nested: a handler for one kind handles every kind below it.
-/

namespace Switchboard

inductive FaultKind where
  /-- Any fault of this library's own. -/
  | relay
  | settings
  | noModels
  /-- A failed attempt with one model. -/
  | provider
  /-- Every candidate has failed. -/
  | exhausted
deriving DecidableEq, Repr

namespace FaultKind

def all : List FaultKind := [relay, settings, noModels, provider, exhausted]

def name : FaultKind → String
  | relay => "LLMRelayError"
  | settings => "ConfigError"
  | noModels => "NoModelsRegisteredError"
  | provider => "ProviderError"
  | exhausted => "AllModelsFailedError"

def named? (name : String) : Option FaultKind := all.find? (·.name == name)

def ofData : Data → Except Fault FaultKind
  | .text name => (named? name).elim (.error (.unknownKind name)) .ok
  | d => .error (.misfit (.notFieldName d.kindName))

def ancestors : FaultKind → List FaultKind
  | relay => []
  | settings => [relay]
  | noModels => [settings, relay]
  | provider => [relay]
  | exhausted => [relay]

/-- The message of a fault of which nothing more is known. -/
def standardMessage : FaultKind → String
  | relay => "An unspecified error occurred in LLMRelay."
  | settings => "Configuration error."
  | noModels => Fault.noModels.message
  | provider => ProviderFailure.message {}
  | exhausted => Exhaustion.message {}

end FaultKind

/-- The kind of a fault, if it is one of this library's own. -/
def Fault.kind? : Fault → Option FaultKind
  | .invalidEntry _ _ => some .settings
  | .invalidSettings _ => some .settings
  | .unreadableSettings _ _ => some .settings
  | .duplicateModel _ => some .settings
  | .noModels => some .noModels
  | .exhausted _ => some .exhausted
  | _ => none

end Switchboard

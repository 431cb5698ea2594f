import Switchboard.Relay.State
import Switchboard.Settings.Load

/-!
Relays that are set up from settings.
-/

namespace Switchboard.Relay

variable {σ : Type}

/-- The catalog that the settings name, the packaged one if they name no models. -/
def catalogOf (s : Settings) : Step Unit Catalog :=
  if s.models.isEmpty then Catalog.default else Catalog.ofEntries (s.models.map .object)

/-- The health monitor that the settings ask for, without any records. -/
def monitorOf (s : HealthSettings) : Monitor :=
  { minSuccessRate := s.minSuccessRate, maxResponseMs := s.maxResponseMs, thresholds := s.thresholds }

/-- A relay with the catalog, the health rules and the budget of the settings. -/
def ofSettings (s : Settings) (clock : Clock) (line : σ) : Step Unit (Relay σ) := do
  let catalog ← catalogOf s
  let ledger ← Step.ofExcept (Ledger.opened s.budget.monthly clock.now)
  assemble catalog (monitorOf s.health) ledger clock line

/-- A relay with the given settings, or with those that the environment alone comes to. -/
def create (given : Option Settings) (environment : Entries String String) (clock : Clock) (line : σ) :
    Step Unit (Relay σ) := do
  let settings ← match given with
    | some s => pure s
    | none => Settings.load { environment }
  ofSettings settings clock line

end Switchboard.Relay

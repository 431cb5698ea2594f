import Switchboard.Catalog.Defaults
import Switchboard.Relay.Transport
import Switchboard.Routing.Selection
import Switchboard.Spending.Report

/-!
The state of a relay: its catalog, the health and spending it has seen, its request counters, the
clock, and the transport with every send that was made through it.
-/

namespace Switchboard

open Journal

/-- The time of day, and a stopwatch in seconds by which attempts are timed. -/
structure Clock where
  now : Instant
  stopwatch : Float := 0.0
deriving Inhabited

/-- How many chats were begun, and how they ended. -/
structure Counters where
  requests : Nat := 0
  byPrimary : Nat := 0
  byFallback : Nat := 0
  exhausted : Nat := 0
deriving DecidableEq, Repr, Inhabited

namespace Counters

/-- `part` of `whole`, nothing of nothing. -/
def rate (part whole : Nat) : Float :=
  if whole = 0 then 0.0 else (Binary64.quotient? part whole).getD 0.0

def toData (c : Counters) : Data := .object
  [("total_requests", .int c.requests), ("successful_primary", .int c.byPrimary),
    ("successful_fallback", .int c.byFallback), ("all_failed", .int c.exhausted),
    ("primary_success_rate", .float (rate c.byPrimary c.requests)),
    ("fallback_rate", .float (rate c.byFallback c.requests)),
    ("failure_rate", .float (rate c.exhausted c.requests))]

end Counters

/-- A send as the transport saw it. -/
structure Send where
  model : String
  messages : List Message
  temperature : Option Data

/-- Who chooses the first model: the fittest is chosen, or none ever is. -/
inductive Router where
  | fittest
  | mute
deriving DecidableEq, Repr

structure Relay (σ : Type) where
  catalog : Catalog
  monitor : Monitor
  ledger : Ledger
  clock : Clock
  /-- The state of the transport. -/
  line : σ
  router : Router := .fittest
  counters : Counters := {}
  /-- Every send so far, oldest first. -/
  sends : List Send := []

namespace Relay

variable {σ α : Type}

def onMonitor (step : Instant → Step Monitor α) : Step (Relay σ) α := fun r =>
  Step.on Relay.monitor (fun r m => { r with monitor := m }) (step r.clock.now) r

def onLedger (step : Instant → Step Ledger α) : Step (Relay σ) α := fun r =>
  Step.on Relay.ledger (fun r l => { r with ledger := l }) (step r.clock.now) r

/-- A query of the monitor that may fault. -/
def query (f : Monitor → Instant → Except Fault α) : Step (Relay σ) α := fun r =>
  ⟨f r.monitor r.clock.now, r, []⟩

def count (f : Counters → Counters) : Step (Relay σ) Unit :=
  Step.modify fun r => { r with counters := f r.counters }

/-! ### Models -/

def healthyModels : Step (Relay σ) (List Model) := fun r =>
  query (fun m now => m.filterAvailable now r.catalog.models) r

def recommendedModel (kind : String) : Step (Relay σ) (Option Model) := fun r =>
  query (fun m now => List.head? <$> Selection.recommended m kind r.catalog.models now) r

/-! ### Building a relay -/

/-- Puts a relay together; a relay without models is refused. -/
def assemble (catalog : Catalog) (monitor : Monitor) (ledger : Ledger) (clock : Clock) (line : σ) :
    Step Unit (Relay σ) :=
  if catalog.models.isEmpty then Step.fail .noModels
  else do
    Step.write [Channel.relay.info
      s!"Initialized relay orchestrator with {catalog.models.length} models, budget: ${Decimal.text ledger.monthlyBudget}/month"]
    return { catalog, monitor, ledger, clock, line }

/-- A relay over a catalog with standard health rules and a fresh ledger. -/
def ofCatalog (catalog : Catalog) (monthlyBudget : Float) (clock : Clock) (line : σ) :
    Step Unit (Relay σ) := do
  if catalog.models.isEmpty then Step.fail .noModels
  let ledger ← Step.ofExcept (Ledger.opened monthlyBudget clock.now)
  assemble catalog {} ledger clock line

end Relay
end Switchboard

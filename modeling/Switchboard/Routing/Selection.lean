import Switchboard.Routing.Fitness

/-!
Choosing a model for a task and ordering the others behind it. The choice goes by fitness, the
order of fallbacks by tier and health. Budgets influence which model comes first, never which ones
may be tried.
-/

namespace Switchboard.Selection

open Journal

/-- Models by descending fitness, those of equal fitness in their order. -/
def byFitness (scored : List Fitness) : List Fitness :=
  scored.mergeSort fun a b => decide (b.score ≤ a.score)

/-- Scores models for a task and orders them by fitness. -/
def rank (monitor : Monitor) (t : Task) (models : List Model) (now : Instant) :
    Step Ledger (List Fitness) := do
  let scored ← Step.each (Fitness.of monitor · t now) models
  return byFitness scored

def choiceEntries (f : Fitness) : List Entry :=
  [Channel.routing.debug s!"Selected model: {f.model.id} with fitness score: {Decimal.fixed 2 f.score}",
    Channel.routing.debug s!"Fitness breakdown: capability={Decimal.fixed 2 f.capability}, context={Decimal.fixed 2 f.context}, cost={Decimal.fixed 2 f.cost}, health={Decimal.fixed 2 f.health}"]

/-- The fittest of the available models. Where none is available the first model is chosen all the
same, so that there is something to try. -/
def route (monitor : Monitor) (t : Task) (models : List Model) (now : Instant) :
    Step Ledger (Option Model) :=
  match models with
  | [] => do
    Step.write [Channel.routing.warning "No models available for routing"]
    return none
  | first :: _ => do
    let available ← Step.ofExcept (monitor.filterAvailable now models)
    if available.isEmpty then
      Step.write [Channel.routing.warning
        s!"No healthy models available, falling back to first model: {first.id}"]
      return some first
    else
      let ranked ← rank monitor t available now
      match ranked with
      | [] => return none
      | best :: _ =>
        Step.write (choiceEntries best)
        return some best.model

/-- Models by ascending tier, then by descending health, then in their order. -/
def byTierThenHealth (monitor : Monitor) (models : List Model) : List Model :=
  models.mergeSort fun a b =>
    decide (a.tier < b.tier) || (a.tier == b.tier && decide (monitor.score b.key ≤ monitor.score a.key))

/-- The available models other than `primary`, best first. -/
def fallbackChain (monitor : Monitor) (primary : Model) (models : List Model) (now : Instant) :
    Except Fault (List Model) := do
  let available ← monitor.filterAvailable now models
  return byTierThenHealth monitor (available.filter fun m => m.id != primary.id)

/-- The available models with a use case that mentions the kind of task, best first. -/
def recommended (monitor : Monitor) (kind : String) (models : List Model) (now : Instant) :
    Except Fault (List Model) := do
  let available ← monitor.filterAvailable now models
  return byTierThenHealth monitor (available.filter (·.mentions kind))

end Switchboard.Selection

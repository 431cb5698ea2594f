import Switchboard.Health.Monitor
import Switchboard.Spending.Ledger
import Switchboard.Task

/-!
How well a model fits a task: a weighted sum of what it can do, how much context it has to spare,
what it costs and how healthy it is.
-/

namespace Switchboard

/-- The fitness of a model for one task, with the scores it is made of. -/
structure Fitness where
  model : Model
  score : Float
  capability : Float
  context : Float
  cost : Float
  health : Float
deriving Inhabited

namespace Dimension

/-- How much a dimension counts when a task asks for it. -/
def weight : Dimension → Float
  | reasoning => 40.0
  | creativity => 30.0
  | speed => 20.0
  | toolUse => 25.0
  | multimodal => 20.0
  | math => 15.0
  | multilingual => 10.0

end Dimension

namespace Fitness

def capabilityWeight : Float := 0.40
def contextWeight : Float := 0.15
def costWeight : Float := 0.25
def healthWeight : Float := 0.20

def total (capability context cost health : Float) : Float :=
  capability * capabilityWeight + context * contextWeight + cost * costWeight + health * healthWeight

def wanted (t : Task) : List Dimension := Dimension.all.filter t.asksFor

/-- The score where a task asks for nothing. -/
def middling : Float := 0.5

/-- The weighted average strength in the wanted dimensions, middling if there are none. -/
def capabilityScore (m : Model) (t : Task) : Float :=
  let (score, weights) := (wanted t).foldl
    (fun acc d => (acc.1 + m.capabilities.strength d * d.weight, acc.2 + d.weight)) (0.0, 0.0)
  if weights == 0.0 then middling else score / weights

/-- The exact quotient of two whole numbers as a double. -/
def ratio (a b : Nat) : Except Fault Float :=
  (Binary64.quotient? a b).elim (.error .quotientTooLarge) .ok

/-- One, with up to a fifth on top for spare context; less than one in proportion to what is
missing. -/
def contextScore (m : Model) (t : Task) : Except Fault Float :=
  if t.contextLength ≤ m.contextLength then do
    let spare ← ratio (m.contextLength - t.contextLength) t.contextLength
    return 1.0 + Binary64.least spare 1.0 * 0.2
  else do
    let missing ← ratio (t.contextLength - m.contextLength) t.contextLength
    return Binary64.greatest 0.0 (1.0 - Binary64.least missing 1.0)

/-- A quarter of the context is expected back as output. -/
def expectedOutput (t : Task) : Nat := t.contextLength / 4

/-- One less the price as a share of a hundred dollars per million tokens. -/
def priceScore (p : Pricing) : Float :=
  1.0 - Binary64.least ((p.input / 100.0 + p.output / 100.0) / 2.0) 1.0

/-- What is left of the cost score above the budget of the task. -/
def overBudget (cost budget : Float) : Float :=
  Binary64.greatest 0.0 (1.0 / Binary64.least (cost / budget) 2.0)

/-- Nothing if today's budget cannot bear the request; otherwise the cheaper the better. -/
def costScore (m : Model) (t : Task) (now : Instant) : Step Ledger Float := do
  let cost ← Step.ofExcept (m.pricing.estimate t.contextLength (expectedOutput t))
  let affordable ← Ledger.canAffordModel m t.contextLength (expectedOutput t) now
  if !affordable then return 0.0
  match t.maxBudget with
  | some budget => return if budget < cost then overBudget cost budget else priceScore m.pricing
  | none => return priceScore m.pricing

def of (monitor : Monitor) (m : Model) (t : Task) (now : Instant) : Step Ledger Fitness := do
  let capability := capabilityScore m t
  let context ← Step.ofExcept (contextScore m t)
  let cost ← costScore m t now
  let health := monitor.score m.key
  return ⟨m, total capability context cost health, capability, context, cost, health⟩

end Fitness
end Switchboard

import Switchboard.Spending.Ledger

/-!
Reports on spending: today's figures against the budget, warnings when a budget runs out, and
cheaper alternatives to a model. Reports block nothing.
-/

namespace Switchboard

open Journal

structure CostStatistics where
  dailySpend : Float
  dailyBudget : Float
  remainingDaily : Float
  monthlyBudget : Float
  projectedMonthly : Float
  monthlyRemaining : Float
  breakdown : Register Float

namespace CostStatistics

def toData (s : CostStatistics) : Data := .object
  [("daily_spend", .float s.dailySpend), ("daily_budget", .float s.dailyBudget),
    ("remaining_daily", .float s.remainingDaily), ("monthly_budget", .float s.monthlyBudget),
    ("projected_monthly", .float s.projectedMonthly), ("monthly_remaining", .float s.monthlyRemaining),
    ("model_breakdown", DayTotal.costData s.breakdown)]

end CostStatistics

inductive WarningLevel where
  | info
  | warning
  | critical
deriving DecidableEq, Repr

namespace WarningLevel

def name : WarningLevel → String
  | info => "info"
  | warning => "warning"
  | critical => "critical"

def all : List WarningLevel := [info, warning, critical]

def reader : Reader WarningLevel := Reader.oneOf (all.map name) fun s => all.find? (·.name == s)

end WarningLevel

structure BudgetWarning where
  level : WarningLevel
  message : String
deriving DecidableEq, Repr

namespace BudgetWarning

open Reader in
def reader : Reader BudgetWarning := record "BudgetWarning" fun fs =>
  BudgetWarning.mk <$> required "level" WarningLevel.reader fs <*> required "message" text fs

def toData (w : BudgetWarning) : Data := .object
  [("level", .text w.level.name), ("message", .text w.message)]

end BudgetWarning

namespace CostStatistics

def dailyPercent (s : CostStatistics) : Float := s.dailySpend / s.dailyBudget * 100.0

def monthlyPercent (s : CostStatistics) : Float := s.projectedMonthly / s.monthlyBudget * 100.0

def dollars (x : Float) : String := "$" ++ Decimal.fixed 2 x

/-- A warning from three quarters of the daily budget on, critical from nine tenths. -/
def dailyWarning (s : CostStatistics) : List BudgetWarning :=
  if 0.0 < s.dailyBudget then
    if 90.0 ≤ s.dailyPercent then
      [⟨.critical, s!"Daily budget nearly exhausted: {dollars s.dailySpend}/{dollars s.dailyBudget} ({Decimal.fixed 1 s.dailyPercent}%)"⟩]
    else if 75.0 ≤ s.dailyPercent then
      [⟨.warning, s!"Daily budget at {Binary64.truncate s.dailyPercent}%: {dollars s.dailySpend}/{dollars s.dailyBudget}"⟩]
    else []
  else []

/-- A warning from nine tenths of the monthly budget on, critical once all of it is spent. -/
def monthlyWarning (s : CostStatistics) : List BudgetWarning :=
  let figures := s!"{dollars s.projectedMonthly} (projected) vs {dollars s.monthlyBudget} (budget)"
  if 0.0 < s.monthlyBudget then
    if 100.0 ≤ s.monthlyPercent then
      [⟨.critical, s!"Projected monthly spend exceeds budget: {figures}"⟩]
    else if 90.0 ≤ s.monthlyPercent then
      [⟨.warning, s!"Projected monthly spend at {Binary64.truncate s.monthlyPercent}%: {figures}"⟩]
    else []
  else []

def warnings (s : CostStatistics) : List BudgetWarning := s.dailyWarning ++ s.monthlyWarning

end CostStatistics

namespace Ledger

/-- The month is projected as if every day cost as much as today. -/
def figures (l : Ledger) : CostStatistics :=
  let projected := l.spend * daysPerMonth
  { dailySpend := l.spend
    dailyBudget := l.dailyBudget
    remainingDaily := l.remaining
    monthlyBudget := l.monthlyBudget
    projectedMonthly := projected
    monthlyRemaining := l.monthlyBudget - projected
    breakdown := l.breakdown }

/-- The figures of today, which name every model by a text. -/
def statistics (now : Instant) : Step Ledger CostStatistics := do
  let s ← view figures now
  Step.ofExcept (refuse "CostStatistics" (nameIssues s.breakdown))
  return s

def budgetWarnings (now : Instant) : Step Ledger (List BudgetWarning) := do
  let s ← statistics now
  Step.write (s.warnings.map fun w => Channel.spending.warning s!"Budget {w.level.name}: {w.message}")
  return s.warnings

end Ledger

/-- The first of the ids whose model costs less per input token; unknown ids are passed over, and what
cannot be an id ends the search. -/
def cheaperAmong {σ : Type} (find : String → Option Model) (current : Model) :
    List Data → Step σ (Option String)
  | [] => return none
  | d :: rest => do
    let id ← Step.ofExcept (Argument.key d)
    if d.text? = some current.id then cheaperAmong find current rest
    else match d.text?.bind find with
      | none => do
        Step.write [Channel.spending.debug s!"Skipping unknown model in hierarchy: {id}"]
        cheaperAmong find current rest
      | some m =>
        if m.pricing.input < current.pricing.input then return some id else cheaperAmong find current rest

/-- A cheaper model than the current one, which only a ledger that can look models up knows. Whether
there is a current one matters as soon as there is an id to look up. -/
def cheaperAlternative {σ : Type} (lookup : Option (String → Option Model)) (current : Option Model)
    (ids : Data) : Step σ (Option String) :=
  match lookup with
  | none => do
    Step.write [Channel.spending.warning "cost_effective_alternative called without a catalog lookup"]
    return none
  | some find => do
    let ids ← Step.ofExcept (Argument.items ids)
    match current, ids with
    | some current, ids => cheaperAmong find current ids
    | none, [] => return none
    | none, _ => Step.fail (.notAnObject Data.null.kindName "id")

end Switchboard

import Switchboard.Argument
import Switchboard.Catalog.Model
import Switchboard.Decimal.Places
import Switchboard.Step

/-!
The ledger: what was spent today, in total and by model, and what earlier days cost. A day is closed
lazily, by the first operation that sees a later one; it then goes to the archive and the counts
start again from nothing.
-/

namespace Switchboard

open Journal

/-- A closed day. -/
structure DayTotal where
  day : Day
  spend : Float
  requests : Nat
  breakdown : Register Float
deriving Inhabited

structure Ledger where
  monthlyBudget : Float
  today : Day
  spend : Float := 0.0
  requests : Nat := 0
  breakdown : Register Float := []
  archive : List DayTotal := []
deriving Inhabited

namespace Ledger

def daysPerMonth : Float := 30.0

def overage : Float := 1.1

def archiveLimit : Nat := 30

/-- An empty ledger, on the day of `now`. -/
def opened (monthlyBudget : Float) (now : Instant) : Except Fault Ledger :=
  if monthlyBudget < 0.0 then .error (.negativeBudget monthlyBudget)
  else do
    let today ← now.day
    return { monthlyBudget, today }

def dailyBudget (l : Ledger) : Float := l.monthlyBudget / daysPerMonth

def dailyLimit (l : Ledger) : Float := l.dailyBudget * overage

/-! ### Closing days -/

def total (l : Ledger) : DayTotal := ⟨l.today, l.spend, l.requests, l.breakdown⟩

/-- The last `n` items. -/
def lastOf {α : Type} (n : Nat) (xs : List α) : List α := xs.drop (xs.length - n)

def closeDay (l : Ledger) (today : Day) : Ledger :=
  { l with
    today
    spend := 0.0
    requests := 0
    breakdown := []
    archive := lastOf archiveLimit (l.archive ++ [l.total]) }

def closingEntry (l : Ledger) (today : Day) : Entry :=
  Channel.spending.info
    s!"Daily cost rollover: archived ${Decimal.fixed 4 l.spend} for {l.today.text}, new day {today.text}"

/-- The place that a name which is no text has among others: a whole number that fits a machine word
stands for itself, as does a flag. -/
def placeOf (name : Data) : Place :=
  match name with
  | .bool b => .index b.toNat
  | .int n => if -(0x8000000000000000 : Int) ≤ n ∧ n ≤ 0x7FFFFFFFFFFFFFFF then .index n else .key name.quoted
  | d => .key d.shown

/-- Models whose names are no texts cannot be reported on. -/
def nameIssues (costs : Register Float) : List Issue :=
  costs.filterMap fun e => match e.2.1 with
    | .text _ => none
    | name => some ⟨[.key "model_breakdown", placeOf name, .key "[key]"], .notText⟩

/-- A day without a proper total cannot be archived. -/
def spendIssues (l : Ledger) : List Issue :=
  if Bound.admitsFloat l.spend (.atLeast 0) then []
  else [⟨[.key "total_spend"], .outside (.atLeast 0)⟩]

/-- A record of this title cannot be made if there are issues. -/
def refuse (title : String) (issues : List Issue) : Except Fault Unit :=
  if issues.isEmpty then .ok () else .error (.invalid title issues)

def checkTotal (l : Ledger) : Except Fault Unit :=
  refuse "DailyCost" (l.spendIssues ++ nameIssues l.breakdown)

/-- Closes the tracked day if `now` lies on a later one. -/
def advance (now : Instant) : Step Ledger Unit := fun l =>
  match now.day with
  | .error fault => ⟨.error fault, l, []⟩
  | .ok today =>
    if today ≤ l.today then ⟨.ok (), l, []⟩
    else match l.checkTotal with
      | .error fault => ⟨.error fault, l, []⟩
      | .ok () => ⟨.ok (), l.closeDay today, [l.closingEntry today]⟩

/-- Answers from the ledger as it stands on the day of `now`. -/
def view {α : Type} (f : Ledger → α) (now : Instant) : Step Ledger α := do
  advance now
  let l ← Step.get
  return f l

/-! ### Budget -/

def dailySpend (now : Instant) : Step Ledger Float := view Ledger.spend now

/-- What is left of today's budget, never negative. -/
def remaining (l : Ledger) : Float := Binary64.greatest 0.0 (l.dailyBudget - l.spend)

def remainingBudget (now : Instant) : Step Ledger Float := view remaining now

def modelBreakdown (now : Instant) : Step Ledger (Register Float) := view Ledger.breakdown now

/-- `cost` on top of today's spend stays within the limit. -/
def fits (l : Ledger) (cost : Float) : Bool := decide (l.spend + cost ≤ l.dailyLimit)

def canAfford (cost : Float) (now : Instant) : Step Ledger Bool := view (·.fits cost) now

/-- The estimated cost of a request stays within the limit. -/
def canAffordModel (m : Model) (inputTokens outputTokens : Number) (now : Instant) : Step Ledger Bool := do
  let cost ← Step.ofExcept (m.pricing.estimate inputTokens outputTokens)
  canAfford cost now

/-! ### Recording -/

/-- What the tokens of a request come to at these rates. -/
def costOf (p : Pricing) (inputTokens outputTokens : Number) : Except Fault Float := do
  let inputCount ← inputTokens.toFloat
  let inputCost := inputCount / 1000000.0 * p.input
  let outputCount ← outputTokens.toFloat
  let outputCost := outputCount / 1000000.0 * p.output
  return inputCost + outputCost

def addRequest (l : Ledger) (cost : Float) : Ledger :=
  { l with spend := l.spend + cost, requests := l.requests + 1 }

/-- Adds one request to today's counts and to those of its model. -/
def add (l : Ledger) (id : Handle) (cost : Float) : Ledger :=
  { l.addRequest cost with
    breakdown := Register.put l.breakdown id ((Register.get? l.breakdown id.key).getD 0.0 + cost) }

/-- Passes over a request of which the model or the price is not known. -/
def passOver (citedId : String) : Step Ledger Float := do
  Step.write [Channel.spending.warning
    s!"Ignoring cost record with missing model id or pricing: {citedId}"]
  return 0.0

/-- Passes over a request with a negative count of tokens. -/
def passOverNegative (id inputTokens outputTokens : String) : Step Ledger Float := do
  Step.write [Channel.spending.warning
    s!"Ignoring cost record for {id} with negative token counts ({inputTokens} input, {outputTokens} output)"]
  return 0.0

/-- Records the cost of a completed request and answers with it. Without an id or a price, or with a
negative count of tokens, nothing is recorded. -/
def record (id : Handle) (inputTokens outputTokens : Number) (pricing : Option Pricing) (now : Instant) :
    Step Ledger Float :=
  match id.isSet, pricing with
  | true, some p =>
    if inputTokens.isNegative || outputTokens.isNegative then
      passOverNegative id.shown inputTokens.text outputTokens.text
    else do
      let cost ← Step.ofExcept (costOf p inputTokens outputTokens)
      advance now
      Step.modify (·.add id cost)
      Step.write [Channel.spending.debug
        s!"Recorded cost: ${Decimal.fixed 4 cost} for model {id.shown} ({inputTokens.text} input + {outputTokens.text} output tokens)"]
      return cost
  | _, _ => passOver id.given.quoted

/-- The latest `days` closed days, oldest first. -/
def latest (l : Ledger) (days : Int) : List DayTotal := lastOf days.toNat l.archive

/-- The latest closed days, whose number has to be a whole one unless it is not above zero. -/
def latestOf (l : Ledger) (days : Data) : Except Fault (List DayTotal) :=
  match Number.ofData? days with
  | none => .error (.misfit (.notOrdered "<=" days.kindName (Data.int 0).kindName))
  | some (.decimal x) => if x ≤ 0.0 then .ok [] else .error (.misfit .notPlace)
  | some (.whole n) => .ok (l.latest n)
  | some (.flag b) => .ok (l.latest (if b then 1 else 0))

/-- The latest closed days as of the day of `now`. -/
def history (days : Data) (now : Instant) : Step Ledger (List DayTotal) := do
  Step.ofExcept (← view (·.latestOf days) now)

end Ledger

namespace DayTotal

def costData (costs : Register Float) : Data := costs.toData .float

def toData (t : DayTotal) : Data := .object
  [("date", .text t.day.midnight), ("total_spend", .float t.spend),
    ("request_count", .int t.requests), ("model_breakdown", costData t.breakdown)]

end DayTotal
end Switchboard

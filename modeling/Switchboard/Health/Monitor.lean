import Switchboard.Catalog.Model
import Switchboard.Decimal.Places
import Switchboard.Health.Record

/-!
The health monitor: one record for each model that was ever used, by the name of the model. A model
without a record counts as available and of middling health.
-/

namespace Switchboard

open Journal

structure Monitor where
  /-- Success rate that a model must reach to meet the criteria. -/
  minSuccessRate : Float := 0.7
  /-- Average latency that a model must not exceed to meet the criteria. -/
  maxResponseMs : Float := 10000.0
  thresholds : Thresholds := {}
  records : Register HealthRecord := []
deriving Inhabited

/-- How many models are in which state of health. -/
structure HealthSummary where
  total : Nat
  healthy : Nat
  degraded : Nat
  unavailable : Nat
  unknown : Nat
deriving DecidableEq, Repr

namespace HealthSummary

def toData (s : HealthSummary) : Data := .object
  [("total_models", .int s.total), ("healthy", .int s.healthy), ("degraded", .int s.degraded),
    ("unavailable", .int s.unavailable), ("unknown", .int s.unknown)]

end HealthSummary

namespace Monitor

def record? (m : Monitor) (key : Key) : Option HealthRecord := Register.get? m.records key

/-- The record of a model, a fresh one if there is none. -/
def recordOf (m : Monitor) (key : Key) : HealthRecord := (m.record? key).getD {}

def putRecord (m : Monitor) (id : Handle) (r : HealthRecord) : Monitor :=
  { m with records := Register.put m.records id r }

def onRecord {α : Type} (id : Handle) (step : Step HealthRecord α) : Step Monitor α :=
  Step.on (·.recordOf id.key) (fun m r => m.putRecord id r) step

/-! ### Recording -/

/-- What the journal says about a success. -/
def successEntries (id : String) (ms : Float) (previous : HealthStatus) : List Entry :=
  let recovery := match previous with
    | .healthy | .unknown => []
    | _ => [Channel.health.info s!"Model {id} recovered from {previous.name} to healthy"]
  recovery ++ [Channel.health.debug s!"Recorded success for {id}: {Decimal.fixed 2 ms}ms"]

/-- Time does not run backwards: a negative latency counts as none. -/
def clampLatency (ms : Float) : Float := if ms < 0.0 then 0.0 else ms

def latencyEntries (id : String) (ms : Float) : List Entry :=
  if ms < 0.0 then
    [Channel.health.warning s!"Negative latency {Decimal.text ms}ms for {id}, recording 0"]
  else []

def recordSuccess (id : Handle) (ms : Float) (now : Instant) : Step Monitor Unit :=
  if !id.isSet then
    Step.write [Channel.health.warning "Ignoring success recorded without a model id"]
  else do
    Step.write (latencyEntries id.shown ms)
    let m ← Step.get
    let latency := clampLatency ms
    onRecord id (HealthRecord.success latency now m.thresholds)
    Step.write (successEntries id.shown latency (m.recordOf id.key).status)

/-- What the journal says about a failure that took a model from `previous` to the record `r`. -/
def failureEntries (id error : String) (previous : HealthStatus) (r : HealthRecord)
    (t : Thresholds) : List Entry :=
  let alert :=
    if r.status = previous then []
    else if r.status = .unavailable then
      [Channel.health.error s!"Model {id} marked as unavailable after {r.streak} consecutive failures"]
    else if t.degradedStreak ≤ r.streak then
      [Channel.health.warning s!"Model {id} marked as degraded after {r.streak} consecutive failures"]
    else
      [Channel.health.warning
        s!"Model {id} marked as degraded due to low success rate: {Decimal.fixed 1 (r.successRate * 100)}%"]
  Channel.health.warning s!"Recorded failure for {id}: {error}" :: alert

def recordFailure (id : Handle) (error : String) (now : Instant) : Step Monitor Unit :=
  if !id.isSet then
    Step.write [Channel.health.warning s!"Ignoring failure recorded without a model id: {error}"]
  else do
    let before ← Step.get
    onRecord id (HealthRecord.failure now before.thresholds)
    let after ← Step.get
    Step.write (failureEntries id.shown error (before.recordOf id.key).status (after.recordOf id.key)
      before.thresholds)

def reset (id : Handle) : Step Monitor Unit := do
  Step.modify (·.putRecord id {})
  Step.write [Channel.health.debug s!"Reset health for model: {id.shown}"]

/-! ### Queries -/

def shouldRetry (m : Monitor) (key : Key) (now : Instant) : Except Fault Bool :=
  match m.record? key with
  | none => .ok true
  | some r => r.shouldRetry now m.thresholds

def score (m : Monitor) (key : Key) : Float :=
  match m.record? key with
  | none => 0.5
  | some r => r.score m.thresholds

/-- The health of a model allows to choose it now. -/
def isAvailable (m : Monitor) (key : Key) (now : Instant) : Except Fault Bool :=
  match m.record? key with
  | none => .ok true
  | some r => if r.status = .unavailable then .ok false else r.shouldRetry now m.thresholds

/-- Both the catalog and the health of a model allow to choose it now. -/
def admits (m : Monitor) (model : Model) (now : Instant) : Except Fault Bool :=
  if model.available then m.isAvailable model.key now else .ok false

/-- The models that may be chosen now, in their order. -/
def filterAvailable (m : Monitor) (now : Instant) : List Model → Except Fault (List Model)
  | [] => .ok []
  | model :: rest => do
    let admitted ← m.admits model now
    let models ← m.filterAvailable now rest
    return if admitted then model :: models else models

/-- Models by descending score, those of equal score in their order. -/
def sortByHealth (m : Monitor) (models : List Model) : List Model :=
  models.mergeSort fun a b => decide (m.score b.key ≤ m.score a.key)

/-- The model is healthy and within the limits on success rate and latency. -/
def meetsCriteria (m : Monitor) (key : Key) (minRate? maxMs? : Option Float) : Bool :=
  match m.record? key with
  | none => true
  | some r =>
    decide (r.status = .healthy) && decide (minRate?.getD m.minSuccessRate ≤ r.successRate)
      && (r.averageMs == 0.0 || decide (r.averageMs ≤ maxMs?.getD m.maxResponseMs))

def count (m : Monitor) (status : HealthStatus) : Nat :=
  m.records.countP fun e => decide (e.2.2.status = status)

def summary (m : Monitor) : HealthSummary :=
  ⟨m.records.length, m.count .healthy, m.count .degraded, m.count .unavailable, m.count .unknown⟩

end Monitor
end Switchboard

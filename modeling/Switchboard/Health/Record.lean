import Switchboard.Argument
import Switchboard.Health.Thresholds
import Switchboard.Step

/-!
The health record of one model. A success makes a model healthy whatever came before; failures
degrade it and at last make it unavailable. Waiting times only decide whether a model may be chosen
again, they delay nothing.
-/

namespace Switchboard

inductive HealthStatus where
  | healthy
  | degraded
  | unavailable
  | unknown
deriving DecidableEq, Repr

namespace HealthStatus

def name : HealthStatus → String
  | healthy => "healthy"
  | degraded => "degraded"
  | unavailable => "unavailable"
  | unknown => "unknown"

def all : List HealthStatus := [healthy, degraded, unavailable, unknown]

def reader : Reader HealthStatus := Reader.oneOf (all.map name) fun s => all.find? (·.name == s)

end HealthStatus

structure HealthRecord where
  status : HealthStatus := .unknown
  lastSuccess : Option Instant := none
  lastFailure : Option Instant := none
  /-- Failures since the last success. -/
  streak : Nat := 0
  /-- Moving average of the latencies of successes. -/
  averageMs : Float := 0.0
  successRate : Float := 1.0
  total : Nat := 0
  successes : Nat := 0
  lastCheck : Option Instant := none
deriving Inhabited

namespace HealthRecord

/-! ### Outcomes -/

/-- The average once a sample is added; the first sample is the average. -/
def averageWith (average sample weight : Float) : Float :=
  if average == 0.0 then sample else average * (1.0 - weight) + sample * weight

/-- The share of successes, unless it lies beyond the doubles. -/
def rate? (r : HealthRecord) : Option Float := Binary64.quotient? r.successes r.total

def countSuccess (r : HealthRecord) (ms : Float) (now : Instant) (t : Thresholds) : HealthRecord :=
  { r with
    status := .healthy
    lastSuccess := some now
    streak := 0
    total := r.total + 1
    successes := r.successes + 1
    averageMs := averageWith r.averageMs ms t.latencyWeight }

def countFailure (r : HealthRecord) (now : Instant) : HealthRecord :=
  { r with lastFailure := some now, streak := r.streak + 1, total := r.total + 1 }

/-- The status after a failure: a long streak weighs more than a low success rate. -/
def judge (r : HealthRecord) (t : Thresholds) : HealthStatus :=
  if t.unavailableStreak ≤ r.streak then .unavailable
  else if t.degradedStreak ≤ r.streak then .degraded
  else if r.successRate < t.lowRate ∧ t.lowRateRequests ≤ r.total then .degraded
  else r.status

def success (ms : Float) (now : Instant) (t : Thresholds) : Step HealthRecord Unit := fun r =>
  let counted := r.countSuccess ms now t
  counted.rate?.elim ⟨.error .quotientTooLarge, counted, []⟩ fun rate =>
    ⟨.ok (), { counted with successRate := rate, lastCheck := some now }, []⟩

def failure (now : Instant) (t : Thresholds) : Step HealthRecord Unit := fun r =>
  let counted := r.countFailure now
  counted.rate?.elim ⟨.error .quotientTooLarge, counted, []⟩ fun rate =>
    let rated := { counted with successRate := rate }
    ⟨.ok (), { rated with status := rated.judge t, lastCheck := some now }, []⟩

/-! ### Queries -/

/-- How long a degraded model rests. -/
def backoff (r : HealthRecord) (t : Thresholds) : Except Fault Int :=
  Span.ofPowerOfTwo (min r.streak t.maxBackoffExponent)

/-- Enough time has passed since the last failure to try the model again. -/
def shouldRetry (r : HealthRecord) (now : Instant) (t : Thresholds) : Except Fault Bool :=
  match r.status with
  | .healthy | .unknown => .ok true
  | .degraded => match r.lastFailure with
    | none => .ok true
    | some failed => do
      let wait ← r.backoff t
      let elapsed ← now.since failed
      return wait ≤ elapsed
  | .unavailable => match r.lastFailure with
    | none => .ok false
    | some failed => do
      let wait ← Span.ofFloat t.cooldownSeconds
      let elapsed ← now.since failed
      return wait ≤ elapsed

/-- How much the speed of a model counts: nothing from the slow latency on, all without latency. -/
def speedFactor (r : HealthRecord) (t : Thresholds) : Float :=
  if 0.0 < r.averageMs then
    Binary64.greatest 0.0 (1.0 - Binary64.least (r.averageMs / t.slowMs) 1.0)
  else 1.0

/-- Reliability between 0 and 1; only healthy models differ among themselves. -/
def score (r : HealthRecord) (t : Thresholds) : Float :=
  match r.status with
  | .healthy =>
    Binary64.greatest 0.0 (Binary64.least (r.successRate * 0.7 + r.speedFactor t * 0.3) 1.0)
  | .degraded => 0.5
  | .unavailable => 0.0
  | .unknown => 0.5

/-! ### As data -/

open Reader in
def reader (lastSuccess lastFailure lastCheck : Option Instant) : Reader HealthRecord :=
  record "ModelHealth" fun fs =>
  HealthRecord.mk <$> field "status" HealthStatus.reader .unknown fs
    <*> pure lastSuccess <*> pure lastFailure
    <*> field "consecutive_failures" (nat [.atLeast 0]) 0 fs
    <*> field "avg_response_time_ms" (float [.atLeast 0]) 0.0 fs
    <*> field "success_rate" share 1.0 fs
    <*> field "total_requests" (nat [.atLeast 0]) 0 fs
    <*> field "successful_requests" (nat [.atLeast 0]) 0 fs
    <*> pure lastCheck

def momentIn (fs : List (String × Data)) (name : String) : Except Fault (Option Instant) :=
  match (Entries.get? fs name).getD .null with
  | .null => .ok none
  | d => some <$> Argument.instant d

/-- A record from its fields. Moments are written out, and are read before all else. -/
def ofData (d : Data) : Except Fault HealthRecord := do
  let fs ← Argument.fields d
  let lastSuccess ← momentIn fs "last_success"
  let lastFailure ← momentIn fs "last_failure"
  let lastCheck ← momentIn fs "last_check"
  (reader lastSuccess lastFailure lastCheck).readFields .health "ModelHealth" (.object fs)

def instantData (t : Option Instant) : Data := (t.map fun t => Data.text t.text).getD .null

def toData (r : HealthRecord) : Data := .object
  [("status", .text r.status.name), ("last_success", instantData r.lastSuccess),
    ("last_failure", instantData r.lastFailure), ("consecutive_failures", .int r.streak),
    ("avg_response_time_ms", .float r.averageMs), ("success_rate", .float r.successRate),
    ("total_requests", .int r.total), ("successful_requests", .int r.successes),
    ("last_check", instantData r.lastCheck)]

end HealthRecord
end Switchboard

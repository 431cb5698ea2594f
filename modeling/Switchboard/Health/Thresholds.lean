import Switchboard.Fault

/-!
The constants of the health rules. The degraded streak is shorter than the unavailable streak in
every thresholds record that was read.
-/

namespace Switchboard

structure Thresholds where
  /-- Failures in a row that make a model unavailable. -/
  unavailableStreak : Nat := 5
  /-- Failures in a row that make a model degraded. -/
  degradedStreak : Nat := 3
  /-- A success rate below this degrades a model once it has been asked often enough. -/
  lowRate : Float := 0.5
  lowRateRequests : Nat := 10
  /-- A degraded model rests for two to the power of its failures, up to this power, in seconds. -/
  maxBackoffExponent : Nat := 5
  cooldownSeconds : Float := 900.0
  /-- Weight of the latest sample in the moving average of latencies. -/
  latencyWeight : Float := 0.1
  /-- From this latency on speed adds nothing to the score. -/
  slowMs : Float := 5000.0
deriving Inhabited

namespace Thresholds

open Reader in
def fields (fs : List (String × Data)) : Reading Thresholds :=
  Thresholds.mk <$> field "unavailable_failure_threshold" (nat [.atLeast 1]) 5 fs
    <*> field "degraded_failure_threshold" (nat [.atLeast 1]) 3 fs
    <*> field "low_success_rate_threshold" share 0.5 fs
    <*> field "low_success_rate_min_requests" (nat [.atLeast 1]) 10 fs
    <*> field "max_backoff_exponent" (nat [.atLeast 0]) 5 fs
    <*> field "unavailable_cooldown_seconds" (float [.atLeast 0]) 900.0 fs
    <*> field "latency_ema_weight" (float [.atMost 1, .above 0]) 0.1 fs
    <*> field "slow_response_ms" (float [.above 0]) 5000.0 fs

/-- The order of the streaks is checked once every field is good. -/
def checkStreaks (t : Thresholds) : Reading Thresholds :=
  if t.degradedStreak < t.unavailableStreak then .good t
  else Reading.flaw (.streaksOutOfOrder t.degradedStreak t.unavailableStreak)

def reader : Reader Thresholds := Reader.record "HealthThresholds" fun fs =>
  (fields fs).andThen checkStreaks

def ofData : Data → Except Fault Thresholds := reader.readFields .health "HealthThresholds"

def toData (t : Thresholds) : Data := .object
  [("unavailable_failure_threshold", .int t.unavailableStreak),
    ("degraded_failure_threshold", .int t.degradedStreak),
    ("low_success_rate_threshold", .float t.lowRate),
    ("low_success_rate_min_requests", .int t.lowRateRequests),
    ("max_backoff_exponent", .int t.maxBackoffExponent),
    ("unavailable_cooldown_seconds", .float t.cooldownSeconds),
    ("latency_ema_weight", .float t.latencyWeight), ("slow_response_ms", .float t.slowMs)]

end Thresholds
end Switchboard

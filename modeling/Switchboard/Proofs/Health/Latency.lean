import Switchboard.Proofs.Health.Calls

/-!
The average latency of a model against the moving average of its samples. A record tells its first sample
by an average of zero, so a later sample that meets such an average counts as a first one as well. The two
averages agree exactly as long as no sample is changed by that.
-/

namespace Switchboard

/-! ### The moving average -/

namespace Observation

def latency? : Observation → Option Float
  | success ms _ => some ms
  | failure _ => none

/-- The latencies of the successes, the oldest first. -/
def latencies (h : List Observation) : List Float := h.filterMap latency?

end Observation

namespace HealthRecord

open Observation

/-- The average with one more sample that counts by its weight. -/
def weighed (weight average sample : Float) : Float := average * (1.0 - weight) + sample * weight

/-- The moving average: the first sample as it is, and every later one by its weight. -/
def movingAverage (weight : Float) : List Float → Float
  | [] => 0.0
  | first :: rest => rest.foldl (weighed weight) first

/-- Some sample behind the first one meets an average of zero, and is not what the average becomes. -/
def Restarts (weight : Float) (samples : List Float) : Prop :=
  ∃ earlier sample later, samples = earlier ++ sample :: later ∧ earlier ≠ [] ∧
    (movingAverage weight earlier == 0.0) = true ∧ weighed weight (movingAverage weight earlier) sample ≠ sample

theorem movingAverage_concat (weight : Float) {samples : List Float} (some : samples ≠ []) (sample : Float) :
    movingAverage weight (samples ++ [sample]) = weighed weight (movingAverage weight samples) sample := by
  cases samples with
  | nil => exact (some rfl).elim
  | cons first rest => exact List.foldl_concat (weighed weight) first sample rest

/-! ### The average of a record -/

/-- The average that is kept of some samples. -/
def keptAverage (weight : Float) (samples : List Float) : Float :=
  samples.foldl (fun average sample => averageWith average sample weight) 0.0

theorem keptAverage_concat (weight : Float) (samples : List Float) (sample : Float) :
    keptAverage weight (samples ++ [sample]) = averageWith (keptAverage weight samples) sample weight := by
  simp [keptAverage]

theorem latencies_concat (h : List Observation) (o : Observation) :
    latencies (h ++ [o]) = latencies h ++ o.latency?.toList := by
  cases o <;> simp [latencies, latency?]

theorem replay_average (t : Thresholds) (h : List Observation) :
    (replay t h).averageMs = keptAverage t.latencyWeight (latencies h) := by
  induction h using List.reverseRecOn with
  | nil => rfl
  | append_singleton h o ih =>
    rw [replay_concat, latencies_concat]
    cases o with
    | success ms now =>
      show averageWith (replay t h).averageMs ms t.latencyWeight = _
      rw [ih, latency?, Option.toList_some, keptAverage_concat]
    | failure now =>
      show (replay t h).averageMs = _
      rw [ih, latency?, Option.toList_none, List.append_nil]

/-! ### Where the two agree -/

variable {weight : Float} {samples : List Float}

theorem keptAverage_first (weight sample : Float) : keptAverage weight [sample] = sample := rfl

theorem keptAverage_of_not_restarts (steady : ¬Restarts weight samples) {before : List Float}
    (leads : before <+: samples) : keptAverage weight before = movingAverage weight before := by
  induction before using List.reverseRecOn with
  | nil => rfl
  | append_singleton earlier sample ih =>
    have agree := ih ((List.prefix_append earlier [sample]).trans leads)
    by_cases first : earlier = []
    · rw [first]
      exact keptAverage_first weight sample
    · rw [keptAverage_concat, movingAverage_concat weight first, agree, averageWith]
      split
      · rename_i zero
        obtain ⟨later, split⟩ := leads
        by_contra changes
        refine steady ⟨earlier, sample, later, ?_, first, zero, fun same => changes same.symm⟩
        rw [← split, List.append_assoc]
        rfl
      · rfl

theorem keptAverage_agrees_iff :
    (∀ before, before <+: samples → keptAverage weight before = movingAverage weight before) ↔
      ¬Restarts weight samples := by
  constructor
  · rintro agree ⟨earlier, sample, later, rfl, some, zero, changes⟩
    have next := agree (earlier ++ [sample]) ⟨later, List.append_assoc earlier [sample] later⟩
    rw [keptAverage_concat, agree earlier (List.prefix_append earlier _), averageWith, if_pos zero,
      movingAverage_concat weight some] at next
    exact changes next.symm
  · exact fun steady before => keptAverage_of_not_restarts steady

theorem replay_average_agrees_iff (t : Thresholds) (h : List Observation) :
    (∀ before, before <+: h →
      (replay t before).averageMs = movingAverage t.latencyWeight (latencies before)) ↔
      ¬Restarts t.latencyWeight (latencies h) := by
  rw [← keptAverage_agrees_iff]
  constructor
  · rintro agree samples ⟨later, split⟩
    -- What was measured first was measured in the first part of the history.
    obtain ⟨before, after, rfl, measured, -⟩ := List.filterMap_eq_append_iff.mp split.symm
    have same := agree before (List.prefix_append before after)
    rwa [replay_average, latencies, measured] at same
  · intro agree before leads
    rw [replay_average]
    exact agree (latencies before) (leads.filterMap latency?)

end HealthRecord

namespace Monitor

open HealthRecord Observation Step

variable {m : Monitor}

/-- Whatever is reported, a model's record is the replay of its own outcomes, and all along these its average
is the moving average of the latencies so far if and only if no sample behind the first meets an average of
zero and would move it to anything but the sample itself. -/
theorem average_moves_iff (fresh : m.records = []) (calls : List Call) :
    ∃ m', Answers (sequence Call.step calls) m () m' ∧ ∀ k,
      m'.recordOf k = replay m.thresholds (history k calls) ∧
      ((∀ before, before <+: history k calls → (replay m.thresholds before).averageMs =
          movingAverage m.thresholds.latencyWeight (latencies before)) ↔
        ¬Restarts m.thresholds.latencyWeight (latencies (history k calls))) := by
  obtain ⟨m', run, mirrors⟩ := run_mirrors fresh calls
  exact ⟨m', run, fun k => ⟨mirrors.recordOf k, replay_average_agrees_iff m.thresholds (history k calls)⟩⟩

/-! ### A first answer that took no time -/

/-- The clock ran backwards during the first request. -/
def instantFirst : List Call :=
  [.success (.ofText "m") (-5.0) ⟨1, some 0, none⟩, .failure (.ofText "m") "timeout" ⟨2, some 0, none⟩,
    .success (.ofText "m") 100.0 ⟨3, some 0, none⟩]

theorem instant_answer_forgotten : ∃ m, Answers (sequence Call.step instantFirst) {} () m ∧
    (m.recordOf (.text "m")).averageMs = 100.0 ∧
    movingAverage 0.1 (latencies (history (.text "m") instantFirst)) = 10.0 ∧
    Restarts 0.1 (latencies (history (.text "m") instantFirst)) := by
  obtain ⟨m, run, held⟩ := average_moves_iff (m := {}) rfl instantFirst
  obtain ⟨replayed, agrees⟩ := held (.text "m")
  have average : (m.recordOf (.text "m")).averageMs = 100.0 := by
    rw [replayed]
    decide +kernel
  have moved : movingAverage 0.1 (latencies (history (.text "m") instantFirst)) = 10.0 := by decide +kernel
  refine ⟨m, run, average, moved, ?_⟩
  by_contra steady
  have same := agrees.mpr steady _ (List.prefix_refl _)
  rw [← replayed, average] at same
  have other : (100.0 : Float) ≠ 10.0 := by decide +kernel
  exact other (same.trans moved)

end Monitor
end Switchboard

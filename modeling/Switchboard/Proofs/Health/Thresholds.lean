import Switchboard.Health.Thresholds
import Switchboard.Proofs.Reading

/-!
Thresholds that were read. The rules of health rest on the order of their two streaks.
-/

namespace Switchboard.Thresholds

/-- One failure at least degrades a model, and more are needed to make it unavailable. -/
structure Valid (t : Thresholds) : Prop where
  degraded_pos : 1 ≤ t.degradedStreak
  ordered : t.degradedStreak < t.unavailableStreak

theorem valid_default : Valid {} := ⟨by decide, by decide⟩

theorem checkStreaks_good {t t' : Thresholds} (h : t.checkStreaks = .good t') :
    t' = t ∧ t.degradedStreak < t.unavailableStreak := by
  unfold checkStreaks at h
  split at h
  · cases h
    exact ⟨rfl, by assumption⟩
  · cases h

/-- Every limit that is declared for a threshold. The counts that may be zero are within theirs. -/
structure InBounds (t : Thresholds) : Prop extends t.Valid where
  lowRate : 0.0 ≤ t.lowRate ∧ t.lowRate ≤ 1.0
  lowRateRequests : 1 ≤ t.lowRateRequests
  cooldown : 0.0 ≤ t.cooldownSeconds
  weight : 0.0 < t.latencyWeight ∧ t.latencyWeight ≤ 1.0
  slow : 0.0 < t.slowMs

theorem inBounds_default : InBounds {} where
  toValid := valid_default
  lowRate := by decide +kernel
  lowRateRequests := by decide
  cooldown := by decide +kernel
  weight := by decide +kernel
  slow := by decide +kernel

open Reader in
theorem weight_within {d : Data} {x : Float} (h : float [.atMost 1, .above 0] d = .good x) :
    0.0 < x ∧ x ≤ 1.0 := by
  have admitted := (bounded_good h).2
  exact ⟨admits_above_zero.mp (admitted (.above 0) (by simp)),
    admits_atMost_one.mp (admitted (.atMost 1) (by simp))⟩

/-- All thresholds that are read from data are within their limits. -/
theorem inBounds_of_good {d : Data} {t : Thresholds} (h : reader d = .good t) : t.InBounds := by
  obtain ⟨fs, -, read⟩ := Reader.record_good h
  obtain ⟨t', good, checked⟩ := Reading.andThen_good read
  obtain ⟨rfl, ordered⟩ := checkStreaks_good checked
  unfold fields at good
  obtain ⟨_, slow, h₁, slows, rfl⟩ := Reading.seq_good good
  obtain ⟨_, weight, h₂, weights, rfl⟩ := Reading.seq_good h₁
  obtain ⟨_, cooldown, h₃, cools, rfl⟩ := Reading.seq_good h₂
  obtain ⟨_, exponent, h₄, -, rfl⟩ := Reading.seq_good h₃
  obtain ⟨_, requests, h₅, count, rfl⟩ := Reading.seq_good h₄
  obtain ⟨_, rate, h₆, rates, rfl⟩ := Reading.seq_good h₅
  obtain ⟨_, degraded, h₇, degrades, rfl⟩ := Reading.seq_good h₆
  obtain ⟨unavailable, -, rfl⟩ := Reading.map_good h₇
  have standard := inBounds_default
  constructor
  case toValid =>
    exact ⟨Reader.field_holds standard.degraded_pos (fun _ _ => Reader.nat_atLeast) degrades, ordered⟩
  case lowRate =>
    exact Reader.field_holds (P := fun x => 0.0 ≤ x ∧ x ≤ 1.0) standard.lowRate
      (fun _ _ => Reader.share_within) rates
  case lowRateRequests =>
    exact Reader.field_holds standard.lowRateRequests (fun _ _ => Reader.nat_atLeast) count
  case cooldown => exact Reader.field_holds standard.cooldown (fun _ _ => Reader.float_atLeast_zero) cools
  case weight =>
    exact Reader.field_holds (P := fun x => 0.0 < x ∧ x ≤ 1.0) standard.weight
      (fun _ _ => weight_within) weights
  case slow => exact Reader.field_holds standard.slow (fun _ _ => Reader.float_above_zero) slows

end Switchboard.Thresholds

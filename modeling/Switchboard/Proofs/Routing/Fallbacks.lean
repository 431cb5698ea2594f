import Switchboard.Proofs.Binary64.Order
import Switchboard.Proofs.Relay.Choice

/-!
The order of fallbacks. A health score is a number whatever the record says, so models are sorted by a
composite key, the tier upwards and the score downwards; `fallbackChain_lines_up` says what this makes of
the models that are available.
-/

namespace Switchboard

/-! ### Scores are numbers -/

theorem half_defined : (0.5 : Float).isNaN = false := by decide +kernel

theorem HealthRecord.score_defined (r : HealthRecord) (t : Thresholds) : (r.score t).isNaN = false := by
  have none : (0.0 : Float).isNaN = false := by decide +kernel
  unfold score
  cases r.status with
  | healthy => exact Binary64.greatest_zero_defined _
  | degraded => exact half_defined
  | unavailable => exact none
  | unknown => exact half_defined

theorem Monitor.score_defined (m : Monitor) (k : Key) : (m.score k).isNaN = false := by
  unfold score
  cases m.record? k with
  | none => exact half_defined
  | some r => exact r.score_defined m.thresholds

namespace Selection

variable {monitor : Monitor} {models available : List Model} {primary : Model} {now : Instant}

/-! ### Tiers, then scores -/

/-- Models by ascending tier, those of one tier by descending score, and those of one tier and score as
they are listed. -/
structure Lineup (score : Model → Float) (listed lined : List Model) : Prop where
  perm : lined.Perm listed
  tiers : lined.Pairwise fun a b => a.tier ≤ b.tier
  scores : lined.Pairwise fun a b => a.tier = b.tier → score b ≤ score a
  tied : ∀ (tier : Nat) (x : Float), lined.filter (fun m => m.tier == tier && score m == x) =
    listed.filter fun m => m.tier == tier && score m == x

/-- The place of a model among the others: its tier first, then its score counted downwards. -/
def rankOf (monitor : Monitor) (m : Model) : Nat ×ₗ (Int ×ₗ Int ×ₗ Int)ᵒᵈ :=
  toLex (m.tier, OrderDual.toDual (Binary64.placeOf (monitor.score m.key)))

theorem rankOf_le_iff {a b : Model} : rankOf monitor a ≤ rankOf monitor b ↔
    a.tier < b.tier ∨ a.tier = b.tier ∧ monitor.score b.key ≤ monitor.score a.key := by
  rw [rankOf, rankOf, Prod.Lex.toLex_le_toLex]
  exact or_congr_right (and_congr_right fun _ =>
    (Binary64.le_iff_place (monitor.score_defined b.key) (monitor.score_defined a.key)).symm)

theorem byTierThenHealth_eq (monitor : Monitor) (models : List Model) :
    byTierThenHealth monitor models = sortedBy (rankOf monitor) models := by
  refine mergeSort_eq_sortedBy fun a _ b _ => ?_
  rw [Bool.eq_iff_iff, decide_eq_true_iff, rankOf_le_iff]
  simp

theorem byTierThenHealth_lineup (monitor : Monitor) (models : List Model) :
    Lineup (fun m => monitor.score m.key) models (byTierThenHealth monitor models) := by
  have sorted := sortedBy_sorted (rankOf monitor) models
  rw [← byTierThenHealth_eq] at sorted
  constructor
  case perm => exact byTierThenHealth_perm monitor models
  case tiers =>
    refine sorted.imp fun {a b} before => ?_
    rcases rankOf_le_iff.mp before with lower | ⟨same, -⟩
    · exact lower.le
    · exact same.le
  case scores =>
    refine sorted.imp fun {a b} before same => ?_
    rcases rankOf_le_iff.mp before with lower | ⟨-, scores⟩
    · exact (lower.ne same).elim
    · exact scores
  case tied =>
    intro tier x
    rw [byTierThenHealth_eq]
    refine sortedBy_stable fun a _ b _ left right => ?_
    simp only [Bool.and_eq_true, beq_iff_eq] at left right
    obtain ⟨rfl, left⟩ := left
    obtain ⟨tiers, right⟩ := right
    have number := (Binary64.isNaN_of_beq left).2
    have above := (Binary64.beq_iff_place (monitor.score_defined a.key) number).mp left
    have below := (Binary64.beq_iff_place (monitor.score_defined b.key) number).mp right
    rw [rankOf, rankOf, tiers, above, below]

/-! ### Behind the first model -/

theorem fallbackChain_eq (filtered : monitor.filterAvailable now models = .ok available) :
    fallbackChain monitor primary models now =
      .ok (byTierThenHealth monitor (available.filter (·.id != primary.id))) := by
  rw [fallbackChain, filtered]
  rfl

theorem others_length (distinct : Distinct models) (listed : primary ∈ models) :
    (models.filter (·.id != primary.id)).length + 1 = models.length :=
  (distinct.front_perm listed).length_eq

/-- Where the availability of all models can be told, the fallbacks are the available ones other than the
first model, each as often as it is listed: by ascending tier, within a tier by descending score, and else
in the order of the list. A first model that is on the list itself is not among them, so that there is one
less than the list has even if every model is available. -/
theorem fallbackChain_lines_up (filtered : monitor.filterAvailable now models = .ok available) :
    available = models.filter (monitor.allows now) ∧
      ∃ chain, fallbackChain monitor primary models now = .ok chain ∧
        Lineup (fun m => monitor.score m.key) (available.filter (·.id != primary.id)) chain ∧
        (primary ∈ models → Distinct models →
          chain.length < models.length ∧ (available = models → chain.length + 1 = models.length)) := by
  have lineup := byTierThenHealth_lineup monitor (available.filter (·.id != primary.id))
  refine ⟨Monitor.filterAvailable_ok filtered, _, fallbackChain_eq filtered, lineup, ?_⟩
  intro listed distinct
  have others := others_length distinct listed
  rw [lineup.perm.length_eq]
  constructor
  · have fewer := ((filterAvailable_sublist filtered).filter (·.id != primary.id)).length_le
    omega
  · rintro rfl
    exact others

/-! ### Five models, of which one is asked first and one is unavailable -/

def tiered (id : String) (tier : Nat) : Model := { id, contextLength := 8000, pricing := ⟨1.0, 2.0⟩, tier }

def fiveModels : List Model :=
  [tiered "last" 9, tiered "first" 1, tiered "fresh" 2, tiered "proven" 2, tiered "down" 1]

/-- One model has answered so far, and one has failed too often. -/
def mixedHealth : Monitor where
  records := [(.text "proven", .text "proven", { status := .healthy, total := 1, successes := 1 }),
    (.text "down", .text "down", { status := .unavailable, streak := 5, successRate := 0.0, total := 5 })]

def healthiestFirst : List Model := [tiered "proven" 2, tiered "fresh" 2, tiered "last" 9]

theorem proven_before_fresh : fallbackChain mixedHealth (tiered "first" 1) fiveModels ⟨0, some 0, none⟩ =
    .ok healthiestFirst := by
  have filtered : mixedHealth.filterAvailable ⟨0, some 0, none⟩ fiveModels =
      .ok [tiered "last" 9, tiered "first" 1, tiered "fresh" 2, tiered "proven" 2] := rfl
  obtain ⟨-, chain, answers, lineup, -⟩ := @fallbackChain_lines_up _ _ _ (tiered "first" 1) _ filtered
  have backwards : chain.Perm healthiestFirst.reverse := lineup.perm
  have listed := backwards.trans (List.reverse_perm healthiestFirst)
  have ordered : healthiestFirst.Pairwise fun a b =>
      a.tier ≤ b.tier ∧ (a.tier = b.tier → mixedHealth.score b.key ≤ mixedHealth.score a.key) := by
    decide +kernel
  have untied : ∀ a ∈ healthiestFirst, ∀ b ∈ healthiestFirst, a.tier = b.tier →
      mixedHealth.score b.key ≤ mixedHealth.score a.key →
      mixedHealth.score a.key ≤ mixedHealth.score b.key → a.id = b.id := by
    decide +kernel
  have named : ∀ m ∈ healthiestFirst, m = tiered m.id m.tier := by simp [healthiestFirst, tiered]
  -- No two of the models are tied, so that the two orders cannot differ.
  rw [answers, listed.eq_of_pairwise ?_ (lineup.tiers.and lineup.scores) ordered]
  rintro a b first second ⟨up, below⟩ ⟨down, above⟩
  have first := listed.mem_iff.mp first
  have level := Nat.le_antisymm up down
  have same := untied a first b second level (below level) (above level.symm)
  rw [named a first, named b second, level, same]

end Selection
end Switchboard

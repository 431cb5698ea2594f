import Switchboard.Proofs.Routing.Fallbacks
import Switchboard.Proofs.Routing.UseCases

/-!
Recommendations. What is recommended for a phrase is what the catalog finds by it, less what may not be
chosen now, in the order of fallbacks. `recommended_refines_lookup` also says what a relay recommends first.
-/

namespace Switchboard

open Step Text

namespace Monitor

/-- Whether a model may be chosen does not depend on the others that are asked about. -/
theorem filterAvailable_filter {m : Monitor} {now : Instant} {models available : List Model}
    (filtered : m.filterAvailable now models = .ok available) (picked : Model → Bool) :
    m.filterAvailable now (models.filter picked) = .ok (available.filter picked) := by
  induction models generalizing available with
  | nil =>
    cases filtered
    rfl
  | cons model rest ih =>
    obtain ⟨admitted, asked, filtered⟩ := except_bind_ok filtered
    obtain ⟨others, later, chosen⟩ := except_bind_ok filtered
    have kept := ih later
    cases chosen
    cases wanted : picked model with
    | false =>
      rw [List.filter_cons_of_neg (by simp [wanted]), kept]
      cases admitted
      · rfl
      · exact congrArg Except.ok (List.filter_cons_of_neg (by simp [wanted])).symm
    | true =>
      rw [List.filter_cons_of_pos wanted, filterAvailable, asked, kept]
      cases admitted
      · rfl
      · exact congrArg Except.ok (List.filter_cons_of_pos wanted).symm

theorem score_le_self (m : Monitor) (k : Key) : m.score k ≤ m.score k :=
  (Binary64.le_iff_place (m.score_defined k) (m.score_defined k)).mpr le_rfl

end Monitor

theorem Model.mentions_iff_within (m : Model) (phrase : String) : m.mentions phrase = true ↔
    ∃ tag ∈ m.useCases, (lowercase phrase).toList <:+: (lowercase tag).toList := by
  simp only [mentions_iff, lowercase, String.toList_ofList]

namespace Selection

/-- The model that is lined up first is of the best tier and, within that tier, of the best score. -/
theorem Lineup.first {monitor : Monitor} {listed rest : List Model} {best : Model}
    (lineup : Lineup (fun m => monitor.score m.key) listed (best :: rest)) :
    best ∈ listed ∧ ∀ m ∈ listed, best.tier ≤ m.tier ∧
      (m.tier = best.tier → monitor.score m.key ≤ monitor.score best.key) := by
  refine ⟨lineup.perm.mem_iff.mp List.mem_cons_self, fun m member => ?_⟩
  rcases List.mem_cons.mp (lineup.perm.mem_iff.mpr member) with rfl | later
  · exact ⟨le_rfl, fun _ => monitor.score_le_self _⟩
  · have tiers := (List.pairwise_cons.mp lineup.tiers).1 m later
    have scores := (List.pairwise_cons.mp lineup.scores).1 m later
    exact ⟨tiers, fun same => scores same.symm⟩

end Selection

namespace Relay

open Selection

variable {σ : Type}

/-- Where the availability of all models of the catalog can be told, what is recommended for a phrase are
the models that the catalog finds by it and that are available, each as often as the catalog lists it: by
ascending tier, within a tier by descending health, and else in the order of the catalog. The relay
recommends the first of them, and none if and only if there is none. -/
theorem recommended_refines_lookup {r : Relay σ} {phrase : String} {available : List Model}
    (filtered : r.monitor.filterAvailable r.clock.now r.catalog.models = .ok available) :
    ∃ matching chosen, r.monitor.filterAvailable r.clock.now (r.catalog.byUseCase phrase) = .ok matching ∧
      (∀ m, m ∈ matching ↔ m ∈ available ∧
        ∃ tag ∈ m.useCases, (lowercase phrase).toList <:+: (lowercase tag).toList) ∧
      recommended r.monitor phrase r.catalog.models r.clock.now = .ok chosen ∧
      Lineup (fun m => r.monitor.score m.key) matching chosen ∧
      Step.Answers (recommendedModel phrase) r chosen.head? r ∧ (chosen.head? = none ↔ matching = []) ∧
      ∀ best, chosen.head? = some best → best ∈ matching ∧ ∀ m ∈ matching, best.tier ≤ m.tier ∧
        (m.tier = best.tier → r.monitor.score m.key ≤ r.monitor.score best.key) := by
  have sorted : recommended r.monitor phrase r.catalog.models r.clock.now =
      .ok (byTierThenHealth r.monitor (available.filter (·.mentions phrase))) := by
    rw [recommended, filtered]
    rfl
  have lineup := byTierThenHealth_lineup r.monitor (available.filter (·.mentions phrase))
  refine ⟨_, _, Monitor.filterAvailable_filter filtered _, fun m => ?_, sorted, lineup, ?_, ?_, ?_⟩
  · rw [List.mem_filter, m.mentions_iff_within]
  · unfold recommendedModel
    refine answers_query.mpr ⟨?_, rfl⟩
    rw [sorted]
    rfl
  · rw [List.head?_eq_none_iff]
    constructor
    · intro none
      exact List.nil_perm.mp (none ▸ lineup.perm)
    · intro none
      exact List.perm_nil.mp (none ▸ lineup.perm)
  · intro best head
    obtain ⟨rest, order⟩ := List.head?_eq_some_iff.mp head
    exact (order ▸ lineup).first

/-! ### Four models, of which the best is unavailable -/

def tagged (id tag : String) (tier : Nat) : Model :=
  { id, contextLength := 8000, pricing := ⟨1.0, 2.0⟩, useCases := [tag], tier }

def coders : Relay Unit where
  catalog := ⟨[tagged "fresh" "Code review" 2, tagged "chatty" "small talk" 1, tagged "proven" "Unicode" 2,
    tagged "down" "code" 1]⟩
  monitor := mixedHealth
  ledger := { monthlyBudget := 30.0, today := ⟨0⟩ }
  clock := { now := ⟨0, some 0, none⟩ }
  line := ()

theorem proven_coder_recommended :
    Step.Answers (recommendedModel "CODE") coders (some (tagged "proven" "Unicode" 2)) coders := by
  have filtered : coders.monitor.filterAvailable coders.clock.now coders.catalog.models =
      .ok [tagged "fresh" "Code review" 2, tagged "chatty" "small talk" 1, tagged "proven" "Unicode" 2] := rfl
  obtain ⟨matching, chosen, looked, -, -, -, answers, none, first⟩ :=
    @recommended_refines_lookup _ _ "CODE" _ filtered
  have fresh : (tagged "fresh" "Code review" 2).mentions "CODE" = true := by decide +kernel
  have chatty : (tagged "chatty" "small talk" 1).mentions "CODE" = false := by decide +kernel
  have proven : (tagged "proven" "Unicode" 2).mentions "CODE" = true := by decide +kernel
  have down : (tagged "down" "code" 1).mentions "CODE" = true := by decide +kernel
  have found : coders.catalog.byUseCase "CODE" =
      [tagged "fresh" "Code review" 2, tagged "proven" "Unicode" 2, tagged "down" "code" 1] := by
    simp [Catalog.byUseCase, coders, fresh, chatty, proven, down]
  rw [found] at looked
  obtain rfl : matching = [tagged "fresh" "Code review" 2, tagged "proven" "Unicode" 2] :=
    (Except.ok.inj looked).symm
  have better : ¬coders.monitor.score (.text "proven") ≤ coders.monitor.score (.text "fresh") := by decide +kernel
  cases head : chosen.head? with
  | none => cases none.mp head
  | some best =>
    obtain ⟨listed, above⟩ := first best head
    obtain ⟨-, scores⟩ := above (tagged "proven" "Unicode" 2) (by simp)
    have other : best ≠ tagged "fresh" "Code review" 2 := by
      rintro rfl
      exact better (scores rfl)
    simp only [List.mem_cons, List.not_mem_nil, or_false] at listed
    rwa [head, listed.resolve_left other] at answers

end Relay
end Switchboard

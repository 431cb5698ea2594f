import Switchboard.Proofs.Relay.Choice
import Switchboard.Proofs.Text.Lowercase

/-!
Looking models up by what they are used for. The phrase and the tags are compared in lower case, each on its
own, so a tag that has the phrase as it is written may miss it. `phrase_found_iff_steady` says for which
phrases this cannot happen.
-/

namespace Switchboard

open Text

theorem Model.mentions_iff (m : Model) (phrase : String) : m.mentions phrase = true ↔
    ∃ tag ∈ m.useCases, lowerFrom [] phrase.toList <:+: lowerFrom [] tag.toList := by
  simp [mentions, isWithin_iff, lowercase]

theorem Catalog.mem_byUseCase {c : Catalog} {m : Model} {phrase : String} :
    m ∈ c.byUseCase phrase ↔ m ∈ c.models ∧ m.mentions phrase = true :=
  List.mem_filter

theorem Selection.mem_recommended {monitor : Monitor} {phrase : String} {models available : List Model}
    {now : Instant} (filtered : monitor.filterAvailable now models = .ok available) :
    ∃ chosen, recommended monitor phrase models now = .ok chosen ∧
      ∀ m, m ∈ chosen ↔ m ∈ available ∧ m.mentions phrase = true := by
  refine ⟨byTierThenHealth monitor (available.filter (·.mentions phrase)), ?_, fun m => ?_⟩
  · rw [recommended, filtered]
    rfl
  · rw [(byTierThenHealth_perm monitor _).mem_iff, List.mem_filter]

namespace Catalog

/-- Wherever a model of a catalog has a tag with the phrase in it, the model is found by the phrase, and is
recommended if it is available, if and only if the phrase is steady: neither does it begin with a capital
sigma that no letter follows, nor does it end with one that a letter precedes. -/
theorem phrase_found_iff_steady (phrase : String) :
    (∀ (c : Catalog) (m : Model), m ∈ c.models → (∃ tag ∈ m.useCases, phrase.toList <:+: tag.toList) →
      m ∈ c.byUseCase phrase ∧
      ∀ (monitor : Monitor) (now : Instant) (available : List Model),
        monitor.filterAvailable now c.models = .ok available → m ∈ available →
        ∃ chosen, Selection.recommended monitor phrase c.models now = .ok chosen ∧ m ∈ chosen) ↔
    Steady phrase.toList := by
  rw [← lowerFrom_infix_iff]
  constructor
  · intro found whole occurs
    -- A catalog of one model with one tag puts the phrase into any text.
    let m : Model := { id := "m", contextLength := 0, pricing := ⟨0.0, 0.0⟩, useCases := [String.ofList whole] }
    have tagged : ∃ tag ∈ m.useCases, phrase.toList <:+: tag.toList :=
      ⟨_, List.mem_singleton_self _, by rwa [String.toList_ofList]⟩
    obtain ⟨listed, -⟩ := found ⟨[m]⟩ m (List.mem_singleton_self m) tagged
    obtain ⟨tag, own, within⟩ := (m.mentions_iff phrase).mp (mem_byUseCase.mp listed).2
    rwa [List.mem_singleton.mp own, String.toList_ofList] at within
  · rintro kept c m listed ⟨tag, own, occurs⟩
    have mentioned : m.mentions phrase = true := (m.mentions_iff phrase).mpr ⟨tag, own, kept _ occurs⟩
    refine ⟨mem_byUseCase.mpr ⟨listed, mentioned⟩, fun monitor now available filtered usable => ?_⟩
    obtain ⟨chosen, answers, members⟩ := Selection.mem_recommended filtered
    exact ⟨chosen, answers, (members m).mpr ⟨usable, mentioned⟩⟩

/-! ### A sigma that is final in the phrase and not in the tag -/

def greekModel : Model := { id := "m", contextLength := 1000, pricing := ⟨1.0, 1.0⟩, useCases := ["ΑΣΑ"] }

theorem final_sigma_missed : "ΑΣ".toList <:+: "ΑΣΑ".toList ∧ greekModel ∉ (Catalog.mk [greekModel]).byUseCase "ΑΣ" ∧
    ¬Steady "ΑΣ".toList := by
  have occurs : "ΑΣ".toList <:+: "ΑΣΑ".toList := ⟨[], ['Α'], rfl⟩
  have missed : greekModel ∉ (Catalog.mk [greekModel]).byUseCase "ΑΣ" := by
    intro found
    have unmentioned : greekModel.mentions "ΑΣ" = false := by decide +kernel
    cases unmentioned.symm.trans (mem_byUseCase.mp found).2
  refine ⟨occurs, missed, fun steady => missed ?_⟩
  have found := (phrase_found_iff_steady "ΑΣ").mpr steady ⟨[greekModel]⟩ greekModel
  exact (found (List.mem_singleton_self _) ⟨_, List.mem_singleton_self _, occurs⟩).1

end Catalog
end Switchboard

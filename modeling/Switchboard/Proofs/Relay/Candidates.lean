import Mathlib.Data.List.Nodup
import Switchboard.Proofs.Spending.Operation
import Switchboard.Relay.Chat

/-!
Whom a chat may try. The first model comes from the catalog or the router, the others from the catalog
without the first, so that no id is tried twice. Choosing them touches nothing but the ledger.
-/

namespace Switchboard

open Step

/-- The ids of the models are pairwise distinct. -/
def Distinct (models : List Model) : Prop := (models.map Model.id).Nodup

/-! ### The catalog -/

namespace Catalog

theorem firstRepeat_none {seen : List String} {models : List Model}
    (h : firstRepeat? seen models = none) :
    Distinct models ∧ ∀ m ∈ models, m.id ∉ seen := by
  induction models generalizing seen with
  | nil => exact ⟨List.nodup_nil, by simp⟩
  | cons m rest ih =>
    unfold firstRepeat? at h
    split at h
    · cases h
    · rename_i fresh
      obtain ⟨distinct, unseen⟩ := ih h
      constructor
      · refine List.nodup_cons.mpr ⟨fun member => ?_, distinct⟩
        obtain ⟨m', later, same⟩ := List.mem_map.mp member
        exact unseen m' later (same ▸ List.mem_cons_self)
      · intro m' member
        rcases List.mem_cons.mp member with rfl | later
        · exact fresh
        · exact fun again => unseen m' later (List.mem_cons_of_mem _ again)

/-- Every catalog that is built has each id once. -/
theorem build_distinct {σ : Type} {models : List Model} {s s' : σ} {c : Catalog}
    (h : Answers (build models) s c s') : Distinct c.models := by
  unfold build at h
  split at h
  · exact (not_answers_fail h).elim
  · rename_i unrepeated
    obtain ⟨_, _, -, last⟩ := answers_bind.mp h
    obtain ⟨rfl, -⟩ := answers_pure.mp last
    exact (firstRepeat_none unrepeated).1

theorem byId?_of_mem {c : Catalog} (distinct : Distinct c.models) {m : Model} (listed : m ∈ c.models) :
    c.byId? m.id = some m := by
  have found : (c.byId? m.id).isSome = true := List.find?_isSome.mpr ⟨m, listed, beq_self_eq_true m.id⟩
  obtain ⟨m', found⟩ := Option.isSome_iff_exists.mp found
  have same : (m'.id == m.id) = true := List.find?_some (p := fun m' : Model => m'.id == m.id) found
  have listed' : m' ∈ c.models := List.mem_of_find?_eq_some found
  rw [found, List.inj_on_of_nodup_map distinct listed' listed (beq_iff_eq.mp same)]

end Catalog

/-! ### Fallbacks -/

theorem filterAvailable_sublist {m : Monitor} {now : Instant} {models chosen : List Model}
    (h : m.filterAvailable now models = .ok chosen) : chosen.Sublist models := by
  induction models generalizing chosen with
  | nil =>
    cases h
    exact .slnil
  | cons model rest ih =>
    obtain ⟨admitted, -, h⟩ := except_bind_ok h
    obtain ⟨others, filtered, chosen⟩ := except_bind_ok h
    cases chosen
    split
    · exact (ih filtered).cons_cons model
    · exact (ih filtered).cons model

theorem fallbackChain_distinct {m : Monitor} {first : Model} {models others : List Model} {now : Instant}
    (distinct : Distinct models) (h : Selection.fallbackChain m first models now = .ok others) :
    Distinct (first :: others) := by
  obtain ⟨available, filtered, sorted⟩ := except_bind_ok h
  cases sorted
  have permuted : (Selection.byTierThenHealth m (available.filter fun m => m.id != first.id)).Perm
      (available.filter fun m => m.id != first.id) := List.mergeSort_perm _ _
  have listed : (available.filter fun m => m.id != first.id).Sublist models :=
    List.filter_sublist.trans (filterAvailable_sublist filtered)
  refine List.nodup_cons.mpr ⟨fun member => ?_, ?_⟩
  · obtain ⟨m', chosen, same⟩ := List.mem_map.mp member
    have other := (List.mem_filter.mp (permuted.mem_iff.mp chosen)).2
    exact (bne_iff_ne.mp other) same
  · exact (permuted.map Model.id).nodup_iff.mpr (distinct.sublist (listed.map Model.id))

/-! ### Routing looks at the ledger only -/

section Looks

variable {R : Ledger → Ledger → Prop} [Trans R R R] {now : Instant} (refl : ∀ l, R l l)
  (advances : Keeps R (Ledger.advance now))

include refl advances

theorem Fitness.costScore_keeps (m : Model) (t : Task) : Keeps R (costScore m t now) := by
  refine Keeps.bind refl fun cost => ?_
  refine Keeps.bind (Ledger.canAffordModel_keeps refl advances m _ _) fun affordable => ?_
  split
  · exact refl
  · cases t.maxBudget <;> exact refl

theorem Fitness.of_keeps (monitor : Monitor) (m : Model) (t : Task) : Keeps R (Fitness.of monitor m t now) := by
  refine Keeps.bind refl fun context => ?_
  exact Keeps.bind (costScore_keeps refl advances m t) fun cost => refl

theorem Selection.route_keeps (monitor : Monitor) (t : Task) (models : List Model) :
    Keeps R (route monitor t models now) := by
  unfold route
  split
  · exact Keeps.bind refl fun _ => refl
  · refine Keeps.bind refl fun available => ?_
    split
    · exact Keeps.bind refl fun _ => refl
    · refine Keeps.bind ?_ fun ranked => ?_
      · refine Keeps.bind ?_ fun scored => refl
        exact Keeps.each refl (fun m => Fitness.of_keeps refl advances monitor m t) available
      · cases ranked with
        | nil => exact refl
        | cons best rest => exact Keeps.bind refl fun _ => refl

end Looks

/-! ### Choosing the first model -/

namespace Relay

variable {σ : Type}

section Keeps

variable {R : Relay σ → Relay σ → Prop} [Trans R R R] (refl : ∀ r, R r r)
  (routes : ∀ monitor t models, Keeps R (onLedger (Selection.route monitor t models)))

include refl routes

/-- Routing is all that choosing the first model does to a relay. -/
theorem routed_keeps (t : Task) : Keeps R (routed t : Step (Relay σ) Model) := by
  unfold routed
  refine Keeps.bind refl fun r => ?_
  cases r.router with
  | fittest =>
    refine Keeps.bind (routes r.monitor t r.catalog.models) fun choice => ?_
    cases choice <;> exact refl
  | mute =>
    refine Keeps.bind refl fun choice => ?_
    cases choice <;> exact refl

theorem primary_keeps (t : Task) (preferred : Data) :
    Keeps R (primary t preferred : Step (Relay σ) Model) := by
  unfold primary
  split
  · exact routed_keeps refl routes t
  · refine Keeps.bind refl fun r => ?_
    refine Keeps.bind refl fun named => ?_
    cases named with
    | some m => exact refl
    | none => exact Keeps.bind refl fun _ => routed_keeps refl routes t

theorem begin_keeps (counts : ∀ f, Keeps R (count f : Step (Relay σ) Unit)) (q : ChatRequest) :
    Keeps R (begin q : Step (Relay σ) (List Model × Pending)) := by
  refine Keeps.bind refl fun messages => ?_
  refine Keeps.bind ?_ fun models => ?_
  · refine Keeps.bind (primary_keeps refl routes q.task q.preferred) fun first => ?_
    refine Keeps.bind refl fun r => ?_
    exact Keeps.bind refl fun others => refl
  · refine Keeps.bind refl fun _ => ?_
    exact Keeps.bind (counts _) fun _ => refl

end Keeps

/-- The relays differ in their ledgers at most. -/
def LedgerOnly (r r' : Relay σ) : Prop := ∃ l, r' = { r with ledger := l }

theorem LedgerOnly.refl (r : Relay σ) : LedgerOnly r r := ⟨r.ledger, rfl⟩

theorem LedgerOnly.trans {r r' r'' : Relay σ} (h : LedgerOnly r r') (h' : LedgerOnly r' r'') :
    LedgerOnly r r'' := by
  obtain ⟨l, rfl⟩ := h
  obtain ⟨l', rfl⟩ := h'
  exact ⟨l', rfl⟩

instance : Trans (LedgerOnly : Relay σ → Relay σ → Prop) LedgerOnly LedgerOnly := ⟨LedgerOnly.trans⟩

theorem primary_ledgerOnly (t : Task) (preferred : Data) :
    Keeps LedgerOnly (primary t preferred : Step (Relay σ) Model) :=
  primary_keeps LedgerOnly.refl (fun _ _ _ _ => ⟨_, rfl⟩) t preferred

end Relay
end Switchboard

import Switchboard.Proofs.Relay.Candidates
import Switchboard.Proofs.Relay.Failover

/-!
What a chat may try is a matter of the catalog and of health. What the task asks for and what is left of
the budget decide no more than the order: two chats over the same catalog, health and time of day may try
the same models, whatever each of them asks for and can pay.
-/

namespace Switchboard

open Step

namespace Step

variable {σ α β : Type}

theorem answers_each_cons {f : α → Step σ β} {a : α} {rest : List α} {s s' : σ} {bs : List β} :
    Answers (each f (a :: rest)) s bs s' ↔
      ∃ b others between, Answers (f a) s b between ∧ Answers (each f rest) between others s' ∧
        bs = b :: others := by
  show Answers (f a >>= fun b => each f rest >>= fun bs => pure (b :: bs)) s bs s' ↔ _
  simp only [answers_bind, answers_pure]
  constructor
  · rintro ⟨b, between, first, others, _, later, rfl, rfl⟩
    exact ⟨b, others, between, first, later, rfl⟩
  · rintro ⟨b, others, between, first, later, rfl⟩
    exact ⟨b, between, first, others, s', later, rfl, rfl⟩

theorem mem_of_answers_each {f : α → Step σ β} {items : List α} {s s' : σ} {bs : List β} {b : β}
    (h : Answers (each f items) s bs s') (member : b ∈ bs) :
    ∃ a ∈ items, ∃ t t', Answers (f a) t b t' := by
  induction items generalizing s bs with
  | nil =>
    obtain ⟨rfl, -⟩ := answers_pure.mp h
    cases member
  | cons a rest ih =>
    obtain ⟨first, others, between, answered, later, rfl⟩ := answers_each_cons.mp h
    rcases List.mem_cons.mp member with rfl | member
    · exact ⟨a, List.mem_cons_self, _, _, answered⟩
    · obtain ⟨a', listed, made⟩ := ih later member
      exact ⟨a', List.mem_cons_of_mem a listed, made⟩

end Step

/-! ### Who is available -/

/-- Both the catalog and the health of the model allow to choose it now, as far as can be told. -/
def Monitor.allows (m : Monitor) (now : Instant) (model : Model) : Bool :=
  (m.admits model now).toOption.getD false

theorem Monitor.filterAvailable_ok {m : Monitor} {now : Instant} {models chosen : List Model}
    (h : m.filterAvailable now models = .ok chosen) : chosen = models.filter (m.allows now) := by
  induction models generalizing chosen with
  | nil =>
    cases h
    rfl
  | cons model rest ih =>
    obtain ⟨admitted, asked, h⟩ := except_bind_ok h
    obtain ⟨others, filtered, chosen⟩ := except_bind_ok h
    cases chosen
    have allowed : m.allows now model = admitted := by rw [allows, asked]; rfl
    rw [List.filter_cons, allowed, ih filtered]

/-- Putting one of the models in front of the others is a matter of order. -/
theorem Distinct.front_perm {models : List Model} (distinct : Distinct models) {first : Model}
    (member : first ∈ models) : (first :: models.filter (·.id != first.id)).Perm models := by
  induction models with
  | nil => cases member
  | cons m rest ih =>
    obtain ⟨fresh, distinct⟩ := List.nodup_cons.mp distinct
    rcases List.mem_cons.mp member with rfl | later
    · have others : rest.filter (·.id != first.id) = rest := by
        refine List.filter_eq_self.mpr fun m' listed => bne_iff_ne.mpr fun same => fresh ?_
        exact same ▸ List.mem_map_of_mem listed
      rw [List.filter_cons_of_neg (by simp), others]
    · have other : m.id ≠ first.id := by
        rintro same
        exact fresh (same ▸ List.mem_map_of_mem later)
      have kept : (m :: rest).filter (·.id != first.id) = m :: rest.filter (·.id != first.id) :=
        List.filter_cons_of_pos (bne_iff_ne.mpr other)
      rw [kept]
      exact (List.Perm.swap m first _).trans ((ih distinct later).cons m)

/-! ### The router -/

theorem Fitness.of_answers {monitor : Monitor} {m : Model} {t : Task} {now : Instant} {l l' : Ledger}
    {f : Fitness} (h : Answers (Fitness.of monitor m t now) l f l') : f.model = m := by
  obtain ⟨_, _, -, h⟩ := answers_bind.mp h
  obtain ⟨_, _, -, h⟩ := answers_bind.mp h
  obtain ⟨rfl, -⟩ := answers_pure.mp h
  rfl

namespace Selection

theorem byFitness_perm (scored : List Fitness) : (byFitness scored).Perm scored :=
  List.mergeSort_perm _ _

theorem byTierThenHealth_perm (monitor : Monitor) (models : List Model) :
    (byTierThenHealth monitor models).Perm models :=
  List.mergeSort_perm _ _

/-- The router chooses an available model, or the first of all if none is available. -/
theorem route_chooses {monitor : Monitor} {t : Task} {models : List Model} {now : Instant} {l l' : Ledger}
    {m : Model} (h : Answers (route monitor t models now) l (some m) l') :
    m ∈ models.filter (monitor.allows now) ∨
      models.filter (monitor.allows now) = [] ∧ models.head? = some m := by
  cases models with
  | nil =>
    obtain ⟨_, _, -, h⟩ := answers_bind.mp h
    cases (answers_pure.mp h).1
  | cons first rest =>
    obtain ⟨available, _, filtered, rest⟩ := answers_bind.mp h
    obtain rfl := Monitor.filterAvailable_ok (answers_ofExcept.mp filtered).1
    split at rest
    · rename_i none
      obtain ⟨_, _, -, last⟩ := answers_bind.mp rest
      cases (answers_pure.mp last).1
      exact .inr ⟨List.isEmpty_iff.mp none, rfl⟩
    · obtain ⟨ranked, _, ranking, rest⟩ := answers_bind.mp rest
      obtain ⟨scored, _, scoring, sorted⟩ := answers_bind.mp ranking
      obtain ⟨rfl, rfl⟩ := answers_pure.mp sorted
      split at rest
      · cases (answers_pure.mp rest).1
      · rename_i best others order
        obtain ⟨_, _, -, last⟩ := answers_bind.mp rest
        cases (answers_pure.mp last).1
        have ranked : best ∈ byFitness scored := order ▸ List.mem_cons_self
        obtain ⟨m, listed, _, _, made⟩ :=
          mem_of_answers_each scoring ((byFitness_perm scored).mem_iff.mp ranked)
        exact .inl (Fitness.of_answers made ▸ listed)

end Selection

namespace Relay

variable {σ : Type}

/-! ### One chat -/

/-- The models of the catalog that may be chosen now. -/
def available (r : Relay σ) : List Model := r.catalog.models.filter (r.monitor.allows r.clock.now)

/-- The caller asks for this model, and the catalog has it. -/
def Prefers (c : Catalog) (preferred : Data) (m : Model) : Prop :=
  preferred.isSet = true ∧ c.named? preferred = .ok (some m)

theorem Prefers.found {c : Catalog} {preferred : Data} {m : Model} (h : Prefers c preferred m) :
    ∃ id, preferred = .text id ∧ c.byId? id = some m := by
  obtain ⟨-, named⟩ := h
  unfold Catalog.named? at named
  split at named
  · exact ⟨_, rfl, Except.ok.inj named⟩
  · cases usable : Argument.key preferred with
    | ok _ => rw [usable] at named; cases Except.ok.inj named
    | error _ => rw [usable] at named; cases named

theorem Prefers.listed {c : Catalog} {preferred : Data} {m : Model} (h : Prefers c preferred m) :
    m ∈ c.models := by
  obtain ⟨id, -, found⟩ := h.found
  exact List.mem_of_find?_eq_some found

theorem LedgerOnly.available {r r' : Relay σ} (h : LedgerOnly r r') : r'.available = r.available := by
  obtain ⟨l, rfl⟩ := h
  rfl

theorem answers_query {α : Type} {f : Monitor → Instant → Except Fault α} {r s : Relay σ} {a : α} :
    Step.Answers (query f) r a s ↔ f r.monitor r.clock.now = .ok a ∧ s = r := by
  simp only [Step.Answers, query, eq_comm]

theorem answers_onLedger {α : Type} {step : Instant → Step Ledger α} {r s : Relay σ} {a : α} :
    Step.Answers (onLedger step) r a s ↔
      ∃ l, Step.Answers (step r.clock.now) r.ledger a l ∧ s = { r with ledger := l } :=
  answers_on (x := step r.clock.now)

theorem routed_chooses {r s : Relay σ} {t : Task} {m : Model} (h : Step.Answers (routed t) r m s) :
    m ∈ r.available ∨ r.available = [] ∧ r.catalog.models.head? = some m := by
  obtain ⟨_, _, got, rest⟩ := answers_bind.mp h
  obtain ⟨rfl, rfl⟩ := answers_get.mp got
  split at rest
  · obtain ⟨choice, _, chosen, last⟩ := answers_bind.mp rest
    cases choice with
    | none => exact (not_answers_fail last).elim
    | some m' =>
      obtain ⟨rfl, -⟩ := answers_pure.mp last
      obtain ⟨l, routed, -⟩ := answers_onLedger.mp chosen
      exact Selection.route_chooses routed
  · obtain ⟨choice, _, chosen, last⟩ := answers_bind.mp rest
    obtain ⟨rfl, -⟩ := answers_pure.mp chosen
    exact (not_answers_fail last).elim

theorem primary_chooses {r s : Relay σ} {t : Task} {preferred : Data} {m : Model}
    (h : Step.Answers (primary t preferred) r m s) :
    Prefers r.catalog preferred m ∨ (∀ m', ¬Prefers r.catalog preferred m') ∧
      (m ∈ r.available ∨ r.available = [] ∧ r.catalog.models.head? = some m) := by
  unfold primary at h
  split at h
  · rename_i unset
    refine .inr ⟨fun m' prefers => ?_, routed_chooses h⟩
    rw [prefers.1] at unset
    cases unset
  · rename_i set
    have set : preferred.isSet = true := by simpa using set
    obtain ⟨_, _, got, rest⟩ := answers_bind.mp h
    obtain ⟨rfl, rfl⟩ := answers_get.mp got
    obtain ⟨found, _, asked, rest⟩ := answers_bind.mp rest
    obtain ⟨named, rfl⟩ := answers_ofExcept.mp asked
    cases found with
    | some m' =>
      obtain ⟨rfl, -⟩ := answers_pure.mp rest
      exact .inl ⟨set, named⟩
    | none =>
      obtain ⟨_, _, written, rest⟩ := answers_bind.mp rest
      obtain rfl := answers_write.mp written
      refine .inr ⟨fun m' prefers => ?_, routed_chooses rest⟩
      cases named.symm.trans prefers.2

/-- The candidates are the first model and the other available ones, by tier and health. -/
theorem candidates_split {r s : Relay σ} {t : Task} {preferred : Data} {models : List Model}
    (h : Step.Answers (candidates t preferred) r models s) :
    ∃ first s', Step.Answers (primary t preferred) r first s' ∧ models =
      first :: Selection.byTierThenHealth r.monitor (r.available.filter (·.id != first.id)) := by
  obtain ⟨first, between, chosen, rest⟩ := answers_bind.mp h
  obtain ⟨_, _, got, asking⟩ := answers_bind.mp rest
  obtain ⟨rfl, rfl⟩ := answers_get.mp got
  obtain ⟨others, _, asked, last⟩ := answers_bind.mp asking
  obtain ⟨chain, rfl⟩ := answers_query.mp asked
  obtain ⟨rfl, -⟩ := answers_pure.mp last
  obtain ⟨available, filtered, sorted⟩ := except_bind_ok chain
  cases sorted
  obtain rfl := Monitor.filterAvailable_ok filtered
  refine ⟨first, _, chosen, ?_⟩
  obtain ⟨l, rfl⟩ : LedgerOnly r _ := chosen.2 ▸ primary_ledgerOnly t preferred r
  rfl

/-- Whom a chat may try is in the catalog. -/
theorem candidates_listed {r s : Relay σ} {t : Task} {preferred : Data} {models : List Model}
    (h : Step.Answers (candidates t preferred) r models s) : ∀ m ∈ models, m ∈ r.catalog.models := by
  obtain ⟨first, _, chosen, rfl⟩ := candidates_split h
  refine List.forall_mem_cons.mpr ⟨?_, fun m listed => ?_⟩
  · rcases primary_chooses chosen with prefers | ⟨-, listed | ⟨-, head⟩⟩
    · exact prefers.listed
    · exact (List.mem_filter.mp listed).1
    · exact List.mem_of_head? head
  · have sorted := (Selection.byTierThenHealth_perm r.monitor _).mem_iff.mp listed
    exact (List.mem_filter.mp (List.mem_filter.mp sorted).1).1

theorem begin_candidates {q : ChatRequest} {r s : Relay σ} {models : List Model} {p : Pending}
    (h : Step.Answers (begin q) r (models, p) s) :
    ∃ s', Step.Answers (candidates q.task q.preferred) r models s' := by
  obtain ⟨messages, _, coerced, rest⟩ := answers_bind.mp h
  obtain ⟨-, rfl⟩ := answers_ofExcept.mp coerced
  obtain ⟨models, s', listed, rest⟩ := answers_bind.mp rest
  obtain ⟨_, _, -, rest⟩ := answers_bind.mp rest
  obtain ⟨_, _, -, last⟩ := answers_bind.mp rest
  obtain ⟨same, -⟩ := answers_pure.mp last
  obtain ⟨rfl, -⟩ := Prod.mk.inj same
  exact ⟨s', listed⟩

theorem available_distinct {r : Relay σ} (distinct : Distinct r.catalog.models) : Distinct r.available :=
  distinct.sublist (List.filter_sublist.map Model.id)

theorem candidates_preferred {r s : Relay σ} {t : Task} {preferred : Data} {models : List Model}
    (h : Step.Answers (candidates t preferred) r models s) {first : Model}
    (prefers : Prefers r.catalog preferred first) :
    models = first :: Selection.byTierThenHealth r.monitor (r.available.filter (·.id != first.id)) := by
  obtain ⟨first', _, chosen, rfl⟩ := candidates_split h
  rcases primary_chooses chosen with prefers' | ⟨unwanted, -⟩
  · cases Except.ok.inj (prefers'.2.symm.trans prefers.2)
    rfl
  · exact (unwanted first prefers).elim

theorem candidates_routed {r s : Relay σ} (distinct : Distinct r.catalog.models) {t : Task}
    {preferred : Data} {models : List Model} (h : Step.Answers (candidates t preferred) r models s)
    (unwanted : ∀ m, ¬Prefers r.catalog preferred m) :
    (r.available ≠ [] → models.Perm r.available) ∧
      (r.available = [] → ∃ first, r.catalog.models.head? = some first ∧ models = [first]) := by
  obtain ⟨first, _, chosen, rfl⟩ := candidates_split h
  rcases primary_chooses chosen with prefers | ⟨-, listed | ⟨none, head⟩⟩
  · exact (unwanted first prefers).elim
  · have front := (available_distinct distinct).front_perm listed
    refine ⟨fun _ => .trans (.cons first (Selection.byTierThenHealth_perm r.monitor _)) front, ?_⟩
    intro none
    rw [none] at listed
    cases listed
  · refine ⟨fun some => (some none).elim, fun _ => ⟨first, head, ?_⟩⟩
    rw [none, List.filter_nil, Selection.byTierThenHealth, List.mergeSort_nil]

/-! ### Two chats -/

/-- Neither the task nor the state of the budget changes whom a chat may try. Behind a preferred model of
the catalog even the order is the same; without one the candidates are the available models in some
order, or the first model of the catalog alone if none is available. -/
theorem candidates_of_health {listed : List Model} {r r' s s' : Relay σ} {t t' : Task} {preferred : Data}
    {models models' : List Model} (built : Step.Answers (Catalog.build listed) () r.catalog ())
    (catalog : r'.catalog = r.catalog) (monitor : r'.monitor = r.monitor)
    (now : r'.clock.now = r.clock.now) (chosen : Step.Answers (candidates t preferred) r models s)
    (chosen' : Step.Answers (candidates t' preferred) r' models' s') :
    (∀ first, Prefers r.catalog preferred first → models = models' ∧
      ∃ others, models = first :: others ∧ others.Perm (r.available.filter (·.id != first.id))) ∧
    ((∀ m, ¬Prefers r.catalog preferred m) → models.Perm models' ∧
      (r.available ≠ [] → models.Perm r.available) ∧
      (r.available = [] → ∃ first, r.catalog.models.head? = some first ∧ models = [first])) := by
  have distinct := Catalog.build_distinct built
  have same : r'.available = r.available := by rw [available, catalog, monitor, now, available]
  constructor
  · intro first prefers
    have order := candidates_preferred chosen prefers
    have order' := candidates_preferred chosen' (catalog ▸ prefers)
    rw [monitor, same, ← order] at order'
    exact ⟨order'.symm, _, order, Selection.byTierThenHealth_perm r.monitor _⟩
  · intro unwanted
    obtain ⟨some, none⟩ := candidates_routed distinct chosen unwanted
    obtain ⟨some', none'⟩ := candidates_routed (catalog ▸ distinct) chosen' (catalog ▸ unwanted)
    rw [same] at some' none'
    rw [catalog] at none'
    refine ⟨?_, some, none⟩
    -- With none available both chats are left with the first model of the same catalog.
    by_cases empty : r.available = []
    · obtain ⟨first, head, rfl⟩ := none empty
      obtain ⟨first', head', rfl⟩ := none' empty
      cases head.symm.trans head'
      exact .refl _
    · exact (some empty).trans (some' empty).symm

/-! ### Two ledgers, one of them without a budget -/

def penniless : Relay Unit := { twoModels with ledger := { monthlyBudget := 0.0, today := ⟨0⟩ } }

theorem twoModels_chosen {r : Relay Unit} (paid : LedgerOnly twoModels r) {t : Task}
    (scorable : (each (Fitness.of {} · t twoModels.clock.now) [busy, idle] r.ledger).answer.isOk = true) :
    ∃ models s, Step.Answers (candidates t .null) r models s := by
  obtain ⟨l, rfl⟩ := paid
  rcases answers_or_faults (each (Fitness.of {} · t twoModels.clock.now) [busy, idle]) l with
    ⟨scored, scoring⟩ | ⟨fault, unscored⟩
  · obtain ⟨best, others, ranked⟩ : ∃ best others, Selection.byFitness scored = best :: others := by
      refine List.exists_cons_of_ne_nil fun none => ?_
      obtain rfl := List.perm_nil.mp (none ▸ (Selection.byFitness_perm scored).symm)
      obtain ⟨_, _, _, -, -, some⟩ := answers_each_cons.mp scoring
      cases some
    have ranking : Step.Answers (Selection.rank {} t [busy, idle] twoModels.clock.now) l (best :: others) _ :=
      answers_bind.mpr ⟨scored, _, scoring, answers_pure.mpr ⟨ranked.symm, rfl⟩⟩
    have routing : Step.Answers (Selection.route {} t [busy, idle] twoModels.clock.now) l best.model _ :=
      answers_bind.mpr ⟨[busy, idle], l, ⟨rfl, rfl⟩, answers_bind.mpr ⟨_, _, ranking,
        answers_bind.mpr ⟨(), _, answers_write.mpr rfl, answers_pure.mpr ⟨rfl, rfl⟩⟩⟩⟩
    have routed : Step.Answers (primary t .null) { twoModels with ledger := l } best.model _ :=
      answers_bind.mpr ⟨_, _, answers_get.mpr ⟨rfl, rfl⟩, answers_bind.mpr ⟨some best.model, _,
        answers_onLedger.mpr ⟨_, routing, rfl⟩, answers_pure.mpr ⟨rfl, rfl⟩⟩⟩
    exact ⟨_, _, answers_bind.mpr ⟨best.model, _, routed, answers_bind.mpr ⟨_, _, answers_get.mpr ⟨rfl, rfl⟩,
      answers_bind.mpr ⟨_, _, answers_query.mpr ⟨rfl, rfl⟩, answers_pure.mpr ⟨rfl, rfl⟩⟩⟩⟩⟩
  · rw [unscored.1] at scorable
    cases scorable

/-- A simple task that can be paid for and a hard one that cannot. -/
theorem penniless_candidates : ∃ models models' s s',
    Step.Answers (candidates {} .null) twoModels models s ∧
    Step.Answers (candidates { math := true, contextLength := 2000 } .null) penniless models' s' ∧
    models.Perm models' ∧ models.Perm [busy, idle] := by
  obtain ⟨models, s, chosen⟩ : ∃ models s, Step.Answers (candidates {} .null) twoModels models s :=
    twoModels_chosen (.refl _) (by decide +kernel)
  obtain ⟨models', s', chosen'⟩ :=
    @twoModels_chosen penniless ⟨_, rfl⟩ { math := true, contextLength := 2000 } (by decide +kernel)
  have built : Step.Answers (Catalog.build [busy, idle]) () twoModels.catalog () := ⟨rfl, rfl⟩
  have catalog : penniless.catalog = twoModels.catalog := rfl
  obtain ⟨-, routed⟩ := candidates_of_health built catalog rfl rfl chosen chosen'
  obtain ⟨same, some, -⟩ := routed fun m prefers => Bool.false_ne_true prefers.1
  exact ⟨models, models', s, s', chosen, chosen', same, some (List.cons_ne_nil _ _)⟩

end Relay
end Switchboard

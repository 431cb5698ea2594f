import Switchboard.Proofs.Binary64.Order
import Switchboard.Proofs.Relay.Choice
import Switchboard.Proofs.Spending.Operation

/-!
How models are ranked. Scoring a model looks at the ledger, which may close the day, but no score depends
on the models that were scored before; so a ranking is a stable sort of scores that stand on their own.
`ranks_and_routes` says what the router makes of it.
-/

namespace Switchboard

open Step

namespace Fitness

variable {monitor : Monitor} {m : Model} {t : Task} {now : Instant} {l l' : Ledger}

/-! ### One score -/

theorem canAffordModel_turns {inputTokens outputTokens : Number} {b : Bool}
    (h : Answers (Ledger.canAffordModel m inputTokens outputTokens now) l b l') :
    ∃ d, now.day = .ok d ∧ l' = l.onDay d ∧
      Answers (Ledger.canAffordModel m inputTokens outputTokens now) l' b l' := by
  obtain ⟨cost, l, estimated, viewed⟩ := answers_bind.mp h
  obtain ⟨estimate, rfl⟩ := answers_ofExcept.mp estimated
  obtain ⟨rfl, d, day, rfl⟩ := Ledger.view_answers viewed
  have still := Ledger.advance_still day (Ledger.le_onDay_today l d)
  exact ⟨d, day, rfl, answers_bind.mpr ⟨cost, _, answers_ofExcept.mpr ⟨estimate, rfl⟩,
    answers_bind.mpr ⟨(), _, still, answers_bind.mpr ⟨_, _, answers_get.mpr ⟨rfl, rfl⟩,
      answers_pure.mpr ⟨rfl, rfl⟩⟩⟩⟩⟩

theorem costScore_turns {score : Float} (h : Answers (costScore m t now) l score l') :
    ∃ d, now.day = .ok d ∧ l' = l.onDay d ∧ Answers (costScore m t now) l' score l' := by
  obtain ⟨cost, l, estimated, rest⟩ := answers_bind.mp h
  obtain ⟨estimate, rfl⟩ := answers_ofExcept.mp estimated
  obtain ⟨affordable, _, asked, rest⟩ := answers_bind.mp rest
  obtain ⟨d, day, rfl, again⟩ := canAffordModel_turns asked
  have same : l' = l.onDay d := by
    split at rest
    · exact (answers_pure.mp rest).2
    · split at rest <;> exact (answers_pure.mp rest).2
  subst same
  exact ⟨d, day, rfl, answers_bind.mpr ⟨cost, _, answers_ofExcept.mpr ⟨estimate, rfl⟩,
    answers_bind.mpr ⟨affordable, _, again, rest⟩⟩⟩

/-- Once a model is scored the ledger is on the day of the clock, and the score is the same from there. -/
theorem of_turns {f : Fitness} (h : Answers (Fitness.of monitor m t now) l f l') :
    ∃ d, now.day = .ok d ∧ l' = l.onDay d ∧ Answers (Fitness.of monitor m t now) l' f l' := by
  obtain ⟨context, _, measured, rest⟩ := answers_bind.mp h
  obtain ⟨measure, rfl⟩ := answers_ofExcept.mp measured
  obtain ⟨cost, _, priced, last⟩ := answers_bind.mp rest
  obtain ⟨d, day, rfl, again⟩ := costScore_turns priced
  obtain ⟨made, rfl⟩ := answers_pure.mp last
  exact ⟨d, day, rfl, answers_bind.mpr ⟨context, _, answers_ofExcept.mpr ⟨measure, rfl⟩,
    answers_bind.mpr ⟨cost, _, again, answers_pure.mpr ⟨made, rfl⟩⟩⟩⟩

/-! ### Many scores -/

/-- Any of the models can be scored with the ledger as it is. -/
def Scores (monitor : Monitor) (t : Task) (now : Instant) (l : Ledger) (models : List Model) : Prop :=
  ∀ m ∈ models, ∃ f l', Answers (Fitness.of monitor m t now) l f l'

/-- The fitness of a model with the ledger as it is. -/
def scored (monitor : Monitor) (t : Task) (now : Instant) (l : Ledger) (m : Model) : Fitness :=
  (Fitness.of monitor m t now l).answer.toOption.getD default

theorem scored_eq {f : Fitness} (h : Answers (Fitness.of monitor m t now) l f l') :
    scored monitor t now l m = f := by
  rw [scored, h.1]
  rfl

theorem scored_model {models : List Model} (scores : Scores monitor t now l models) (listed : m ∈ models) :
    (scored monitor t now l m).model = m := by
  obtain ⟨f, l', answered⟩ := scores m listed
  rw [scored_eq answered]
  exact of_answers answered

/-- Scores of models that were each scored with the same ledger come out of scoring them in turn. -/
theorem each_of {models : List Model} {fit : Model → Fitness}
    (fits : ∀ m ∈ models, ∃ l', Answers (Fitness.of monitor m t now) l (fit m) l') :
    ∃ l', Answers (each (Fitness.of monitor · t now) models) l (models.map fit) l' := by
  induction models generalizing l with
  | nil => exact ⟨l, answers_pure.mpr ⟨rfl, rfl⟩⟩
  | cons m rest ih =>
    obtain ⟨l₁, first⟩ := fits m List.mem_cons_self
    obtain ⟨d, day, rfl, -⟩ := of_turns first
    have later : ∀ m' ∈ rest, ∃ l', Answers (Fitness.of monitor m' t now) (l.onDay d) (fit m') l' := by
      intro m' listed
      obtain ⟨l₂, answered⟩ := fits m' (List.mem_cons_of_mem m listed)
      obtain ⟨d', day', rfl, again⟩ := of_turns answered
      obtain rfl := Except.ok.inj (day.symm.trans day')
      exact ⟨_, again⟩
    obtain ⟨l', others⟩ := ih later
    exact ⟨l', answers_each_cons.mpr ⟨_, _, _, first, others, rfl⟩⟩

theorem each_scored {models : List Model} (scores : Scores monitor t now l models) :
    ∃ l', Answers (each (Fitness.of monitor · t now) models) l (models.map (scored monitor t now l)) l' := by
  refine each_of fun m listed => ?_
  obtain ⟨f, l', answered⟩ := scores m listed
  exact ⟨l', (scored_eq answered).symm ▸ answered⟩

end Fitness

/-! ### Rankings -/

namespace Selection

open Fitness

/-- The scores in descending order, each once, and those of equal score as they were. -/
structure Ranking (scored ranked : List Fitness) : Prop where
  perm : ranked.Perm scored
  descending : ranked.Pairwise fun a b => b.score ≤ a.score
  tied : ∀ x : Float, ranked.filter (·.score == x) = scored.filter (·.score == x)

/-- The earliest of the models whose score no other one exceeds. -/
def FirstBest (score : Model → Float) (models : List Model) (best : Model) : Prop :=
  ∃ before after, models = before ++ best :: after ∧ (∀ m ∈ before, score m < score best) ∧
    ∀ m ∈ models, ¬score best < score m

theorem byFitness_ranking {scored : List Fitness} (defined : ∀ f ∈ scored, f.score.isNaN = false) :
    Ranking scored (byFitness scored) where
  perm := byFitness_perm scored
  descending := Binary64.descending_sorted defined
  tied := Binary64.descending_stable defined

variable {monitor : Monitor} {t : Task} {now : Instant} {l : Ledger} {models available : List Model}

theorem rank_answers (scores : Scores monitor t now l models) :
    ∃ l', Answers (rank monitor t models now) l (byFitness (models.map (scored monitor t now l))) l' := by
  obtain ⟨l', scoring⟩ := each_scored scores
  exact ⟨l', answers_bind.mpr ⟨_, l', scoring, answers_pure.mpr ⟨rfl, rfl⟩⟩⟩

/-- What the ranking puts first is the score of the first of the best models. -/
theorem byFitness_firstBest (scores : Scores monitor t now l models)
    (defined : ∀ m ∈ models, (scored monitor t now l m).score.isNaN = false) {best : Fitness}
    {others : List Fitness} (first : byFitness (models.map (scored monitor t now l)) = best :: others) :
    FirstBest (fun m => (scored monitor t now l m).score) models best.model := by
  obtain ⟨before, after, split, worse, unexceeded⟩ :=
    Binary64.descending_first (List.forall_mem_map.mpr defined) first
  obtain ⟨earlier, rest, rfl, rfl, behind⟩ := List.map_eq_append_iff.mp split
  obtain ⟨m, later, rfl, rfl, rfl⟩ := List.map_eq_cons_iff.mp behind
  have listed : m ∈ earlier ++ m :: later := List.mem_append_right _ List.mem_cons_self
  rw [scored_model scores listed]
  exact ⟨earlier, later, rfl, fun m' earlier => worse _ (List.mem_map_of_mem earlier),
    fun m' listed => unexceeded _ (List.mem_map_of_mem listed)⟩

theorem route_falls_back {first : Model} {rest : List Model}
    (filtered : monitor.filterAvailable now (first :: rest) = .ok []) :
    Answers (route monitor t (first :: rest) now) l (some first) l :=
  answers_bind.mpr ⟨[], l, answers_ofExcept.mpr ⟨filtered, rfl⟩,
    answers_bind.mpr ⟨(), l, answers_write.mpr rfl, answers_pure.mpr ⟨rfl, rfl⟩⟩⟩

theorem route_takes_first {first m : Model} {rest others : List Model}
    (filtered : monitor.filterAvailable now (first :: rest) = .ok (m :: others))
    (scores : Scores monitor t now l (m :: others)) :
    ∃ best worse l', byFitness ((m :: others).map (scored monitor t now l)) = best :: worse ∧
      Answers (route monitor t (first :: rest) now) l best.model l' := by
  obtain ⟨l', ranking⟩ := rank_answers scores
  cases ranked : byFitness ((m :: others).map (scored monitor t now l)) with
  | nil =>
    have length := (byFitness_perm ((m :: others).map (scored monitor t now l))).length_eq
    rw [ranked] at length
    cases length
  | cons best worse =>
    rw [ranked] at ranking
    exact ⟨best, worse, l', rfl, answers_bind.mpr ⟨m :: others, l, answers_ofExcept.mpr ⟨filtered, rfl⟩,
      answers_bind.mpr ⟨_, l', ranking, answers_bind.mpr ⟨(), l', answers_write.mpr rfl,
        answers_pure.mpr ⟨rfl, rfl⟩⟩⟩⟩⟩

/-- Where the models can be scored, and all scores are defined, a ranking has the score of every model, in
descending order and otherwise as the models are given. The router chooses none only among none, the first
model where none is available, and else the first of the best available ones. -/
theorem ranks_and_routes (scores : Scores monitor t now l models)
    (defined : ∀ m ∈ models, (scored monitor t now l m).score.isNaN = false) :
    (∃ ranked l', Answers (rank monitor t models now) l ranked l' ∧
      (∀ m ∈ models, (scored monitor t now l m).model = m) ∧
      Ranking (models.map (scored monitor t now l)) ranked) ∧
    ∀ available, monitor.filterAvailable now models = .ok available →
      ∃ choice l', Answers (route monitor t models now) l choice l' ∧ (choice = none ↔ models = []) ∧
        (available = [] → choice = models.head?) ∧
        (available ≠ [] → ∃ best, choice = some best ∧
          FirstBest (fun m => (scored monitor t now l m).score) available best) := by
  refine ⟨?_, fun available filtered => ?_⟩
  · obtain ⟨l', ranking⟩ := rank_answers scores
    exact ⟨_, l', ranking, fun m => scored_model scores,
      byFitness_ranking (List.forall_mem_map.mpr defined)⟩
  · have among := filterAvailable_sublist filtered
    cases models with
    | nil =>
      obtain rfl := List.sublist_nil.mp among
      refine ⟨none, l, ?_, by simp, fun _ => rfl, fun usable => (usable rfl).elim⟩
      exact answers_bind.mpr ⟨(), l, answers_write.mpr rfl, answers_pure.mpr ⟨rfl, rfl⟩⟩
    | cons first rest => cases available with
      | nil =>
        refine ⟨some first, l, route_falls_back filtered, by simp, fun _ => rfl, ?_⟩
        exact fun usable => (usable rfl).elim
      | cons m others =>
        have scores' : Scores monitor t now l (m :: others) := fun m' listed =>
          scores m' (among.mem listed)
        have defined' := fun m' (listed : m' ∈ m :: others) => defined m' (among.mem listed)
        obtain ⟨best, worse, l', ranked, routed⟩ := route_takes_first filtered scores'
        refine ⟨some best.model, l', routed, by simp, by simp, fun _ => ⟨best.model, rfl, ?_⟩⟩
        exact byFitness_firstBest scores' defined' ranked

/-! ### Two models of the same score -/

def twins : List Model :=
  [{ id := "elder", contextLength := 8000, pricing := ⟨1.0, 2.0⟩ },
    { id := "younger", contextLength := 8000, pricing := ⟨2.0, 1.0⟩ }]

def openLedger : Ledger := { monthlyBudget := 30.0, today := ⟨0⟩ }

theorem elder_twin_first : ∃ best l', Answers (route {} {} twins ⟨0, some 0, none⟩) openLedger (some best) l' ∧
    best.id = "elder" := by
  have scorable : ∀ m ∈ twins, (Fitness.of {} m {} ⟨0, some 0, none⟩ openLedger).answer.isOk = true := by
    decide +kernel
  have scores : Scores {} {} ⟨0, some 0, none⟩ openLedger twins := fun m listed =>
    answers_of_isOk (scorable m listed)
  have defined : ∀ m ∈ twins, (scored {} {} ⟨0, some 0, none⟩ openLedger m).score.isNaN = false := by
    decide +kernel
  have tied : ∀ m ∈ twins, ∀ m' ∈ twins,
      ¬(scored {} {} ⟨0, some 0, none⟩ openLedger m).score < (scored {} {} ⟨0, some 0, none⟩ openLedger m').score := by
    decide +kernel
  obtain ⟨-, routes⟩ := ranks_and_routes scores defined
  obtain ⟨choice, l', routed, -, -, chosen⟩ := routes twins rfl
  obtain ⟨best, rfl, before, after, order, worse, -⟩ := chosen (List.cons_ne_nil _ _)
  refine ⟨best, l', routed, ?_⟩
  cases before with
  | nil =>
    obtain rfl := (List.cons.inj order).1
    rfl
  | cons m earlier =>
    have first : m ∈ twins := order ▸ List.mem_cons_self
    have listed : best ∈ twins := order ▸ List.mem_append_right _ List.mem_cons_self
    exact (tied m first best listed (worse m List.mem_cons_self)).elim

end Selection

end Switchboard

import Switchboard.Proofs.Spending.Period
import Switchboard.Proofs.Step
import Switchboard.Spending.Report

/-!
What the operations of a ledger do to it. Each of them takes at most one look at the clock, and only a
request that is accepted is charged on it: `step_takes` is all that a run of operations needs to know.
-/

namespace Switchboard

open Step

/-! ### Alternatives -/

theorem cheaperAmong_still {σ : Type} (find : String → Option Model) (current : Model) (ids : List Data) :
    Keeps Eq (cheaperAmong find current ids : Step σ (Option String)) := by
  induction ids with
  | nil => exact fun _ => rfl
  | cons d rest ih =>
    unfold cheaperAmong
    refine Keeps.bind (fun _ => rfl) fun id => ?_
    split
    · exact ih
    · split
      · exact Keeps.bind (fun _ => rfl) fun _ => ih
      · split
        · exact fun _ => rfl
        · exact ih

theorem cheaperAlternative_still {σ : Type} (lookup : Option (String → Option Model))
    (current : Option Model) (ids : Data) :
    Keeps Eq (cheaperAlternative lookup current ids : Step σ (Option String)) := by
  unfold cheaperAlternative
  split
  · exact fun _ => rfl
  · refine Keeps.bind (fun _ => rfl) fun items => ?_
    split
    · exact cheaperAmong_still _ _ _
    · exact fun _ => rfl
    · exact fun _ => rfl

namespace Ledger

/-! ### Looks at the clock -/

/-- The ledger once it has seen a day. -/
def onDay (l : Ledger) (d : Day) : Ledger := if d ≤ l.today then l else l.closeDay d

/-- The ledger after a look at the clock and what is charged on it. -/
def take (l : Ledger) (look : Look) : Ledger :=
  look.charge.elim (l.onDay look.day) fun c => (l.onDay look.day).add c.id c.cost

/-- The day of the clock cannot be taken over: it is none, or the tracked day cannot be archived. -/
def Stuck (l : Ledger) (now : Instant) (fault : Fault) : Prop :=
  now.day = .error fault ∨ ∃ d, now.day = .ok d ∧ ¬d ≤ l.today ∧ l.checkTotal = .error fault

theorem Stuck.faults {l : Ledger} {now : Instant} {fault : Fault} (stuck : l.Stuck now fault) :
    Faults (advance now) l fault l := by
  rcases stuck with day | ⟨d, day, late, checked⟩
  · simp only [Faults, advance, day, and_self]
  · simp only [Faults, advance, day, if_neg late, checked, and_self]

theorem advance_ends (l : Ledger) (now : Instant) :
    (∃ d, now.day = .ok d ∧ Answers (advance now) l () (l.onDay d)) ∨
      ∃ fault, l.Stuck now fault ∧ Faults (advance now) l fault l := by
  cases day : now.day with
  | error fault =>
    have stuck : l.Stuck now fault := .inl day
    exact .inr ⟨fault, stuck, stuck.faults⟩
  | ok d =>
    by_cases old : d ≤ l.today
    · refine .inl ⟨d, rfl, ?_⟩
      simp only [Answers, advance, day, onDay, if_pos old, and_self]
    · cases checked : l.checkTotal with
      | ok good =>
        refine .inl ⟨d, rfl, ?_⟩
        simp only [Answers, advance, day, onDay, if_neg old, checked, and_self]
      | error fault =>
        have stuck : l.Stuck now fault := .inr ⟨d, day, old, checked⟩
        exact .inr ⟨fault, stuck, stuck.faults⟩

theorem advance_answers {l l' : Ledger} {now : Instant} (h : Answers (advance now) l () l') :
    ∃ d, now.day = .ok d ∧ l' = l.onDay d := by
  rcases advance_ends l now with ⟨d, day, advanced⟩ | ⟨fault, -, unadvanced⟩
  · exact ⟨d, day, (h.unique advanced).2⟩
  · exact (h.not_faults unadvanced).elim

theorem advance_still {l : Ledger} {now : Instant} {d : Day} (day : now.day = .ok d) (old : d ≤ l.today) :
    Answers (advance now) l () l := by
  simp only [Answers, advance, day, if_pos old, and_self]

theorem le_onDay_today (l : Ledger) (d : Day) : d ≤ (l.onDay d).today := by
  unfold onDay
  split
  · assumption
  · exact Nat.le_refl d.number

theorem onDay_still {l : Ledger} {d : Day} (old : d ≤ l.today) : l.onDay d = l := if_pos old

theorem view_still {α : Type} (f : Ledger → α) {l : Ledger} {now : Instant} {d : Day} (day : now.day = .ok d)
    (old : d ≤ l.today) : Answers (view f now) l (f l) l := by
  refine answers_bind.mpr ⟨(), l, advance_still day old, answers_bind.mpr ⟨l, l, ?_, ?_⟩⟩
  · exact answers_get.mpr ⟨rfl, rfl⟩
  · exact answers_pure.mpr ⟨rfl, rfl⟩

theorem view_answers {α : Type} {f : Ledger → α} {now : Instant} {l l' : Ledger} {a : α}
    (h : Answers (view f now) l a l') : a = f l' ∧ ∃ d, now.day = .ok d ∧ l' = l.onDay d := by
  obtain ⟨_, _, advanced, rest⟩ := answers_bind.mp h
  obtain ⟨_, _, got, last⟩ := answers_bind.mp rest
  obtain ⟨rfl, rfl⟩ := answers_get.mp got
  obtain ⟨rfl, rfl⟩ := answers_pure.mp last
  exact ⟨rfl, advance_answers advanced⟩

section Keeps

variable {R : Ledger → Ledger → Prop} [Trans R R R] {now : Instant} (refl : ∀ l, R l l)
  (advances : Keeps R (advance now))

include refl advances

theorem view_keeps {α : Type} (f : Ledger → α) : Keeps R (view f now) := by
  refine Keeps.bind advances fun _ => ?_
  exact Keeps.bind refl fun _ => refl

theorem canAffordModel_keeps (m : Model) (inputTokens outputTokens : Number) :
    Keeps R (canAffordModel m inputTokens outputTokens now) :=
  Keeps.bind refl fun _ => view_keeps refl advances _

end Keeps

theorem history_answers {days : Data} {now : Instant} {l l' : Ledger} {ts : List DayTotal}
    (h : Answers (history days now) l ts l') :
    l'.latestOf days = .ok ts ∧ ∃ d, now.day = .ok d ∧ l' = l.onDay d := by
  obtain ⟨_, _, viewed, rest⟩ := answers_bind.mp h
  obtain ⟨rfl, seen⟩ := view_answers viewed
  obtain ⟨read, rfl⟩ := answers_ofExcept.mp rest
  exact ⟨read, seen⟩

theorem statistics_answers {now : Instant} {l l' : Ledger} {s : CostStatistics}
    (h : Answers (statistics now) l s l') : ∃ d, now.day = .ok d ∧ l' = l.onDay d := by
  obtain ⟨_, _, viewed, rest⟩ := answers_bind.mp h
  obtain ⟨_, _, checked, last⟩ := answers_bind.mp rest
  obtain ⟨-, rfl⟩ := answers_ofExcept.mp checked
  obtain ⟨-, rfl⟩ := answers_pure.mp last
  exact (view_answers viewed).2

/-! ### Requests -/

/-- The request is recorded: it has a name and a price, and no count of tokens is negative. -/
def Accepts (id : Handle) (inputTokens outputTokens : Number) (pricing : Option Pricing) : Prop :=
  id.isSet = true ∧ pricing.isSome = true ∧ inputTokens.isNegative = false ∧ outputTokens.isNegative = false

instance (id : Handle) (inputTokens outputTokens : Number) (pricing : Option Pricing) :
    Decidable (Accepts id inputTokens outputTokens pricing) := inferInstanceAs (Decidable (_ ∧ _))

/-- The price of a request is the same whether it is estimated or recorded. -/
theorem costOf_eq_estimate (p : Pricing) (inputTokens outputTokens : Number) :
    costOf p inputTokens outputTokens = p.estimate inputTokens outputTokens := by
  unfold costOf Pricing.estimate Pricing.charge
  simp only [bind_assoc, pure_bind]

theorem record_rejects {id : Handle} {inputTokens outputTokens : Number} {pricing : Option Pricing}
    (rejected : ¬Accepts id inputTokens outputTokens pricing) (now : Instant) (l : Ledger) :
    Answers (record id inputTokens outputTokens pricing now) l 0.0 l := by
  have passed : ∀ text, Answers (passOver text) l 0.0 l := fun _ => ⟨rfl, rfl⟩
  unfold record
  split
  · rename_i p named
    have negative : (inputTokens.isNegative || outputTokens.isNegative) = true := by
      by_contra fine
      simp only [Bool.not_eq_true, Bool.or_eq_false_iff] at fine
      exact rejected ⟨named, by simp, fine⟩
    rw [if_pos negative]
    exact ⟨rfl, rfl⟩
  · exact passed _

theorem record_ends {id : Handle} {inputTokens outputTokens : Number} {p : Pricing}
    (accepted : Accepts id inputTokens outputTokens (some p)) (now : Instant) (l : Ledger) :
    (∃ cost d, p.estimate inputTokens outputTokens = .ok cost ∧ now.day = .ok d ∧
      (∀ fault, ¬l.Stuck now fault) ∧
      Answers (record id inputTokens outputTokens (some p) now) l cost (l.take ⟨d, some ⟨id, cost⟩⟩)) ∨
    ∃ fault, (p.estimate inputTokens outputTokens = .error fault ∨ l.Stuck now fault) ∧
      Faults (record id inputTokens outputTokens (some p) now) l fault l := by
  obtain ⟨named, -, input, output⟩ := accepted
  have signs : ¬(inputTokens.isNegative || outputTokens.isNegative) = true := by simp [input, output]
  unfold record
  rw [named]
  dsimp only
  rw [if_neg signs, costOf_eq_estimate]
  cases estimate : p.estimate inputTokens outputTokens with
  | error fault =>
    exact .inr ⟨fault, .inl rfl, faults_bind.mpr (.inl (faults_ofExcept.mpr ⟨rfl, rfl⟩))⟩
  | ok cost =>
    rcases advance_ends l now with ⟨d, day, advanced⟩ | ⟨fault, stuck, unadvanced⟩
    · refine .inl ⟨cost, d, rfl, day, fun fault stuck => advanced.not_faults stuck.faults, ?_⟩
      refine answers_bind.mpr ⟨cost, l, answers_ofExcept.mpr ⟨rfl, rfl⟩, ?_⟩
      refine answers_bind.mpr ⟨(), _, advanced, ?_⟩
      refine answers_bind.mpr ⟨(), _, answers_modify.mpr rfl, ?_⟩
      exact answers_bind.mpr ⟨(), _, answers_write.mpr rfl, answers_pure.mpr ⟨rfl, rfl⟩⟩
    · refine .inr ⟨fault, .inr stuck, faults_bind.mpr (.inr ⟨cost, l, answers_ofExcept.mpr ⟨rfl, rfl⟩, ?_⟩)⟩
      exact faults_bind.mpr (.inl unadvanced)

theorem record_charges {id : Handle} {inputTokens outputTokens : Number} {pricing : Option Pricing}
    {now : Instant} {l l' : Ledger} {cost : Float}
    (accepted : Accepts id inputTokens outputTokens pricing)
    (h : Answers (record id inputTokens outputTokens pricing now) l cost l') :
    ∃ p d, pricing = some p ∧ p.estimate inputTokens outputTokens = .ok cost ∧ now.day = .ok d ∧
      l' = l.take ⟨d, some ⟨id, cost⟩⟩ := by
  obtain ⟨p, rfl⟩ := Option.isSome_iff_exists.mp accepted.2.1
  rcases record_ends accepted now l with ⟨charged, d, estimate, day, -, recorded⟩ | ⟨fault, -, unrecorded⟩
  · obtain ⟨rfl, rfl⟩ := h.unique recorded
    exact ⟨p, d, rfl, estimate, day, rfl⟩
  · exact (h.not_faults unrecorded).elim

/-- On a day that the ledger has seen, a request that is accepted and has a price is recorded. -/
theorem record_still {id : Handle} {inputTokens outputTokens : Number} {p : Pricing} {now : Instant}
    {l : Ledger} {d : Day} {cost : Float} (accepted : Accepts id inputTokens outputTokens (some p))
    (estimate : p.estimate inputTokens outputTokens = .ok cost) (day : now.day = .ok d) (old : d ≤ l.today) :
    Answers (record id inputTokens outputTokens (some p) now) l cost (l.add id cost) := by
  rcases record_ends accepted now l with ⟨cost', d', estimate', day', -, recorded⟩ | ⟨fault, fails, -⟩
  · obtain rfl := Except.ok.inj (estimate.symm.trans estimate')
    obtain rfl := Except.ok.inj (day.symm.trans day')
    rw [take, onDay_still old] at recorded
    exact recorded
  · rcases fails with fails | stuck
    · cases estimate.symm.trans fails
    · exact ((advance_still day old).not_faults stuck.faults).elim

/-! ### Operations -/

/-- What a ledger can be asked for. -/
inductive Operation where
  | dailyBudget
  | dailySpend
  | remainingBudget
  | modelBreakdown
  | canAfford (cost : Float)
  | canAffordModel (m : Model) (inputTokens outputTokens : Number)
  | record (id : Handle) (inputTokens outputTokens : Number) (pricing : Option Pricing)
  | history (days : Data)
  | statistics
  | budgetWarnings
  | cheaperAlternative (lookup : Option (String → Option Model)) (current : Option Model) (ids : Data)

namespace Operation

def step (now : Instant) : Operation → Step Ledger Unit
  | dailyBudget => pure ()
  | dailySpend => quietly (Ledger.dailySpend now)
  | remainingBudget => quietly (Ledger.remainingBudget now)
  | modelBreakdown => quietly (Ledger.modelBreakdown now)
  | canAfford cost => quietly (Ledger.canAfford cost now)
  | canAffordModel m inputTokens outputTokens =>
    quietly (Ledger.canAffordModel m inputTokens outputTokens now)
  | record id inputTokens outputTokens pricing =>
    quietly (Ledger.record id inputTokens outputTokens pricing now)
  | history days => quietly (Ledger.history days now)
  | statistics => quietly (Ledger.statistics now)
  | budgetWarnings => quietly (Ledger.budgetWarnings now)
  | cheaperAlternative lookup current ids => quietly (Switchboard.cheaperAlternative lookup current ids)

def charge? (id : Handle) (inputTokens outputTokens : Number) (pricing : Option Pricing) : Option Charge :=
  if Accepts id inputTokens outputTokens pricing then
    pricing.bind fun p => (p.estimate inputTokens outputTokens).toOption.map (⟨id, ·⟩)
  else none

def lookAt (now : Instant) (charge : Option Charge) : Option Look := now.day.toOption.map (⟨·, charge⟩)

def look? (now : Instant) : Operation → Option Look
  | dailyBudget => none
  | cheaperAlternative _ _ _ => none
  | record id inputTokens outputTokens pricing =>
    (charge? id inputTokens outputTokens pricing).bind fun c => lookAt now (some c)
  | _ => lookAt now none

theorem take_nothing {now : Instant} {l l' : Ledger} (seen : ∃ d, now.day = .ok d ∧ l' = l.onDay d) :
    l' = (lookAt now none).elim l l.take := by
  obtain ⟨d, day, rfl⟩ := seen
  rw [lookAt, day]
  rfl

theorem record_takes {id : Handle} {inputTokens outputTokens : Number} {pricing : Option Pricing}
    {now : Instant} {l l' : Ledger} {cost : Float}
    (h : Answers (Ledger.record id inputTokens outputTokens pricing now) l cost l') :
    l' = (look? now (record id inputTokens outputTokens pricing)).elim l l.take := by
  by_cases accepted : Accepts id inputTokens outputTokens pricing
  · obtain ⟨p, d, rfl, estimate, day, rfl⟩ := record_charges accepted h
    simp [look?, charge?, lookAt, accepted, estimate, day, Except.toOption]
  · obtain ⟨-, rfl⟩ := h.unique (record_rejects accepted now l)
    simp [look?, charge?, accepted]

/-- An operation that ends leaves the ledger as it was or takes its one look at the clock. -/
theorem step_takes {now : Instant} {op : Operation} {l l' : Ledger} (h : Answers (op.step now) l () l') :
    l' = (op.look? now).elim l l.take := by
  cases op with
  | dailyBudget => exact (answers_pure.mp h).2
  | dailySpend =>
    obtain ⟨_, viewed⟩ := answers_quietly.mp h
    exact take_nothing (view_answers viewed).2
  | remainingBudget =>
    obtain ⟨_, viewed⟩ := answers_quietly.mp h
    exact take_nothing (view_answers viewed).2
  | modelBreakdown =>
    obtain ⟨_, viewed⟩ := answers_quietly.mp h
    exact take_nothing (view_answers viewed).2
  | canAfford cost =>
    obtain ⟨_, viewed⟩ := answers_quietly.mp h
    exact take_nothing (view_answers viewed).2
  | canAffordModel m inputTokens outputTokens =>
    obtain ⟨_, estimated⟩ := answers_quietly.mp h
    obtain ⟨_, _, read, viewed⟩ := answers_bind.mp estimated
    obtain ⟨-, rfl⟩ := answers_ofExcept.mp read
    exact take_nothing (view_answers viewed).2
  | record id inputTokens outputTokens pricing =>
    obtain ⟨_, recorded⟩ := answers_quietly.mp h
    exact record_takes recorded
  | history days =>
    obtain ⟨_, listed⟩ := answers_quietly.mp h
    exact take_nothing (history_answers listed).2
  | statistics =>
    obtain ⟨_, figured⟩ := answers_quietly.mp h
    exact take_nothing (statistics_answers figured)
  | budgetWarnings =>
    obtain ⟨_, warned⟩ := answers_quietly.mp h
    obtain ⟨_, _, figured, rest⟩ := answers_bind.mp warned
    obtain ⟨_, _, written, rest⟩ := answers_bind.mp rest
    obtain rfl := answers_write.mp written
    obtain ⟨-, rfl⟩ := answers_pure.mp rest
    exact take_nothing (statistics_answers figured)
  | cheaperAlternative lookup current ids =>
    obtain ⟨_, found⟩ := answers_quietly.mp h
    exact found.2.symm.trans (cheaperAlternative_still lookup current ids l).symm

end Operation
end Ledger
end Switchboard

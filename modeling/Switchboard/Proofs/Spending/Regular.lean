import Switchboard.Proofs.Spending.Operation
import Switchboard.Proofs.Spending.Price

/-!
Operations that are asked for as they should be: with names that are texts, counts of tokens that have
doubles, and valid prices. Such an operation ends, unless the clock shows a day that the ledger cannot take
over; then it stops there and changes nothing.
-/

namespace Switchboard

open Step Binary64

theorem cheaperAmong_ends {σ : Type} (find : String → Option Model) (current : Model) (ids : List String)
    (s : σ) :
    ∃ found, Answers (cheaperAmong find current (ids.map .text) : Step σ (Option String)) s found s := by
  induction ids with
  | nil => exact ⟨none, answers_pure.mpr ⟨rfl, rfl⟩⟩
  | cons id rest ih =>
    have key : Answers (ofExcept (Argument.key (.text id)) : Step σ String) s id s :=
      answers_ofExcept.mpr ⟨rfl, rfl⟩
    rw [List.map_cons]
    unfold cheaperAmong
    refine key.ends ?_
    split
    · exact ih
    · split
      · exact Answers.ends (answers_write.mpr rfl) ih
      · split
        · exact ⟨_, answers_pure.mpr ⟨rfl, rfl⟩⟩
        · exact ih

theorem cheaperAlternative_ends {σ : Type} (lookup : Option (String → Option Model)) (current : Model)
    (ids : List String) (s : σ) :
    ∃ found, Answers (cheaperAlternative lookup (some current) (.list (ids.map .text)) :
      Step σ (Option String)) s found s := by
  cases lookup with
  | none => exact Answers.ends (answers_write.mpr rfl) ⟨none, answers_pure.mpr ⟨rfl, rfl⟩⟩
  | some find =>
    have items : Answers (ofExcept (Argument.items (.list (ids.map .text))) : Step σ (List Data)) s
      (ids.map .text) s := answers_ofExcept.mpr ⟨rfl, rfl⟩
    exact items.ends (cheaperAmong_ends find current ids s)

namespace Ledger

variable {α β : Type} {now : Instant} {l : Ledger}

/-! ### Days that cannot be taken over -/

/-- The step ends, or it stops because the day cannot be taken over and changes nothing. -/
def EndsUnlessStuck (x : Step Ledger α) (now : Instant) (l : Ledger) : Prop :=
  ((∀ fault, ¬l.Stuck now fault) ∧ ∃ a l', Answers x l a l') ∨ ∃ fault, l.Stuck now fault ∧ Faults x l fault l

theorem EndsUnlessStuck.bind {x : Step Ledger α} {f : α → Step Ledger β} (first : EndsUnlessStuck x now l)
    (rest : ∀ a l', Answers x l a l' → ∃ b l'', Answers (f a) l' b l'') :
    EndsUnlessStuck (x >>= f) now l := by
  rcases first with ⟨free, a, l', answered⟩ | ⟨fault, stuck, stopped⟩
  · obtain ⟨b, l'', last⟩ := rest a l' answered
    exact .inl ⟨free, b, l'', answers_bind.mpr ⟨a, l', answered, last⟩⟩
  · exact .inr ⟨fault, stuck, faults_bind.mpr (.inl stopped)⟩

theorem EndsUnlessStuck.after {x : Step Ledger α} {f : α → Step Ledger β} {a : α} (first : Answers x l a l)
    (rest : EndsUnlessStuck (f a) now l) : EndsUnlessStuck (x >>= f) now l := by
  rcases rest with ⟨free, b, l', answered⟩ | ⟨fault, stuck, stopped⟩
  · exact .inl ⟨free, b, l', answers_bind.mpr ⟨a, l, first, answered⟩⟩
  · exact .inr ⟨fault, stuck, faults_bind.mpr (.inr ⟨a, l, first, stopped⟩)⟩

theorem EndsUnlessStuck.quietly {x : Step Ledger α} (ends : EndsUnlessStuck x now l) :
    EndsUnlessStuck (quietly x) now l :=
  ends.bind fun _ l' _ => ⟨(), l', answers_pure.mpr ⟨rfl, rfl⟩⟩

theorem advance_endsUnlessStuck (now : Instant) (l : Ledger) : EndsUnlessStuck (advance now) now l := by
  rcases advance_ends l now with ⟨d, -, advanced⟩ | ⟨fault, stuck, unadvanced⟩
  · exact .inl ⟨fun fault stuck => advanced.not_faults stuck.faults, (), _, advanced⟩
  · exact .inr ⟨fault, stuck, unadvanced⟩

theorem view_endsUnlessStuck (f : Ledger → α) (now : Instant) (l : Ledger) :
    EndsUnlessStuck (view f now) now l := by
  refine (advance_endsUnlessStuck now l).bind fun _ l' _ => ⟨f l', l', ?_⟩
  exact answers_bind.mpr ⟨l', l', answers_get.mpr ⟨rfl, rfl⟩, answers_pure.mpr ⟨rfl, rfl⟩⟩

theorem nameIssues_onDay (named : nameIssues l.breakdown = []) (d : Day) :
    nameIssues (l.onDay d).breakdown = [] := by
  rw [onDay]
  split
  · exact named
  · rfl

theorem statistics_endsUnlessStuck (named : nameIssues l.breakdown = []) (now : Instant) :
    EndsUnlessStuck (statistics now) now l := by
  refine (view_endsUnlessStuck figures now l).bind fun s l' viewed => ?_
  obtain ⟨rfl, d, -, rfl⟩ := view_answers viewed
  have checked : refuse "CostStatistics" (nameIssues (figures (l.onDay d)).breakdown) = .ok () := by
    rw [show (figures (l.onDay d)).breakdown = (l.onDay d).breakdown from rfl, nameIssues_onDay named]
    rfl
  refine ⟨figures (l.onDay d), l.onDay d, answers_bind.mpr ⟨(), l.onDay d, ?_, answers_pure.mpr ⟨rfl, rfl⟩⟩⟩
  exact answers_ofExcept.mpr ⟨checked, rfl⟩

namespace Operation

/-! ### What may be asked for -/

/-- Arguments as they should be. -/
def Regular : Operation → Prop
  | canAffordModel _ inputTokens outputTokens =>
    (∃ x, inputTokens.toFloat = .ok x) ∧ ∃ y, outputTokens.toFloat = .ok y
  | record id inputTokens outputTokens pricing =>
    (∃ name, id = .ofText name) ∧ inputTokens.Countable ∧ outputTokens.Countable ∧
      ∀ p, pricing = some p → p.Valid
  | history days => ∃ n, days = .int n
  | cheaperAlternative _ current ids =>
    current.isSome = true ∧ ∃ names : List String, ids = .list (names.map .text)
  | _ => True

/-- A request at a price that does not say what it costs. -/
def Undefined : Operation → Prop
  | record _ inputTokens outputTokens (some p) => p.Undefined inputTokens outputTokens
  | _ => False

theorem charge?_some {id : Handle} {inputTokens outputTokens : Number} {pricing : Option Pricing} {c : Charge}
    (charged : charge? id inputTokens outputTokens pricing = some c) :
    Accepts id inputTokens outputTokens pricing ∧ c.id = id ∧
      ∃ p, pricing = some p ∧ p.estimate inputTokens outputTokens = .ok c.cost := by
  unfold charge? at charged
  split at charged
  case isFalse => cases charged
  case isTrue accepted =>
    obtain ⟨p, rfl⟩ := Option.isSome_iff_exists.mp accepted.2.1
    cases estimate : p.estimate inputTokens outputTokens with
    | error fault =>
      rw [Option.bind_some, estimate] at charged
      cases charged
    | ok cost =>
      rw [Option.bind_some, estimate] at charged
      obtain rfl := Option.some.inj charged
      exact ⟨accepted, rfl, p, rfl, estimate⟩

theorem charge?_cost {id : Handle} {inputTokens outputTokens : Number} {pricing : Option Pricing} {c : Charge}
    (regular : (record id inputTokens outputTokens pricing).Regular)
    (charged : charge? id inputTokens outputTokens pricing = some c) :
    c.id = id ∧ ∃ p, pricing = some p ∧
      if p.Undefined inputTokens outputTokens then c.cost.isNaN = true else Amount (parts c.cost) := by
  obtain ⟨-, input, output, valid⟩ := regular
  obtain ⟨-, same, p, rfl, estimate⟩ := charge?_some charged
  obtain ⟨cost, estimate', defined⟩ := Pricing.estimate_cost (valid p rfl) input output
  obtain rfl := Except.ok.inj (estimate'.symm.trans estimate)
  exact ⟨same, p, rfl, defined⟩

theorem charge?_of_accepts {id : Handle} {inputTokens outputTokens : Number} {pricing : Option Pricing}
    (regular : (record id inputTokens outputTokens pricing).Regular)
    (accepted : Accepts id inputTokens outputTokens pricing) :
    ∃ c, charge? id inputTokens outputTokens pricing = some c := by
  obtain ⟨-, input, output, valid⟩ := regular
  obtain ⟨p, rfl⟩ := Option.isSome_iff_exists.mp accepted.2.1
  obtain ⟨cost, estimate, -⟩ := Pricing.estimate_cost (valid p rfl) input output
  refine ⟨⟨id, cost⟩, ?_⟩
  rw [charge?, if_pos accepted, Option.bind_some, estimate]
  rfl

theorem lookAt_eq {d : Day} (day : now.day = .ok d) (charge : Option Charge) :
    lookAt now charge = some ⟨d, charge⟩ := by
  rw [lookAt, day]
  rfl

theorem lookAt_some {charge : Option Charge} {look : Look} (looked : lookAt now charge = some look) :
    now.day = .ok look.day ∧ look.charge = charge := by
  unfold lookAt at looked
  cases day : now.day with
  | error fault =>
    rw [day] at looked
    cases looked
  | ok d =>
    rw [day] at looked
    obtain rfl := Option.some.inj looked
    exact ⟨rfl, rfl⟩

theorem look?_day {op : Operation} {look : Look} (looked : op.look? now = some look) :
    now.day = .ok look.day := by
  cases op with
  | dailyBudget => cases looked
  | cheaperAlternative => cases looked
  | record =>
    obtain ⟨c, -, looked⟩ := Option.bind_eq_some_iff.mp looked
    exact (lookAt_some looked).1
  | _ => exact (lookAt_some looked).1

theorem look?_charge {op : Operation} {look : Look} {c : Charge} (looked : op.look? now = some look)
    (charge : look.charge = some c) : ∃ id inputTokens outputTokens pricing,
      op = record id inputTokens outputTokens pricing ∧
        charge? id inputTokens outputTokens pricing = some c := by
  cases op with
  | dailyBudget => cases looked
  | cheaperAlternative => cases looked
  | record id inputTokens outputTokens pricing =>
    obtain ⟨c', charged, looked⟩ := Option.bind_eq_some_iff.mp looked
    obtain rfl := Option.some.inj ((lookAt_some looked).2.symm.trans charge)
    exact ⟨id, inputTokens, outputTokens, pricing, rfl, charged⟩
  | _ => cases (lookAt_some looked).2.symm.trans charge

theorem record_endsUnlessStuck {id : Handle} {inputTokens outputTokens : Number} {pricing : Option Pricing}
    {c : Charge} (charged : charge? id inputTokens outputTokens pricing = some c) (now : Instant)
    (l : Ledger) : EndsUnlessStuck (Ledger.record id inputTokens outputTokens pricing now) now l := by
  obtain ⟨accepted, -, p, rfl, estimate⟩ := charge?_some charged
  rcases record_ends accepted now l with
    ⟨cost, d, -, -, free, recorded⟩ | ⟨fault, unestimated | stuck, unrecorded⟩
  · exact .inl ⟨free, cost, _, recorded⟩
  · cases estimate.symm.trans unestimated
  · exact .inr ⟨fault, stuck, unrecorded⟩

/-- A regular operation that takes no look at the clock ends and leaves the ledger alone. Any other ends
unless the ledger is stuck. -/
theorem step_ends {op : Operation} {d : Day} (regular : op.Regular) (day : now.day = .ok d)
    (named : nameIssues l.breakdown = []) :
    (op.look? now = none ∧ Answers (op.step now) l () l) ∨
      ∃ charge, op.look? now = some ⟨d, charge⟩ ∧ EndsUnlessStuck (op.step now) now l := by
  -- All looks but those of requests are taken in the same way and charge nothing.
  have looks : ∀ {α : Type} {x : Step Ledger α}, EndsUnlessStuck x now l →
      ∃ charge, lookAt now none = some ⟨d, charge⟩ ∧ EndsUnlessStuck (quietly x) now l :=
    fun ends => ⟨none, lookAt_eq day none, ends.quietly⟩
  cases op with
  | dailyBudget => exact .inl ⟨rfl, answers_pure.mpr ⟨rfl, rfl⟩⟩
  | dailySpend => exact .inr (looks (view_endsUnlessStuck _ now l))
  | remainingBudget => exact .inr (looks (view_endsUnlessStuck _ now l))
  | modelBreakdown => exact .inr (looks (view_endsUnlessStuck _ now l))
  | canAfford cost => exact .inr (looks (view_endsUnlessStuck _ now l))
  | canAffordModel m inputTokens outputTokens =>
    obtain ⟨⟨x, input⟩, y, output⟩ := regular
    have estimate := m.pricing.estimate_of_toFloat input output
    exact .inr (looks (.after (answers_ofExcept.mpr ⟨estimate, rfl⟩) (view_endsUnlessStuck _ now l)))
  | history days =>
    obtain ⟨n, rfl⟩ := regular
    refine .inr (looks ((view_endsUnlessStuck _ now l).bind fun ts l' viewed => ⟨l'.latest n, l', ?_⟩))
    exact answers_ofExcept.mpr ⟨(view_answers viewed).1, rfl⟩
  | statistics => exact .inr (looks (statistics_endsUnlessStuck named now))
  | budgetWarnings =>
    refine .inr (looks ((statistics_endsUnlessStuck named now).bind fun s l' _ => ⟨s.warnings, l', ?_⟩))
    exact answers_bind.mpr ⟨(), l', answers_write.mpr rfl, answers_pure.mpr ⟨rfl, rfl⟩⟩
  | cheaperAlternative lookup current ids =>
    obtain ⟨known, names, rfl⟩ := regular
    obtain ⟨current, rfl⟩ := Option.isSome_iff_exists.mp known
    exact .inl ⟨rfl, answers_quietly.mpr (cheaperAlternative_ends lookup current names l)⟩
  | record id inputTokens outputTokens pricing =>
    by_cases accepted : Accepts id inputTokens outputTokens pricing
    · obtain ⟨c, charged⟩ := charge?_of_accepts regular accepted
      refine .inr ⟨some c, ?_, (record_endsUnlessStuck charged now l).quietly⟩
      rw [look?, charged]
      exact lookAt_eq day (some c)
    · refine .inl ⟨?_, answers_quietly.mpr ⟨0.0, record_rejects accepted now l⟩⟩
      rw [look?, charge?, if_neg accepted]
      rfl

end Operation
end Ledger
end Switchboard

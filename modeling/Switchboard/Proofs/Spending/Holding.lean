import Switchboard.Proofs.Spending.Rollover

/-!
What a ledger holds of all that was ever charged on it: the charges since it last took over a day.
Looking at a ledger may close the day, after which it holds nothing; only a record adds to what it holds.
-/

namespace Switchboard.Ledger

open Step

/-- Of these charges, oldest first and each with the day that was tracked then, the ledger holds those of the
day that it is on. All the others are of days before. -/
def Holds (l : Ledger) (dated : List (Day × Charge)) : Prop :=
  ∃ earlier recent, dated = earlier ++ recent ∧ (∀ e ∈ earlier, e.1 < l.today) ∧
    (∀ e ∈ recent, e.1 = l.today) ∧ l.total = Charge.total l.today (recent.map Prod.snd)

theorem opened_holds {budget : Float} {start : Instant} {l : Ledger}
    (h : Ledger.opened budget start = .ok l) : l.Holds [] :=
  ⟨[], [], rfl, by simp, by simp, (opened_mirrors h).2.total⟩

theorem onDay_holds {l : Ledger} {dated : List (Day × Charge)} (holds : l.Holds dated) (d : Day) :
    (l.onDay d).Holds dated := by
  unfold onDay
  by_cases old : d ≤ l.today
  · rw [if_pos old]
    exact holds
  · rw [if_neg old]
    obtain ⟨earlier, recent, rfl, before, today, -⟩ := holds
    have late : l.today < d := Nat.lt_of_not_le old
    -- Nothing was charged on the new day yet, so all that was charged is in the past.
    refine ⟨earlier ++ recent, [], (List.append_nil _).symm, fun e member => ?_, by simp, rfl⟩
    rcases List.mem_append.mp member with past | last
    · exact Nat.lt_trans (before e past) late
    · exact (today e last).symm ▸ late

theorem add_holds {l : Ledger} {dated : List (Day × Charge)} (holds : l.Holds dated) (c : Charge) :
    (l.add c.id c.cost).Holds (dated ++ [(l.today, c)]) := by
  obtain ⟨earlier, recent, rfl, before, today, total⟩ := holds
  refine ⟨earlier, recent ++ [(l.today, c)], List.append_assoc _ _ _, before, fun e member => ?_, ?_⟩
  · rcases List.mem_append.mp member with earlier | last
    · exact today e earlier
    · rw [List.mem_singleton.mp last]
      rfl
  · rw [List.map_append]
    exact add_total total c

theorem take_holds {l : Ledger} {dated : List (Day × Charge)} (holds : l.Holds dated) (d : Day)
    (c : Charge) : (l.take ⟨d, some c⟩).Holds (dated ++ [((l.take ⟨d, some c⟩).today, c)]) :=
  add_holds (onDay_holds holds d) c

/-! ### Looking at a ledger -/

/-- Whatever the first ledger holds the second one holds as well. -/
def Retains (l l' : Ledger) : Prop := ∀ dated, l.Holds dated → l'.Holds dated

theorem Retains.refl (l : Ledger) : Retains l l := fun _ => id

theorem Retains.trans {l l' l'' : Ledger} (h : Retains l l') (h' : Retains l' l'') : Retains l l'' :=
  fun dated holds => h' dated (h dated holds)

instance : Trans Retains Retains Retains := ⟨Retains.trans⟩

theorem advance_retains (now : Instant) : Keeps Retains (advance now) := by
  intro l
  rcases advance_ends l now with ⟨d, -, advanced⟩ | ⟨fault, -, unadvanced⟩
  · rw [advanced.2]
    exact fun dated holds => onDay_holds holds d
  · rw [unadvanced.2]
    exact Retains.refl l

theorem view_retains {α : Type} (f : Ledger → α) (now : Instant) : Keeps Retains (view f now) :=
  view_keeps Retains.refl (advance_retains now) f

theorem canAffordModel_retains (m : Model) (inputTokens outputTokens : Number) (now : Instant) :
    Keeps Retains (canAffordModel m inputTokens outputTokens now) :=
  canAffordModel_keeps Retains.refl (advance_retains now) m inputTokens outputTokens

theorem statistics_retains (now : Instant) : Keeps Retains (statistics now) := by
  refine Keeps.bind (view_retains _ now) fun s => ?_
  exact Keeps.bind Retains.refl fun _ => Retains.refl

/-- The operation does not record anything. -/
def Operation.IsQuery : Operation → Prop
  | record _ _ _ _ => False
  | _ => True

theorem query_retains {op : Operation} (query : op.IsQuery) (now : Instant) : Keeps Retains (op.step now) := by
  cases op with
  | dailyBudget => exact Retains.refl
  | dailySpend => exact (view_retains _ now).quietly Retains.refl
  | remainingBudget => exact (view_retains _ now).quietly Retains.refl
  | modelBreakdown => exact (view_retains _ now).quietly Retains.refl
  | canAfford cost => exact (view_retains _ now).quietly Retains.refl
  | canAffordModel m inputTokens outputTokens =>
    exact (canAffordModel_retains m inputTokens outputTokens now).quietly Retains.refl
  | record id inputTokens outputTokens pricing => exact query.elim
  | history days =>
    refine Keeps.quietly Retains.refl ?_
    exact Keeps.bind (view_retains _ now) fun _ => Retains.refl
  | statistics => exact (statistics_retains now).quietly Retains.refl
  | budgetWarnings =>
    refine Keeps.quietly Retains.refl ?_
    refine Keeps.bind (statistics_retains now) fun s => ?_
    exact Keeps.bind Retains.refl fun _ => Retains.refl
  | cheaperAlternative lookup current ids =>
    refine Keeps.quietly Retains.refl ((cheaperAlternative_still lookup current ids).mono ?_)
    rintro l _ rfl
    exact Retains.refl l

end Switchboard.Ledger

import Switchboard.Proofs.Spending.Overage

/-!
What asking about a request says of recording it next. The price is worked out anew and the day may be
closed by either of the two, but on one day both see the same ledger.
-/

namespace Switchboard.Ledger

open Step

namespace Request

variable {q : Request} {l l' : Ledger} {now later latest : Instant}

theorem check_seen {affordable : Bool} (checked : Answers (q.check now) l affordable l') :
    ∃ cost d, q.cost = .ok cost ∧ now.day = .ok d ∧ l' = l.onDay d ∧ affordable = l'.fits cost := by
  obtain ⟨cost, between, read, viewed⟩ := answers_bind.mp checked
  obtain ⟨estimate, rfl⟩ := answers_ofExcept.mp read
  obtain ⟨fits, d, day, seen⟩ := view_answers viewed
  exact ⟨cost, d, estimate, day, seen, fits⟩

/-- Asked about first and recorded later that day, the request keeps the limit if and only if it was said
to be affordable. -/
theorem check_predicts {affordable : Bool} (accepted : q.Accepted)
    (checked : Answers (q.check now) l affordable l') (recordDay : later.day = now.day)
    (readDay : latest.day = now.day) :
    ∃ cost l'', Answers (q.record later) l' cost l'' ∧ Answers (dailySpend latest) l'' l''.spend l'' ∧
      (affordable = true ↔ l''.spend ≤ l''.dailyLimit) := by
  obtain ⟨cost, d, estimate, day, rfl, fits⟩ := check_seen checked
  have seen : d ≤ (l.onDay d).today := le_onDay_today l d
  have recorded : Answers (q.record later) (l.onDay d) cost ((l.onDay d).add q.model.handle cost) :=
    record_still accepted estimate (recordDay.trans day) seen
  have spent := view_still Ledger.spend (l := (l.onDay d).add q.model.handle cost) (readDay.trans day) seen
  refine ⟨cost, _, recorded, spent, ?_⟩
  rw [fits, Ledger.fits, decide_eq_true_iff]
  rfl

/-- Recording adds the estimate, once to the day and once to the model. -/
theorem record_adds {cost : Float} (accepted : q.Accepted) (recorded : Answers (q.record now) l cost l') :
    q.cost = .ok cost ∧ ∃ d, now.day = .ok d ∧ l'.spend = (l.onDay d).spend + cost ∧
      Register.get? l'.breakdown q.model.key =
        some ((Register.get? (l.onDay d).breakdown q.model.key).getD 0.0 + cost) ∧
      ∀ k, k ≠ q.model.key → Register.get? l'.breakdown k = Register.get? (l.onDay d).breakdown k := by
  obtain ⟨p, d, same, estimate, day, rfl⟩ := record_charges accepted recorded
  obtain rfl := Option.some.inj same
  refine ⟨estimate, d, day, rfl, ?_, ?_⟩
  · have own := Register.get?_put (l.onDay d).breakdown q.model.handle q.model.key
    exact (own _).trans (if_pos rfl)
  · intro k other
    have others := Register.get?_put (l.onDay d).breakdown q.model.handle k
    exact (others _).trans (if_neg (Ne.symm other))

end Request
end Switchboard.Ledger

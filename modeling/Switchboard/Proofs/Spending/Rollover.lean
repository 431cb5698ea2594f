import Switchboard.Proofs.Spending.Operation

/-!
Closing days lazily loses nothing. After any operations a ledger holds what one without a limit would
hold that kept every period apart: the charges of the tracked day, and the totals of the last periods
before it.
-/

namespace Switchboard.Ledger

open Step Look

/-! ### The last periods -/

/-- What no longer counts among the last items may be dropped before more items come. -/
theorem lastOf_lastOf_append {α : Type} (n : Nat) (xs ys : List α) :
    lastOf n (lastOf n xs ++ ys) = lastOf n (xs ++ ys) := by
  have dropped : lastOf n xs ++ ys = (xs ++ ys).drop (xs.length - n) :=
    (List.drop_append_of_le_length (Nat.sub_le _ _)).symm
  have length : (lastOf n xs ++ ys).length = xs.length - (xs.length - n) + ys.length := by
    simp [lastOf]
  rw [lastOf, length, dropped, List.drop_drop, lastOf, List.length_append]
  congr 1
  omega

theorem length_lastOf {α : Type} (n : Nat) (xs : List α) : (lastOf n xs).length = min n xs.length := by
  simp only [lastOf, List.length_drop]
  omega

theorem lastOf_map {α β : Type} (n : Nat) (f : α → β) (xs : List α) :
    lastOf n (xs.map f) = (lastOf n xs).map f := by
  simp [lastOf]

/-! ### What a ledger mirrors -/

/-- The ledger holds the charges of the tracked day and the totals of the last closed periods. -/
structure Mirrors (first : Day) (looks : List Look) (l : Ledger) : Prop where
  today : l.today = tracked first looks
  total : l.total = Charge.total (tracked first looks) (charged first looks (tracked first looks))
  archive : l.archive = lastOf archiveLimit
    ((closed first looks).map fun d => Charge.total d (charged first looks d))

theorem add_total {l : Ledger} {d : Day} {cs : List Charge} (total : l.total = Charge.total d cs)
    (c : Charge) : (l.add c.id c.cost).total = Charge.total d (cs ++ [c]) := by
  obtain ⟨today, spend, requests, breakdown⟩ := (DayTotal.mk.injEq ..).mp total
  simp only [Ledger.total, add, addRequest, Charge.total, today, spend, requests, breakdown,
    Charge.sum_concat, Charge.breakdown_concat, List.length_append, List.length_singleton]

/-- A charge counts for the day on which the ledger already is. -/
theorem take_total {l : Ledger} {d : Day} {cs : List Charge} {look : Look}
    (total : (l.onDay look.day).total = Charge.total d cs) :
    (l.take look).total = Charge.total d (cs ++ look.charge.toList) := by
  rw [take]
  cases look.charge with
  | none => simpa using total
  | some c => exact add_total total c

theorem take_archive (l : Ledger) (look : Look) : (l.take look).archive = (l.onDay look.day).archive := by
  rw [take]
  cases look.charge <;> rfl

theorem take_today (l : Ledger) (look : Look) : (l.take look).today = (l.onDay look.day).today := by
  rw [take]
  cases look.charge <;> rfl

theorem closed_lt_tracked {first : Day} {looks : List Look} {d : Day}
    (member : d ∈ closed first looks) : d < tracked first looks := by
  have increasing := periods_increasing first looks
  rw [periods_eq] at increasing
  exact (List.pairwise_append.mp increasing).2.2 d member _ List.mem_cons_self

theorem charged_closed_concat {first : Day} {looks : List Look} {look : Look} {d : Day}
    (member : d ∈ closed first (looks ++ [look])) :
    charged first (looks ++ [look]) d = charged first looks d := by
  have earlier := closed_lt_tracked member
  have apart : tracked first (looks ++ [look]) ≠ d := by
    rintro rfl
    exact Nat.lt_irrefl _ earlier
  rw [charged_concat, if_neg apart, List.append_nil]

theorem closed_totals_concat (first : Day) (looks : List Look) (look : Look) :
    ((closed first (looks ++ [look])).map fun d => Charge.total d (charged first (looks ++ [look]) d)) =
      (closed first (looks ++ [look])).map fun d => Charge.total d (charged first looks d) :=
  List.map_congr_left fun d member => by rw [charged_closed_concat member]

theorem mirrors_take {first : Day} {looks : List Look} {l : Ledger} (mirrors : Mirrors first looks l)
    (look : Look) : Mirrors first (looks ++ [look]) (l.take look) := by
  by_cases old : look.day ≤ tracked first looks
  · have same : tracked first (looks ++ [look]) = tracked first looks := by
      rw [tracked_concat, later_of_le old]
    have still : l.onDay look.day = l := if_pos (mirrors.today ▸ old)
    constructor
    case today => rw [take_today, still, same, mirrors.today]
    case total =>
      rw [charged_concat, if_pos rfl, same]
      apply take_total
      rw [still]
      exact mirrors.total
    case archive =>
      rw [take_archive, still, mirrors.archive, closed_totals_concat, closed_concat, if_pos old]
  · have next : tracked first (looks ++ [look]) = look.day := by
      rw [tracked_concat, later_of_new old]
    have closes : l.onDay look.day = l.closeDay look.day := if_neg (mirrors.today ▸ old)
    constructor
    case today => rw [take_today, closes, next]; rfl
    case total =>
      rw [charged_concat, if_pos rfl, next, not_charged_yet old]
      exact take_total (closes ▸ rfl)
    case archive =>
      rw [take_archive, closes, closed_totals_concat, closed_concat, if_neg old, List.map_append]
      show lastOf archiveLimit (l.archive ++ [l.total]) = _
      rw [mirrors.archive, mirrors.total, lastOf_lastOf_append]
      rfl

theorem opened_mirrors {budget : Float} {start : Instant} {l : Ledger}
    (h : Ledger.opened budget start = .ok l) : start.day = .ok l.today ∧ Mirrors l.today [] l := by
  unfold Ledger.opened at h
  split at h
  · cases h
  · cases day : start.day with
    | error fault =>
      rw [day] at h
      cases h
    | ok first =>
      rw [day] at h
      cases h
      exact ⟨rfl, ⟨rfl, rfl, rfl⟩⟩

/-! ### Runs -/

/-- Operations one after the other, each with what the clock shows to it. -/
def run (ops : List (Operation × Instant)) : Step Ledger Unit := sequence (fun e => e.1.step e.2) ops

def looksOf (ops : List (Operation × Instant)) : List Look := ops.filterMap fun e => e.1.look? e.2

theorem run_mirrors {l₀ : Ledger} (fresh : Mirrors l₀.today [] l₀) {ops : List (Operation × Instant)}
    {l : Ledger} (ran : Answers (run ops) l₀ () l) : Mirrors l₀.today (looksOf ops) l := by
  induction ops using List.reverseRecOn generalizing l with
  | nil =>
    obtain ⟨-, rfl⟩ := answers_pure.mp ran
    exact fresh
  | append_singleton ops e ih =>
    obtain ⟨between, earlier, last⟩ := answers_sequence_concat.mp ran
    have mirrors := ih earlier
    rw [Operation.step_takes last]
    cases look : e.1.look? e.2 with
    | none => simpa [looksOf, look] using mirrors
    | some taken => simpa [looksOf, look] using mirrors_take mirrors taken

/-- What a ledger holds after these looks at the clock, all of it read off the looks. -/
structure Accounts (first : Day) (looks : List Look) (l : Ledger) : Prop where
  today_seen : l.today ∈ first :: looks.map Look.day
  today_latest : ∀ d ∈ first :: looks.map Look.day, d ≤ l.today
  spend : l.spend = Charge.sum (charged first looks l.today)
  requests : l.requests = (charged first looks l.today).length
  breakdown : l.breakdown = Charge.breakdown (charged first looks l.today)
  costs : ∀ k, Register.get? l.breakdown k =
    if Charge.ofModel k (charged first looks l.today) = [] then none
    else some (Charge.sum (Charge.ofModel k (charged first looks l.today)))
  archive : l.archive = lastOf 30 ((closed first looks).map fun d => Charge.total d (charged first looks d))
  increasing : (l.archive.map DayTotal.day ++ [l.today]).Pairwise (· < ·)

theorem Mirrors.accounts {first : Day} {looks : List Look} {l : Ledger}
    (mirrors : Mirrors first looks l) : Accounts first looks l := by
  obtain ⟨-, spend, requests, breakdown⟩ := (DayTotal.mk.injEq ..).mp mirrors.total
  constructor
  case today_seen => exact mirrors.today ▸ tracked_seen first looks
  case today_latest => exact mirrors.today ▸ tracked_latest first looks
  case spend => exact mirrors.today ▸ spend
  case requests => exact mirrors.today ▸ requests
  case breakdown => exact mirrors.today ▸ breakdown
  case costs =>
    intro k
    rw [show l.breakdown = _ from breakdown, mirrors.today]
    exact Charge.get?_breakdown _ k
  case archive => exact mirrors.archive
  case increasing =>
    have increasing := periods_increasing first looks
    have days : l.archive.map DayTotal.day = lastOf archiveLimit (closed first looks) := by
      rw [mirrors.archive, ← lastOf_map, List.map_map]
      exact congrArg _ (List.map_id _)
    rw [periods_eq] at increasing
    rw [days, mirrors.today]
    exact increasing.sublist ((List.drop_sublist _ _).append_right _)

theorem latest_days {n : Int} {now : Instant} {l l' : Ledger} {ts : List DayTotal}
    (h : Answers (history (.int n) now) l ts l') :
    ts = lastOf n.toNat l'.archive ∧ ts.length = min n.toNat l'.archive.length ∧ (n ≤ 0 → ts = []) := by
  obtain ⟨read, -⟩ := history_answers h
  obtain rfl := Except.ok.inj read
  have length := length_lastOf n.toNat l'.archive
  refine ⟨rfl, length, fun none => List.length_eq_zero_iff.mp ?_⟩
  rw [latest, length]
  omega

/-- After any operations that end, under whatever the clock shows to each of them, a ledger accounts for
every period as if each had been kept apart, and what it answers is read off that. A request that is
rejected leaves it alone. -/
theorem run_accounts {budget : Float} {start : Instant} {l₀ l : Ledger}
    {ops : List (Operation × Instant)} (opened : Ledger.opened budget start = .ok l₀)
    (ran : Answers (run ops) l₀ () l) :
    start.day = .ok l₀.today ∧ Accounts l₀.today (looksOf ops) l ∧
    (∀ now spend l', Answers (dailySpend now) l spend l' →
      Accounts l₀.today (looksOf (ops ++ [(.dailySpend, now)])) l' ∧ spend = l'.spend) ∧
    (∀ now costs l', Answers (modelBreakdown now) l costs l' →
      Accounts l₀.today (looksOf (ops ++ [(.modelBreakdown, now)])) l' ∧ costs = l'.breakdown) ∧
    (∀ now n ts l', Answers (history (.int n) now) l ts l' →
      Accounts l₀.today (looksOf (ops ++ [(.history (.int n), now)])) l' ∧
      ts = lastOf n.toNat l'.archive ∧ ts.length = min n.toNat l'.archive.length ∧ (n ≤ 0 → ts = [])) ∧
    (∀ now id inputTokens outputTokens pricing, ¬Accepts id inputTokens outputTokens pricing →
      Answers (record id inputTokens outputTokens pricing now) l 0.0 l) ∧
    (∀ now id inputTokens outputTokens pricing cost l', Accepts id inputTokens outputTokens pricing →
      Answers (record id inputTokens outputTokens pricing now) l cost l' →
      ∃ d, now.day = .ok d ∧
        looksOf [(.record id inputTokens outputTokens pricing, now)] = [⟨d, some ⟨id, cost⟩⟩]) := by
  obtain ⟨seen, fresh⟩ := opened_mirrors opened
  have further : ∀ {op : Operation} {now : Instant} {l' : Ledger}, Answers (op.step now) l () l' →
      Accounts l₀.today (looksOf (ops ++ [(op, now)])) l' := fun {op now l'} step =>
    (run_mirrors fresh (answers_sequence_concat.mpr ⟨l, ran, step⟩)).accounts
  refine ⟨seen, (run_mirrors fresh ran).accounts, ?_, ?_, ?_, ?_, ?_⟩
  · intro now spend l' viewed
    exact ⟨further (answers_quietly.mpr ⟨spend, viewed⟩), (view_answers viewed).1⟩
  · intro now costs l' viewed
    exact ⟨further (answers_quietly.mpr ⟨costs, viewed⟩), (view_answers viewed).1⟩
  · intro now n ts l' listed
    exact ⟨further (answers_quietly.mpr ⟨ts, listed⟩), latest_days listed⟩
  · intro now id inputTokens outputTokens pricing rejected
    exact record_rejects rejected now l
  · intro now id inputTokens outputTokens pricing cost l' accepted recorded
    obtain ⟨p, d, rfl, estimate, day, -⟩ := record_charges accepted recorded
    refine ⟨d, day, ?_⟩
    simp [looksOf, Operation.look?, Operation.charge?, Operation.lookAt, accepted, estimate, day,
      Except.toOption]

def earlyOn (d : Int) : Instant := ⟨d * 86400000000 + 3600000000, some 0, none⟩

/-- Costs under a clock that skips a day, shows a far one to a request without a name, and steps back. -/
def unsteady : List (Operation × Instant) :=
  [(.record (.ofText "a") (.decimal 1000000.0) (.flag false) (some ⟨2.0, 4.0⟩), earlyOn 1),
    (.record (.ofText "") (.decimal 1000000.0) (.flag false) (some ⟨2.0, 4.0⟩), earlyOn 9),
    (.record (.ofText "b") (.decimal 1000000.0) (.flag false) (some ⟨2.0, 4.0⟩), earlyOn 3),
    (.record (.ofText "a") (.decimal 1000000.0) (.flag false) (some ⟨2.0, 4.0⟩), earlyOn 2)]

theorem unsteady_accounts : ∃ l, Answers (run unsteady) { monthlyBudget := 30.0, today := ⟨0⟩ } () l ∧
    l.today = ⟨3⟩ ∧ l.requests = 2 ∧ (l.breakdown.map Prod.fst) = [.text "b", .text "a"] ∧
    l.archive.map (fun t => (t.day, t.requests)) = [(⟨0⟩, 0), (⟨1⟩, 1)] := by
  have ran : Answers (run unsteady) { monthlyBudget := 30.0, today := ⟨0⟩ } () _ := ⟨rfl, rfl⟩
  obtain ⟨-, accounts, -⟩ := @run_accounts 30.0 (earlyOn 0) _ _ unsteady rfl ran
  refine ⟨_, ran, rfl, accounts.requests, ?_, ?_⟩
  · rw [accounts.breakdown]
    decide +kernel
  · rw [accounts.archive]
    decide +kernel

end Switchboard.Ledger

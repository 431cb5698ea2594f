import Switchboard.Proofs.Spending.Regular
import Switchboard.Proofs.Spending.Rollover

/-!
Days that can be closed. A day goes to the archive if its spend is not below zero, and so it is unless one of
its costs is undefined. A ledger that has charged such a cost keeps answering on that day and never gets past
it.
-/

namespace Switchboard

open Step Look Binary64

namespace Charge

/-- As it comes of a regular request. -/
structure Proper (c : Charge) : Prop where
  named : ∃ name, c.id = .ofText name
  cost : c.cost.isNaN = true ∨ Amount (parts c.cost)

variable {cs : List Charge}

theorem sum_amount (amounts : ∀ c ∈ cs, Amount (parts c.cost)) : Amount (parts (sum cs)) := by
  induction cs using List.reverseRecOn with
  | nil =>
    have bits : Float.toBits 0.0 = 0 := by decide +kernel
    rw [show sum [] = 0.0 from rfl, parts_of_toBits bits]
    exact .zero _
  | append_singleton cs c ih =>
    rw [sum_concat]
    exact add_amount (ih fun c' member => amounts c' (List.mem_append_left _ member))
      (amounts c (List.mem_append_right _ List.mem_cons_self))

theorem sum_undefined {c : Charge} (member : c ∈ cs) (undefined : c.cost.isNaN = true) :
    (sum cs).isNaN = true := by
  induction cs using List.reverseRecOn with
  | nil => cases member
  | append_singleton cs last ih =>
    rw [sum_concat]
    rcases List.mem_append.mp member with earlier | now
    · exact add_undefined (.inl (ih earlier))
    · rw [List.mem_singleton.mp now] at undefined
      exact add_undefined (.inr undefined)

theorem defined_or_undefined (cs : List Charge) :
    (∀ c ∈ cs, c.cost.isNaN = false) ∨ ∃ c ∈ cs, c.cost.isNaN = true := by
  by_cases defined : ∀ c ∈ cs, c.cost.isNaN = false
  · exact .inl defined
  · refine .inr ?_
    simpa using defined

theorem nameIssues_breakdown (named : ∀ c ∈ cs, ∃ name, c.id = .ofText name) :
    Ledger.nameIssues (breakdown cs) = [] := by
  rw [Ledger.nameIssues, List.filterMap_eq_nil_iff]
  intro e member
  obtain ⟨k, key, rfl⟩ := List.mem_map.mp member
  obtain ⟨c, rest, split⟩ := List.exists_cons_of_ne_nil (mem_keys.mp key)
  have charged : c ∈ ofModel k cs := by
    rw [split]
    exact List.mem_cons_self
  obtain ⟨name, text⟩ := named c (List.mem_of_mem_filter charged)
  rw [nameOf, split, List.head?_cons, Option.map_some, Option.getD_some, text]
  rfl

end Charge

namespace Ledger

/-! ### One day -/

/-- The total of the tracked day is below zero or undefined. -/
def unarchivable : Fault := .invalid "DailyCost" [⟨[.key "total_spend"], .outside (.atLeast 0)⟩]

section Day

variable {l : Ledger} {d : Day} {cs : List Charge}

theorem nameIssues_of_total (total : l.total = Charge.total d cs) (proper : ∀ c ∈ cs, c.Proper) :
    nameIssues l.breakdown = [] := by
  obtain ⟨-, -, -, breakdown⟩ := (DayTotal.mk.injEq ..).mp total
  rw [breakdown]
  exact Charge.nameIssues_breakdown fun c member => (proper c member).named

theorem checkTotal_ok (total : l.total = Charge.total d cs) (proper : ∀ c ∈ cs, c.Proper)
    (defined : ∀ c ∈ cs, c.cost.isNaN = false) : l.checkTotal = .ok () := by
  obtain ⟨-, spend, -, -⟩ := (DayTotal.mk.injEq ..).mp total
  have amount : Amount (parts l.spend) := by
    rw [spend]
    refine Charge.sum_amount fun c member => (proper c member).cost.resolve_left ?_
    rw [defined c member]
    exact Bool.false_ne_true
  have clear : l.spendIssues = [] := if_pos (admits_zero_iff.mpr amount)
  rw [checkTotal, clear, nameIssues_of_total total proper]
  rfl

theorem checkTotal_error (total : l.total = Charge.total d cs) (proper : ∀ c ∈ cs, c.Proper) {c : Charge}
    (member : c ∈ cs) (undefined : c.cost.isNaN = true) : l.checkTotal = .error unarchivable := by
  obtain ⟨-, spend, -, -⟩ := (DayTotal.mk.injEq ..).mp total
  have outside : ¬Bound.admitsFloat l.spend (.atLeast 0) = true := by
    intro admitted
    have defined := (admits_zero_iff.mp admitted).isNaN_eq_false
    rw [spend, Charge.sum_undefined member undefined] at defined
    cases defined
  have issue : l.spendIssues = [⟨[.key "total_spend"], .outside (.atLeast 0)⟩] := if_neg outside
  rw [checkTotal, issue, nameIssues_of_total total proper]
  rfl

theorem stuck_iff {now : Instant} {today : Day} {fault : Fault} (day : now.day = .ok today)
    (total : l.total = Charge.total d cs) (proper : ∀ c ∈ cs, c.Proper) :
    l.Stuck now fault ↔ ¬today ≤ l.today ∧ (∃ c ∈ cs, c.cost.isNaN = true) ∧ fault = unarchivable := by
  constructor
  · rintro (undated | ⟨today', day', late, failed⟩)
    · cases day.symm.trans undated
    · obtain rfl := Except.ok.inj (day.symm.trans day')
      rcases Charge.defined_or_undefined cs with defined | ⟨c, member, undefined⟩
      · cases (checkTotal_ok total proper defined).symm.trans failed
      · obtain rfl := Except.error.inj ((checkTotal_error total proper member undefined).symm.trans failed)
        exact ⟨late, ⟨c, member, undefined⟩, rfl⟩
  · rintro ⟨late, ⟨c, member, undefined⟩, rfl⟩
    exact .inr ⟨today, day, late, checkTotal_error total proper member undefined⟩

/-- A regular operation ends if it does not have to close a day with an undefined cost; otherwise it stops
and changes nothing. -/
theorem step_ends_or_stops {now : Instant} {op : Operation} {today : Day} (regular : op.Regular)
    (day : now.day = .ok today) (total : l.total = Charge.total d cs) (proper : ∀ c ∈ cs, c.Proper) :
    ((∃ l', Answers (op.step now) l () l') ∧
      ∀ look, op.look? now = some look → ¬look.day ≤ l.today → ∀ c ∈ cs, c.cost.isNaN = false) ∨
    (Faults (op.step now) l unarchivable l ∧
      ∃ look, op.look? now = some look ∧ ¬look.day ≤ l.today ∧ ∃ c ∈ cs, c.cost.isNaN = true) := by
  rcases Operation.step_ends regular day (nameIssues_of_total total proper) with
    ⟨unlooked, answered⟩ | ⟨charge, looked, ⟨free, _, l', answered⟩ | ⟨fault, stuck, stopped⟩⟩
  · refine .inl ⟨⟨l, answered⟩, fun look looked => ?_⟩
    cases unlooked.symm.trans looked
  · refine .inl ⟨⟨l', answered⟩, fun look looked' late => ?_⟩
    obtain rfl := Option.some.inj (looked.symm.trans looked')
    rcases Charge.defined_or_undefined cs with defined | undefined
    · exact defined
    · exact (free unarchivable ((stuck_iff day total proper).mpr ⟨late, undefined, rfl⟩)).elim
  · obtain ⟨late, undefined, rfl⟩ := (stuck_iff day total proper).mp stuck
    exact .inr ⟨stopped, _, looked, late, undefined⟩

end Day

/-! ### Runs -/

/-- No cost that was charged on a day that is closed is undefined. -/
def Closable (first : Day) (looks : List Look) : Prop :=
  ∀ d ∈ closed first looks, ∀ c ∈ charged first looks d, c.cost.isNaN = false

theorem closable_concat {first : Day} {looks : List Look} {look : Look} :
    Closable first (looks ++ [look]) ↔ Closable first looks ∧
      (¬look.day ≤ tracked first looks →
        ∀ c ∈ charged first looks (tracked first looks), c.cost.isNaN = false) := by
  have same : Closable first (looks ++ [look]) ↔
      ∀ d ∈ closed first (looks ++ [look]), ∀ c ∈ charged first looks d, c.cost.isNaN = false :=
    forall₂_congr fun d member => by rw [charged_closed_concat member]
  rw [same, closed_concat, Closable]
  by_cases old : look.day ≤ tracked first looks
  · simp [old]
  · simp [old, or_imp, forall_and]

section Run

variable {first : Day} {ops : List (Operation × Instant)}

theorem looksOf_concat (ops : List (Operation × Instant)) (e : Operation × Instant) :
    looksOf (ops ++ [e]) = looksOf ops ++ (e.1.look? e.2).toList := by
  rw [looksOf, List.filterMap_append, looksOf]
  cases look : e.1.look? e.2 <;> simp [look]

theorem charged_request {d : Day} {c : Charge} (member : c ∈ charged first (looksOf ops) d) :
    ∃ e ∈ ops, ∃ id inputTokens outputTokens pricing, e.1 = .record id inputTokens outputTokens pricing ∧
      Operation.charge? id inputTokens outputTokens pricing = some c := by
  obtain ⟨look, looked, charge⟩ := mem_charged member
  obtain ⟨e, asked, took⟩ := List.mem_filterMap.mp looked
  exact ⟨e, asked, Operation.look?_charge took charge⟩

theorem charged_proper (regular : ∀ e ∈ ops, e.1.Regular) {d : Day} :
    ∀ c ∈ charged first (looksOf ops) d, c.Proper := by
  intro c member
  obtain ⟨e, asked, id, inputTokens, outputTokens, pricing, request, charged⟩ := charged_request member
  have sound := regular e asked
  rw [request] at sound
  obtain ⟨rfl, p, -, cost⟩ := Operation.charge?_cost sound charged
  refine ⟨sound.1, ?_⟩
  split at cost
  · exact .inl cost
  · exact .inr cost

variable {l₀ l : Ledger} {op : Operation} {now : Instant}

theorem next_ends_or_stops (fresh : Mirrors l₀.today [] l₀) (regular : ∀ e ∈ ops, e.1.Regular)
    (ran : Answers (run ops) l₀ () l) (next : op.Regular) {today : Day} (day : now.day = .ok today) :
    ((∃ l', Answers (op.step now) l () l') ∧ ∀ look, op.look? now = some look → ¬look.day ≤ l.today →
      ∀ c ∈ charged l₀.today (looksOf ops) l.today, c.cost.isNaN = false) ∨
    (Faults (op.step now) l unarchivable l ∧ ∃ look, op.look? now = some look ∧ ¬look.day ≤ l.today ∧
      ∃ c ∈ charged l₀.today (looksOf ops) l.today, c.cost.isNaN = true) := by
  have mirrors := run_mirrors fresh ran
  have total := mirrors.total
  rw [← mirrors.today] at total
  exact step_ends_or_stops next day total (charged_proper regular)

/-- Regular operations end as long as every day can be closed. -/
theorem run_ends_of_mirrors (fresh : Mirrors l₀.today [] l₀) (regular : ∀ e ∈ ops, e.1.Regular)
    (dated : ∀ e ∈ ops, ∃ d, e.2.day = .ok d) :
    (∃ l, Answers (run ops) l₀ () l) ↔ Closable l₀.today (looksOf ops) := by
  induction ops using List.reverseRecOn with
  | nil =>
    refine ⟨fun _ d member => ?_, fun _ => ⟨l₀, answers_pure.mpr ⟨rfl, rfl⟩⟩⟩
    rw [show closed l₀.today (looksOf []) = [] from rfl] at member
    cases member
  | append_singleton ops e ih =>
    have last : e ∈ ops ++ [e] := List.mem_append_right _ List.mem_cons_self
    have earlier : ∀ e' ∈ ops, e' ∈ ops ++ [e] := fun e' member => List.mem_append_left _ member
    have sound : ∀ e' ∈ ops, e'.1.Regular := fun e' member => regular e' (earlier e' member)
    have ih := ih sound fun e' member => dated e' (earlier e' member)
    -- Days that were closed before are settled; only the day that the last operation closes is new.
    have split : Closable l₀.today (looksOf (ops ++ [e])) ↔ Closable l₀.today (looksOf ops) ∧
        ∀ look, e.1.look? e.2 = some look → ¬look.day ≤ tracked l₀.today (looksOf ops) →
          ∀ c ∈ charged l₀.today (looksOf ops) (tracked l₀.today (looksOf ops)), c.cost.isNaN = false := by
      rw [looksOf_concat]
      cases look : e.1.look? e.2 with
      | none => simp
      | some look => simp [closable_concat]
    obtain ⟨d, day⟩ := dated e last
    rw [split, ← ih]
    constructor
    · rintro ⟨l', ran⟩
      obtain ⟨l, ran, answered⟩ := answers_sequence_concat.mp ran
      rw [← (run_mirrors fresh ran).today]
      rcases next_ends_or_stops fresh sound ran (regular e last) day with ⟨-, defined⟩ | ⟨stopped, -⟩
      · exact ⟨⟨l, ran⟩, defined⟩
      · exact (answered.not_faults stopped).elim
    · rintro ⟨⟨l, ran⟩, defined⟩
      rw [← (run_mirrors fresh ran).today] at defined
      rcases next_ends_or_stops fresh sound ran (regular e last) day with
        ⟨⟨l', answered⟩, -⟩ | ⟨-, look, looked, late, c, member, undefined⟩
      · exact ⟨l', answers_sequence_concat.mpr ⟨l, ran, answered⟩⟩
      · cases (defined look looked late c member).symm.trans undefined

theorem closable_of_defined (regular : ∀ e ∈ ops, e.1.Regular) (defined : ∀ e ∈ ops, ¬e.1.Undefined) :
    Closable first (looksOf ops) := by
  intro d _ c member
  obtain ⟨e, asked, id, inputTokens, outputTokens, pricing, request, charged⟩ := charged_request member
  have sound := regular e asked
  have priced := defined e asked
  rw [request] at sound priced
  obtain ⟨-, p, rfl, cost⟩ := Operation.charge?_cost sound charged
  rw [if_neg (show ¬p.Undefined inputTokens outputTokens from priced)] at cost
  exact cost.isNaN_eq_false

end Run

/-- Whatever is asked as it should be, on whatever days, is answered if and only if no day has to be closed on
which a cost was undefined, and a cost is undefined only where an infinite rate is charged for no tokens. The
first operation that sees a later day archives the total of the day before and starts from nothing; if that
day has an undefined cost, it stops there, and so does every operation after it, for nothing has changed. -/
theorem run_ends_iff {budget : Float} {start : Instant} {l₀ : Ledger} {ops : List (Operation × Instant)}
    (opened : Ledger.opened budget start = .ok l₀) (regular : ∀ e ∈ ops, e.1.Regular)
    (dated : ∀ e ∈ ops, ∃ d, e.2.day = .ok d) :
    ((∃ l, Answers (run ops) l₀ () l) ↔ Closable l₀.today (looksOf ops)) ∧
    ((∀ e ∈ ops, ¬e.1.Undefined) → ∃ l, Answers (run ops) l₀ () l) ∧
    (∀ id inputTokens outputTokens p c,
      (Operation.record id inputTokens outputTokens (some p)).Regular →
      Operation.charge? id inputTokens outputTokens (some p) = some c →
      (c.cost.isNaN = true ↔ p.Undefined inputTokens outputTokens)) ∧
    (∀ l now (op : Operation) (look : Look), Answers (run ops) l₀ () l → op.Regular →
      op.look? now = some look → ¬look.day ≤ l.today →
      ((∀ c ∈ charged l₀.today (looksOf ops) l.today, c.cost.isNaN = false) ∧
        ∃ l', Answers (op.step now) l () l' ∧ l'.archive = lastOf 30 (l.archive ++ [l.total]) ∧
          l'.total = Charge.total look.day look.charge.toList) ∨
      ((∃ c ∈ charged l₀.today (looksOf ops) l.today, c.cost.isNaN = true) ∧
        Faults (op.step now) l unarchivable l)) := by
  obtain ⟨-, fresh⟩ := opened_mirrors opened
  have ends := run_ends_of_mirrors fresh regular dated
  refine ⟨ends, fun defined => ends.mpr (closable_of_defined regular defined), ?_, ?_⟩
  · intro id inputTokens outputTokens p c sound charged
    obtain ⟨-, p', same, cost⟩ := Operation.charge?_cost sound charged
    obtain rfl := Option.some.inj same
    split at cost
    case isTrue undefined => exact iff_of_true cost undefined
    case isFalse defined =>
      rw [cost.isNaN_eq_false]
      exact iff_of_false Bool.false_ne_true defined
  · intro l now op look ran next looked late
    rcases next_ends_or_stops fresh regular ran next (Operation.look?_day looked) with
      ⟨⟨l', answered⟩, defined⟩ | ⟨stopped, look', -, -, undefined⟩
    · refine .inl ⟨defined look looked late, l', answered, ?_⟩
      obtain rfl := Operation.step_takes answered
      have closes : l.onDay look.day = l.closeDay look.day := if_neg late
      have nothing : (l.onDay look.day).total = Charge.total look.day [] := closes ▸ rfl
      rw [looked, Option.elim_some]
      refine ⟨?_, take_total nothing⟩
      rw [take_archive, closes]
      rfl
    · exact .inr ⟨undefined, stopped⟩

/-- No tokens at an infinite rate on one day, and a look at the spend on the next. -/
def freeRequest : List (Operation × Instant) :=
  [(.record (.ofText "m") (.whole 0) (.whole 10) (some ⟨infinity false, 1.0⟩), earlyOn 1),
    (.dailySpend, earlyOn 2)]

theorem freeRequest_never_ends :
    ¬∃ l, Answers (run freeRequest) { monthlyBudget := 30.0, today := ⟨1⟩ } () l := by
  have counts : ∀ n ∈ [0, 10], (ofInt? n).isSome = true := by decide +kernel
  have valid : Pricing.Valid ⟨infinity false, 1.0⟩ := by
    rw [Pricing.valid_iff, ← admits_zero_iff, ← admits_zero_iff]
    decide +kernel
  have regular : ∀ e ∈ freeRequest, e.1.Regular := by
    simp only [freeRequest, List.forall_mem_cons]
    have input : Number.Countable (.whole 0) := ⟨0, rfl, counts 0 (by decide)⟩
    have output : Number.Countable (.whole 10) := ⟨10, rfl, counts 10 (by decide)⟩
    refine ⟨⟨⟨"m", rfl⟩, input, output, fun p same => ?_⟩, trivial, List.forall_mem_nil _⟩
    obtain rfl := Option.some.inj same
    exact valid
  have dated : ∀ e ∈ freeRequest, ∃ d, e.2.day = .ok d := by
    simp only [freeRequest, List.forall_mem_cons]
    exact ⟨⟨⟨1⟩, rfl⟩, ⟨⟨2⟩, rfl⟩, List.forall_mem_nil _⟩
  -- Zero times infinity, which the first day was charged and the second has to close.
  have undefined : ((closed ⟨1⟩ (looksOf freeRequest)).any fun d =>
      (charged ⟨1⟩ (looksOf freeRequest) d).any (·.cost.isNaN)) = true := by decide +kernel
  obtain ⟨d, member, some⟩ := List.any_eq_true.mp undefined
  obtain ⟨c, charge, undefined⟩ := List.any_eq_true.mp some
  obtain ⟨ends, -⟩ :=
    @run_ends_iff 30.0 (earlyOn 1) { monthlyBudget := 30.0, today := ⟨1⟩ } freeRequest rfl regular dated
  intro ran
  cases (ends.mp ran d member c charge).symm.trans undefined

end Ledger
end Switchboard

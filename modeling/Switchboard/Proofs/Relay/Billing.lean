import Switchboard.Proofs.Relay.WriteBack
import Switchboard.Proofs.Spending.Prediction

/-!
What responses cost. The ledger is asked about a request and told of it by different parts of the program,
and the price is worked out in each of them; the three agree to the last bit, so that a response can be
checked against the prices of the catalog.
-/

namespace Switchboard

open Step

namespace Relay

variable {σ : Type} {t : Transport σ} {r r' : Relay σ}

/-- The response costs what its tokens are estimated to cost with the model that it names. -/
def Billed (c : Catalog) (response : Response) : Prop :=
  ∃ m, c.byId? response.model = some m ∧
    m.pricing.estimate response.inputTokens response.outputTokens = .ok response.cost

/-! ### One attempt -/

theorem settleSuccess_charges {a : Attempt} {c : Completion} {response : Response}
    (named : a.model.handle.isSet = true) (h : Step.Answers (settleSuccess a c) r response r') :
    response.model = a.model.id ∧
      a.model.pricing.estimate response.inputTokens response.outputTokens = .ok response.cost := by
  obtain ⟨_, _, -, rest⟩ := answers_bind.mp h
  obtain ⟨_, _, -, rest⟩ := answers_bind.mp rest
  obtain ⟨cost, _, charged, rest⟩ := answers_bind.mp rest
  obtain ⟨_, _, -, rest⟩ := answers_bind.mp rest
  obtain ⟨_, _, -, last⟩ := answers_bind.mp rest
  obtain ⟨rfl, -⟩ := answers_pure.mp last
  obtain ⟨l, recorded, -⟩ := answers_on.mp charged
  -- Counts of tokens that a completion carries are natural numbers.
  have accepted : Ledger.Accepts a.model.handle c.inputTokens c.outputTokens (some a.model.pricing) := by
    refine ⟨named, rfl, ?_, ?_⟩
    · simp [Number.isNegative]
    · simp [Number.isNegative]
  obtain ⟨p, d, same, estimate, -, -⟩ := Ledger.record_charges accepted recorded
  obtain rfl := Option.some.inj same
  exact ⟨rfl, estimate⟩

theorem settle_charges {a : Attempt} {response : Response} (named : a.model.handle.isSet = true)
    (h : Step.Answers (settle a : Step (Relay σ) _) r (.ok response) r') : response.model = a.model.id ∧
      a.model.pricing.estimate response.inputTokens response.outputTokens = .ok response.cost := by
  obtain ⟨late, between, -, rest⟩ := answers_bind.mp h
  cases came : outcome a.delivery late with
  | ok c =>
    rw [came] at rest
    obtain ⟨response', succeeded, same⟩ := answers_map.mp rest
    obtain rfl := Except.ok.inj same
    exact settleSuccess_charges named succeeded
  | error failure =>
    rw [came] at rest
    obtain ⟨f, _, -, rest⟩ := answers_bind.mp rest
    obtain ⟨_, _, -, last⟩ := answers_bind.mp rest
    cases (answers_pure.mp last).1

/-! ### Any chat -/

variable {c : Catalog}

theorem billed_guides (distinct : Distinct c.models) (read : ∀ m ∈ c.models, m.WasRead) :
    Guides (fun r : Relay σ => r.catalog = c) Steady (fun m => m ∈ c.models) (Billed c) where
  toPermits := steady_permits.restrict fun _ _ => trivial
  stable r r' same steady := steady.catalog.trans same
  answers a listed r response r' answered := by
    have named := (read a.model listed).named
    obtain ⟨model, estimate⟩ := settle_charges named answered
    refine ⟨a.model, ?_, estimate⟩
    rw [model]
    exact Catalog.byId?_of_mem distinct listed

theorem begin_lists (q : ChatRequest) : Leads (fun r : Relay σ => r.catalog = c) Steady (begin q)
    fun opened => ∀ m ∈ opened.1, m ∈ c.models := by
  constructor
  case state => exact fun r _ => begin_steady q r
  case answer =>
    intro r same opened s answered m member
    obtain ⟨_, listed⟩ := begin_candidates answered
    rw [← same]
    exact candidates_listed listed m member

/-- Where a request can be asked about, it can be recorded on the same day, and the day's spending then keeps
the limit if and only if the request was said to be affordable. What is recorded is what was estimated,
added once to the day's total and once to what the model costs; and every response, of one chat or of several
at once, costs the estimate for its tokens. -/
theorem charges_match_estimates :
    (∀ q : Ledger.Request, q.model.WasRead → q.inputTokens.isNegative = false →
      q.outputTokens.isNegative = false →
        (∀ l l' now later latest affordable, Step.Answers (q.check now) l affordable l' →
          later.day = now.day → latest.day = now.day →
            ∃ cost l'', Step.Answers (q.record later) l' cost l'' ∧
              Step.Answers (Ledger.dailySpend latest) l'' l''.spend l'' ∧
              (affordable = true ↔ l''.spend ≤ l''.dailyLimit)) ∧
        ∀ l l' now cost, Step.Answers (q.record now) l cost l' →
          q.cost = .ok cost ∧ ∃ d, now.day = .ok d ∧ l'.spend = (l.onDay d).spend + cost ∧
            Register.get? l'.breakdown q.model.key =
              some ((Register.get? (l.onDay d).breakdown q.model.key).getD 0.0 + cost) ∧
            ∀ k, k ≠ q.model.key → Register.get? l'.breakdown k = Register.get? (l.onDay d).breakdown k) ∧
    ∀ (t : Transport σ) (r : Relay σ), Reachable r → (∀ m ∈ r.catalog.models, m.WasRead) →
      (∀ q response r', Step.Answers (chat t q) r response r' → Billed r.catalog response) ∧
      ∀ qs answers r', Step.Answers (gather t qs) r answers r' →
        ∀ response, .ok response ∈ answers → Billed r.catalog response := by
  constructor
  · intro q read input output
    have accepted : q.Accepted := ⟨read.named, rfl, input, output⟩
    constructor
    · intro l l' now later latest affordable checked recordDay readDay
      exact Ledger.Request.check_predicts accepted checked recordDay readDay
    · intro l l' now cost recorded
      exact Ledger.Request.record_adds accepted recorded
  · intro t r reachable read
    have guides := billed_guides (σ := σ) (reachable_sound reachable).distinct read
    constructor
    · intro q response r' answered
      exact (chat_leads guides t (begin_lists q)).answer r rfl response r' answered
    · intro qs answers r' answered
      exact (gather_leads guides t fun q _ => begin_lists q).answer r rfl answers r' answered

/-! ### A dollar and a greeting -/

/-- A request of one dollar is affordable and recorded as such, and the idle model is paid for its answer. -/
theorem dollar_and_greeting_billed :
    (∃ l l' cost,
      Step.Answers (Ledger.dollarRequest.check (Ledger.earlyOn 1)) Ledger.dollarLedger true l ∧
      Step.Answers (Ledger.dollarRequest.record (Ledger.earlyOn 1)) l cost l' ∧
      l'.spend ≤ l'.dailyLimit ∧ l'.spend = l.spend + cost) ∧
    ∃ response r', Step.Answers (chat busyLine askBusy) twoModels response r' ∧ response.model = "idle" ∧
      Billed twoModels.catalog response := by
  obtain ⟨ledgers, relays⟩ := charges_match_estimates (σ := Unit)
  constructor
  · have read : Ledger.dollarModel.WasRead := ⟨Ledger.dollarModel.toData, rfl⟩
    have fits : Ledger.dollarLedger.fits 1.0 = true := by decide +kernel
    have checked : Step.Answers (Ledger.dollarRequest.check (Ledger.earlyOn 1)) Ledger.dollarLedger _ _ :=
      Ledger.check_answers rfl Ledger.dollarRequest_cost
    rw [fits] at checked
    obtain ⟨predicts, adds⟩ := ledgers Ledger.dollarRequest read rfl rfl
    obtain ⟨cost, l', recorded, -, keeps⟩ := predicts _ _ _ (Ledger.earlyOn 1) (Ledger.earlyOn 1) _ checked rfl rfl
    obtain ⟨-, d, day, spend, -⟩ := adds _ _ _ _ recorded
    cases day
    exact ⟨_, l', cost, checked, recorded, keeps.mp rfl, spend⟩
  · have first : FirstAnswer (busyLine.trials [⟨.user, "hi"⟩] none () twoModels.clock [busy, idle])
        [⟨busy, twoModels.clock, .error (.other "TimeoutError" "")⟩]
        ⟨idle, twoModels.clock, .ok ⟨"hello", 0, 0⟩⟩ ⟨"hello", 0, 0⟩ :=
      ⟨⟨[], busyLine_trials⟩, by simp, rfl⟩
    have sound := twoModels_serving.accounted.monitor.sound
    obtain ⟨cost, l, charged⟩ := idle_charged
    obtain ⟨response, r', answers, gives, -⟩ :=
      tryAll_ends_answered (r := opened twoModels twoModels.ledger)
        (p := { messages := [⟨.user, "hi"⟩], temperature := none }) sound busyLine_ordinary first charged
    have chatted : Step.Answers (chat busyLine askBusy) twoModels response r' :=
      (chat_endsAs askBusy_opens).answers answers
    obtain ⟨billed, -⟩ := relays busyLine twoModels twoModels_reachable twoModels_read
    exact ⟨response, r', chatted, gives.model, billed askBusy response r' chatted⟩

end Relay
end Switchboard

import Switchboard.Proofs.Health.Tally
import Switchboard.Proofs.Relay.Choice
import Switchboard.Proofs.Spending.Holding

/-!
Writing back. Every attempt of a chat is reported to the monitor once, and every answer is charged to the
ledger once. Where nothing else uses the two, what they hold can be read off the sends that were made and
the responses that were given, whatever mix of failures, answers and days they came in.
-/

namespace Switchboard

open Step

/-! ### Models that were read -/

/-- The model was read from data. -/
def Model.WasRead (m : Model) : Prop := ∃ d, reader d = .good m

theorem Model.WasRead.named {m : Model} (h : m.WasRead) : m.handle.isSet = true := by
  obtain ⟨d, read⟩ := h
  obtain ⟨fs, rfl, h₁⟩ := Reader.record_good read
  obtain ⟨_, available, h₂, -, rfl⟩ := Reading.seq_good h₁
  obtain ⟨_, tier, h₃, -, rfl⟩ := Reading.seq_good h₂
  obtain ⟨_, useCases, h₄, -, rfl⟩ := Reading.seq_good h₃
  obtain ⟨_, pricing, h₅, -, rfl⟩ := Reading.seq_good h₄
  obtain ⟨_, capabilities, h₆, -, rfl⟩ := Reading.seq_good h₅
  obtain ⟨_, contextLength, h₇, -, rfl⟩ := Reading.seq_good h₆
  obtain ⟨_, name, h₈, -, rfl⟩ := Reading.seq_good h₇
  obtain ⟨id, h₉, rfl⟩ := Reading.map_good h₈
  obtain ⟨d, some⟩ := Reader.required_good h₉
  show (!id.isEmpty) = true
  rw [Reader.someText_good some, Bool.not_false]

namespace Relay

variable {σ : Type} {t : Transport σ} {r r' : Relay σ}

/-! ### Getting ready -/

/-- Nothing is sent, reported or charged. -/
structure Readies (r r' : Relay σ) : Prop where
  catalog : r'.catalog = r.catalog
  monitor : r'.monitor = r.monitor
  sends : r'.sends = r.sends
  ledger : Ledger.Retains r.ledger r'.ledger

theorem Readies.refl (r : Relay σ) : Readies r r := ⟨rfl, rfl, rfl, Ledger.Retains.refl _⟩

theorem Readies.trans {r r' r'' : Relay σ} (h : Readies r r') (h' : Readies r' r'') : Readies r r'' where
  catalog := h'.catalog.trans h.catalog
  monitor := h'.monitor.trans h.monitor
  sends := h'.sends.trans h.sends
  ledger := h.ledger.trans h'.ledger

instance : Trans (Readies : Relay σ → Relay σ → Prop) Readies Readies := ⟨Readies.trans⟩

theorem onLedger_readies {α : Type} {step : Instant → Step Ledger α}
    (h : ∀ now, Keeps Ledger.Retains (step now)) : Keeps Readies (onLedger step : Step (Relay σ) α) :=
  fun r => ⟨rfl, rfl, rfl, h r.clock.now r.ledger⟩

theorem begin_readies (q : ChatRequest) :
    Keeps Readies (begin q : Step (Relay σ) (List Model × Pending)) := by
  apply begin_keeps Readies.refl
  case routes => exact fun monitor t models => onLedger_readies fun now =>
    Selection.route_keeps Ledger.Retains.refl (Ledger.advance_retains now) monitor t models
  case counts => exact fun f r => ⟨rfl, rfl, rfl, Ledger.Retains.refl _⟩

/-! ### The books -/

/-- A response, and the day that was tracked when its cost was recorded. -/
structure Receipt where
  response : Response
  day : Day

namespace Receipt

def charge (e : Receipt) : Charge := ⟨.ofText e.response.model, e.response.cost⟩

def dated (e : Receipt) : Day × Charge := (e.day, e.charge)

/-- The costs of the responses added up, oldest first. -/
def spent (es : List Receipt) : Float := (es.map (·.response.cost)).foldl (· + ·) 0.0

def ofModel (k : Key) (es : List Receipt) : List Receipt := es.filter fun e => Key.text e.response.model = k

theorem sum_charges (es : List Receipt) : Charge.sum (es.map charge) = spent es := by
  rw [Charge.sum, List.map_map]
  rfl

theorem ofModel_charges (k : Key) (es : List Receipt) :
    Charge.ofModel k (es.map charge) = (ofModel k es).map charge := by
  rw [Charge.ofModel, List.filter_map]
  rfl

end Receipt

/-- What a chat answered, if it did. -/
def receipts (chatted : Outcome (Relay σ) Response) : List Receipt :=
  match chatted.answer with
  | .ok response => [⟨response, chatted.state.ledger.today⟩]
  | .error _ => []

theorem receipts_of_answers {x : Step (Relay σ) Response} {response : Response}
    (h : Step.Answers x r response r') : receipts (x r) = [⟨response, r'.ledger.today⟩] := by
  rw [receipts, h.1, h.2]

theorem receipts_of_faults {x : Step (Relay σ) Response} {fault : Fault} (h : Faults x r fault r') :
    receipts (x r) = [] := by
  rw [receipts, h.1]

theorem receipts_congr {x y : Step (Relay σ) Response} (h : EndsAs x r y r') :
    receipts (x r) = receipts (y r') := by
  rw [receipts, h.1, h.2, receipts]

/-- The monitor was told of every send and of every response, and the ledger holds the recent charges. -/
structure Accounted (r : Relay σ) (es : List Receipt) : Prop where
  read : ∀ m ∈ r.catalog.models, m.WasRead
  monitor : r.monitor.Tallies (r.sends.map Send.model) (es.map (·.response.model))
  ledger : r.ledger.Holds (es.map Receipt.dated)

variable {es : List Receipt} {m : Model} {p : Pending}

theorem Accounted.readied (accounted : Accounted r es) (readies : Readies r r') : Accounted r' es where
  read := readies.catalog ▸ accounted.read
  monitor := readies.monitor ▸ readies.sends ▸ accounted.monitor
  ledger := readies.ledger _ accounted.ledger

theorem Accounted.blamed (accounted : Accounted r es) (read : m.WasRead) (f : ProviderFailure) :
    Accounted ((reached t m p r).blamed m f) es where
  read := accounted.read
  monitor := by
    have told := accounted.monitor.effect
      (c := .failure m.handle f.detail.shown (reached t m p r).clock.now) rfl read.named rfl
    show Monitor.Tallies _ ((r.sends ++ _).map Send.model) _
    rw [List.map_append]
    exact told
  ledger := accounted.ledger

theorem Accounted.credited (accounted : Accounted r es) (read : m.WasRead) {c : Completion}
    {response : Response} {cost : Float} {n : Nat} {l : Ledger} (gives : Gives response m c cost n)
    (charged : Step.Answers (chargeFor m c (reached t m p r).clock.now) r.ledger cost l) (k : Counters) :
    Accounted { (reached t m p r).credited m response.responseMs with ledger := l, counters := k }
      (es ++ [⟨response, l.today⟩]) where
  read := accounted.read
  monitor := by
    have told := accounted.monitor.effect
      (c := .success m.handle response.responseMs (reached t m p r).clock.now) rfl read.named rfl
    show Monitor.Tallies _ ((r.sends ++ _).map Send.model) ((es ++ _).map _)
    rw [List.map_append, List.map_append, List.map_singleton, List.map_singleton, gives.model]
    exact told
  ledger := by
    have accepted : Ledger.Accepts m.handle c.inputTokens c.outputTokens (some m.pricing) :=
      ⟨read.named, rfl, by simp [Number.isNegative], by simp [Number.isNegative]⟩
    obtain ⟨_, d, -, -, -, rfl⟩ := Ledger.record_charges accepted charged
    have held := Ledger.take_holds accounted.ledger d ⟨m.handle, cost⟩
    rw [List.map_append, List.map_singleton, Receipt.dated, Receipt.charge, gives.model, gives.cost]
    exact held

/-! ### A chat -/

/-- The cost of whichever answer comes first can be recorded. -/
def Chargeable (t : Transport σ) (p : Pending) (models : List Model) (r : Relay σ) : Prop :=
  ∀ failed won c, FirstAnswer (t.trials p.messages p.temperature r.line r.clock models) failed won c →
    ∃ cost l, Step.Answers (chargeFor won.model c won.clock.now) r.ledger cost l

theorem Chargeable.failed {rest : List Model} {f : ProviderFailure}
    (chargeable : Chargeable t p (m :: rest) r)
    (failed : (t.trial p.messages p.temperature r.line r.clock m).1.failure? = some f) :
    Chargeable t (p.after m f) rest ((reached t m p r).blamed m f) := by
  -- A failure leaves the ledger alone, and whoever answers first behind it answers first of all.
  intro xs won c first
  obtain ⟨later, split⟩ := first.split
  obtain ⟨e, result, -⟩ := Trial.failure?_eq_some.mp failed
  refine chargeable ((t.trial p.messages p.temperature r.line r.clock m).1 :: xs) won c ⟨⟨later, ?_⟩, ?_, first.won⟩
  · exact congrArg ((t.trial p.messages p.temperature r.line r.clock m).1 :: ·) split
  · exact List.forall_mem_cons.mpr ⟨⟨e, result⟩, first.failed⟩

theorem tryAll_accounted (ordinary : t.Ordinary) {models : List Model} (read : ∀ m ∈ models, m.WasRead)
    (accounted : Accounted r es) (chargeable : Chargeable t p models r) :
    Accounted (tryAll t models p r).state (es ++ receipts (tryAll t models p r)) := by
  induction models generalizing p r with
  | nil =>
    rw [receipts_of_faults (tryAll_nil t p r), (tryAll_nil t p r).2, List.append_nil]
    exact accounted.readied ⟨rfl, rfl, rfl, Ledger.Retains.refl _⟩
  | cons m rest ih =>
    obtain ⟨own, others⟩ := List.forall_mem_cons.mp read
    rcases ordinary.answered_or_failed p.messages p.temperature r.line r.clock m with ⟨c, answered⟩ | ⟨f, failed⟩
    · obtain ⟨cost, l, charged⟩ := chargeable [] _ c ⟨⟨_, rfl⟩, by simp, answered⟩
      obtain ⟨response, gives, answers⟩ := tryAll_answered accounted.monitor.sound rest rfl answered charged
      rw [receipts_of_answers answers, answers.2]
      exact accounted.credited own gives charged _
    · have goesOn := tryAll_failed accounted.monitor.sound rest failed
      rw [receipts_congr goesOn, goesOn.2]
      exact ih others (accounted.blamed own f) (chargeable.failed failed)

/-- Recording the cost of its answer stops no chat. -/
def Charges (t : Transport σ) (q : ChatRequest) (r : Relay σ) : Prop :=
  ∀ models p r', Step.Answers (begin q) r (models, p) r' → Chargeable t p models r'

theorem chat_accounted (ordinary : t.Ordinary) {q : ChatRequest} (accounted : Accounted r es)
    (charges : Charges t q r) : Accounted (chat t q r).state (es ++ receipts (chat t q r)) := by
  have readied := accounted.readied (begin_readies q r)
  rcases answers_or_faults (begin q) r with ⟨⟨models, p⟩, begun⟩ | ⟨fault, stopped⟩
  · obtain ⟨_, listed⟩ := begin_candidates begun
    have read : ∀ m ∈ models, m.WasRead := fun m member => accounted.read m (candidates_listed listed m member)
    have goesOn : EndsAs (chat t q) r (tryAll t models p) _ := bind_run_ok begun
    rw [receipts_congr goesOn, goesOn.2]
    exact tryAll_accounted ordinary read readied (charges models p _ begun)
  -- A chat that does not begin sends nothing, but looking at the budget may have closed the day.
  · have ends : Faults (chat t q) r fault _ := bind_run_error stopped
    rw [receipts_of_faults ends, ends.2, List.append_nil]
    exact readied

/-! ### Chats one after the other -/

/-- Time passes, the router changes, or the ledger is asked for something. -/
def Event.IsPause : Event σ → Prop
  | clock _ => True
  | router _ => True
  | spending op => op.IsQuery
  | _ => False

theorem pause_readies {e : Event σ} (pause : e.IsPause) : Keeps Readies e.step := by
  cases e with
  | chat t q => exact pause.elim
  | gather t qs => exact pause.elim
  | health c => exact pause.elim
  | spending op => exact onLedger_readies (Ledger.query_retains pause)
  | clock c => exact fun _ => ⟨rfl, rfl, rfl, Ledger.Retains.refl _⟩
  | router choice => exact fun _ => ⟨rfl, rfl, rfl, Ledger.Retains.refl _⟩

/-- A relay that alone uses its monitor and its ledger, both fresh at first, and the responses of its chats
so far. -/
inductive Serving : Relay σ → List Receipt → Prop where
  | assembled {catalog : Catalog} {monitor : Monitor} {budget : Float} {start : Instant} {ledger : Ledger}
      {clock : Clock} {line : σ} {r : Relay σ} (read : ∀ m ∈ catalog.models, m.WasRead)
      (fresh : monitor.records = []) (opened : Ledger.opened budget start = .ok ledger)
      (assembled : Step.Answers (assemble catalog monitor ledger clock line) () r ()) : Serving r []
  | chat {r : Relay σ} {es : List Receipt} (earlier : Serving r es) {t : Transport σ} {q : ChatRequest}
      (ordinary : t.Ordinary) (charges : Charges t q r) :
      Serving (chat t q r).state (es ++ receipts (chat t q r))
  | pause {r : Relay σ} {es : List Receipt} (earlier : Serving r es) {e : Event σ} (pause : e.IsPause) :
      Serving (e.step r).state es

theorem Serving.accounted (serving : Serving r es) : Accounted r es := by
  induction serving with
  | assembled read fresh opened assembled =>
    obtain rfl := assemble_answers assembled
    exact ⟨read, .fresh fresh, Ledger.opened_holds opened⟩
  | chat earlier ordinary charges ih => exact chat_accounted ordinary ih charges
  | pause earlier pause ih => exact ih.readied (pause_readies pause _)

/-- The models that were ever sent to, each once. -/
def asked (r : Relay σ) : List String := (r.sends.map Send.model).eraseDups

/-- How many of the models that were ever sent to are in this state of health. -/
def askedWith (r : Relay σ) (status : HealthStatus) : Nat :=
  r.asked.countP fun id => (r.monitor.recordOf (.text id)).status = status

theorem Accounted.summary (accounted : Accounted r es) : r.monitor.summary =
    ⟨r.asked.length, r.askedWith .healthy, r.askedWith .degraded, r.askedWith .unavailable,
      r.askedWith .unknown⟩ := by
  have total := accounted.monitor.summary_total
  have count := accounted.monitor.count
  rw [Monitor.summary, count, count, count, count]
  exact congrArg (HealthSummary.mk · _ _ _ _) total

theorem Accounted.recent (accounted : Accounted r es) : ∃ earlier recent, es = earlier ++ recent ∧
    (∀ e ∈ earlier, e.day < r.ledger.today) ∧ (∀ e ∈ recent, e.day = r.ledger.today) ∧
    r.ledger.spend = Receipt.spent recent ∧ r.ledger.requests = recent.length ∧
    ∀ k, Register.get? r.ledger.breakdown k =
      if Receipt.ofModel k recent = [] then none else some (Receipt.spent (Receipt.ofModel k recent)) := by
  obtain ⟨_, _, split, before, today, total⟩ := accounted.ledger
  obtain ⟨earlier, recent, rfl, rfl, rfl⟩ := List.map_eq_append_iff.mp split
  have charges : (recent.map Receipt.dated).map Prod.snd = recent.map Receipt.charge := by
    rw [List.map_map]
    rfl
  rw [charges] at total
  obtain ⟨-, spend, requests, breakdown⟩ := (DayTotal.mk.injEq ..).mp total
  refine ⟨earlier, recent, rfl, List.forall_mem_map.mp before, List.forall_mem_map.mp today, ?_, ?_, ?_⟩
  · rw [spend, Receipt.sum_charges]
  · rw [requests, List.length_map]
  · intro k
    rw [breakdown, Charge.get?_breakdown, Receipt.ofModel_charges, Receipt.sum_charges]
    simp only [List.map_eq_nil_iff]

/-- After any chats, a model has as many outcomes as it was sent to and as many successes as it gave
responses; models that were not sent to have no record, and the summary counts each of the others once. What
is spent today, and on which model, is the costs of the responses since the tracked day began, added up in
their order: attempts that failed cost nothing. -/
theorem chats_accounted_for (serving : Serving r es) :
    (∀ id, (r.monitor.recordOf (.text id)).total = (r.sends.map Send.model).count id ∧
      (r.monitor.recordOf (.text id)).successes = es.countP (·.response.model = id)) ∧
    (∀ k, r.monitor.record? k = none ↔ ∀ id ∈ r.asked, k ≠ .text id) ∧
    (r.monitor.summary = ⟨r.asked.length, r.askedWith .healthy, r.askedWith .degraded,
        r.askedWith .unavailable, r.askedWith .unknown⟩ ∧
      r.askedWith .healthy + r.askedWith .degraded + r.askedWith .unavailable + r.askedWith .unknown =
        r.asked.length) ∧
    ∃ earlier recent, es = earlier ++ recent ∧
      (∀ e ∈ earlier, e.day < r.ledger.today) ∧ (∀ e ∈ recent, e.day = r.ledger.today) ∧
      r.ledger.spend = Receipt.spent recent ∧ r.ledger.requests = recent.length ∧
      ∀ k, Register.get? r.ledger.breakdown k =
        if Receipt.ofModel k recent = [] then none else some (Receipt.spent (Receipt.ofModel k recent)) := by
  have accounted := serving.accounted
  refine ⟨fun id => ⟨accounted.monitor.total id, ?_⟩, fun k => ?_, ⟨accounted.summary, ?_⟩, accounted.recent⟩
  · rw [accounted.monitor.successes, List.count, List.countP_map]
    rfl
  · rw [accounted.monitor.untouched]
    simp [asked]
  · have addsUp := r.monitor.summary_adds_up
    rw [accounted.summary] at addsUp
    exact addsUp

/-! ### One chat that fails over -/

theorem twoModels_read : ∀ m ∈ twoModels.catalog.models, m.WasRead :=
  List.forall_mem_cons.mpr ⟨⟨busy.toData, rfl⟩, List.forall_mem_singleton.mpr ⟨idle.toData, rfl⟩⟩

theorem twoModels_serving : Serving twoModels [] :=
  @Serving.assembled Unit ⟨[busy, idle]⟩ {} 30.0 ⟨0, some 0, none⟩ _ _ _ _ twoModels_read rfl rfl ⟨rfl, rfl⟩

theorem askBusy_charges : Charges busyLine askBusy twoModels := by
  intro models p r' begun failed won c first
  obtain ⟨same, rfl⟩ := begun.unique (begin_answers askBusy_opens)
  obtain ⟨rfl, rfl⟩ := Prod.mk.inj same
  obtain ⟨rfl, rfl⟩ := idle_answers_first first
  exact idle_charged

theorem fail_over_accounted_for : ∃ (r : Relay Unit) (es : List Receipt),
    Serving r es ∧ r.asked = ["busy", "idle"] ∧
    (r.monitor.recordOf (.text "busy")).total = 1 ∧ (r.monitor.recordOf (.text "busy")).successes = 0 ∧
    (r.monitor.recordOf (.text "idle")).total = 1 ∧ (r.monitor.recordOf (.text "idle")).successes = 1 ∧
    r.monitor.record? (.text "other") = none ∧ r.monitor.summary.total = 2 := by
  have first : FirstAnswer (busyLine.trials [⟨.user, "hi"⟩] none () twoModels.clock [busy, idle])
      [⟨busy, twoModels.clock, .error (.other "TimeoutError" "")⟩]
      ⟨idle, twoModels.clock, .ok ⟨"hello", 0, 0⟩⟩ ⟨"hello", 0, 0⟩ :=
    ⟨⟨[], busyLine_trials⟩, by simp, rfl⟩
  have sound := twoModels_serving.accounted.monitor.sound
  obtain ⟨cost, l, charged⟩ := idle_charged
  obtain ⟨response, r', answers, gives, -, sends, -⟩ :=
    tryAll_ends_answered (r := opened twoModels twoModels.ledger)
      (p := { messages := [⟨.user, "hi"⟩], temperature := none }) sound busyLine_ordinary first charged
  have chatted : Step.Answers (chat busyLine askBusy) twoModels response r' :=
    (chat_endsAs askBusy_opens).answers answers
  have serving := twoModels_serving.chat busyLine_ordinary askBusy_charges
  rw [receipts_of_answers chatted, chatted.2] at serving
  have models : r'.sends.map Send.model = ["busy", "idle"] := by rw [sends]; rfl
  have asked : r'.asked = ["busy", "idle"] := by rw [Relay.asked, models]; rfl
  obtain ⟨counts, untouched, ⟨summary, -⟩, -⟩ := chats_accounted_for serving
  rw [models] at counts
  refine ⟨r', _, serving, asked, (counts "busy").1, ?_, (counts "idle").1, ?_, ?_, ?_⟩
  · rw [(counts "busy").2]
    simp [gives.model, idle]
  · rw [(counts "idle").2]
    simp [gives.model, idle]
  · rw [untouched, asked]
    simp
  · rw [summary, asked]
    rfl

end Relay
end Switchboard

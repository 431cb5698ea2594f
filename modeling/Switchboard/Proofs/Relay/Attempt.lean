import Switchboard.Proofs.Health.Calls
import Switchboard.Relay.Chat

/-!
One attempt of a chat. What comes of it is settled by the transport and the clock alone (`Trial`); what
it does to the relay is settled by what comes of it. Recording a failure never fails, so an attempt is
lost only if its success cannot be charged.
-/

namespace Switchboard

open Step

/-- The clock after a delivery, and what went wrong if it cannot go that far. -/
def Clock.passed (c : Clock) (d : Delivery) : Clock × Option Fault :=
  match c.now.later d.elapsed with
  | .ok now => (⟨now, c.stopwatch + d.latency⟩, none)
  | .error fault => (⟨c.now, c.stopwatch + d.latency⟩, some fault)

/-- What came of sending a chat to a model, and the clock by then. -/
structure Trial where
  model : Model
  clock : Clock
  result : Except Failure Completion

namespace Trial

def failure? (x : Trial) : Option ProviderFailure :=
  match x.result with
  | .ok _ => none
  | .error e => (Relay.report x.model.id e).toOption

theorem failure?_eq_some {x : Trial} {f : ProviderFailure} :
    x.failure? = some f ↔ ∃ e, x.result = .error e ∧ Relay.report x.model.id e = .ok f := by
  unfold failure?
  cases x.result with
  | ok c => simp
  | error e =>
    cases reported : Relay.report x.model.id e <;> simp [reported, Except.toOption]

end Trial

theorem Reply.complete_not_cancelled (reply : Reply) (text : String) :
    reply.complete ≠ .error (.cancelled text) := by
  unfold complete
  split
  · exact nofun
  · split <;> exact nofun

/-- Only the transport itself can tell that the caller gave up. -/
theorem Relay.outcome_cancelled {d : Delivery} {late : Option Fault} {text : String}
    (h : outcome d late = .error (.cancelled text)) : d.result = .error (.cancelled text) := by
  cases late with
  | some fault => cases h
  | none =>
    change d.result.bind Reply.complete = _ at h
    cases result : d.result with
    | error e =>
      rw [result] at h
      cases h
      rfl
    | ok reply =>
      rw [result] at h
      exact (Reply.complete_not_cancelled reply text h).elim

namespace Transport

variable {σ : Type}

/-- The caller never gives up: every send returns a value or fails in an ordinary way. -/
def Ordinary (t : Transport σ) : Prop :=
  ∀ line model messages temperature text,
    (t.send line model messages temperature).1.result ≠ .error (.cancelled text)

def trial (t : Transport σ) (messages : List Message) (temperature : Option Data) (line : σ) (clock : Clock)
    (m : Model) : Trial × σ :=
  let (delivery, line') := t.send line m.id messages temperature
  let (clock', late) := clock.passed delivery
  (⟨m, clock', Relay.outcome delivery late⟩, line')

/-- What would come of sending the chat to one model after the other. -/
def trials (t : Transport σ) (messages : List Message) (temperature : Option Data) :
    (line : σ) → (clock : Clock) → List Model → List Trial
  | _, _, [] => []
  | line, clock, m :: rest =>
    let (x, line') := t.trial messages temperature line clock m
    x :: t.trials messages temperature line' x.clock rest

theorem models_trials (t : Transport σ) (messages : List Message) (temperature : Option Data) (line : σ)
    (clock : Clock) (models : List Model) :
    (t.trials messages temperature line clock models).map Trial.model = models := by
  induction models generalizing line clock with
  | nil => rfl
  | cons m rest ih => exact congrArg (m :: ·) (ih _ _)

theorem Ordinary.answered_or_failed {t : Transport σ} (ordinary : t.Ordinary) (messages : List Message)
    (temperature : Option Data) (line : σ) (clock : Clock) (m : Model) :
    (∃ c, (t.trial messages temperature line clock m).1.result = .ok c) ∨
      ∃ f, (t.trial messages temperature line clock m).1.failure? = some f := by
  have usual := ordinary line m.id messages temperature
  simp only [Trial.failure?_eq_some, trial]
  generalize (t.send line m.id messages temperature).1 = d at usual ⊢
  cases result : Relay.outcome d (clock.passed d).2 with
  | ok c => exact .inl ⟨c, rfl⟩
  | error e =>
    refine .inr ?_
    cases e with
    | provider f => exact ⟨f, _, rfl, rfl⟩
    | other kind text => exact ⟨_, _, rfl, rfl⟩
    | cancelled text => exact (usual text (Relay.outcome_cancelled result)).elim

end Transport

namespace Relay

variable {σ : Type} {t : Transport σ} {r : Relay σ}

/-! ### Steps of an attempt -/

def sent (t : Transport σ) (m : Model) (p : Pending) (r : Relay σ) : Relay σ :=
  { r with
    line := (t.send r.line m.id p.messages p.temperature).2
    sends := r.sends ++ [⟨m.id, p.messages, p.temperature⟩] }

def underWay (t : Transport σ) (m : Model) (p : Pending) (r : Relay σ) : Attempt :=
  ⟨m, p.attempted.length + 1, r.clock.stopwatch, (t.send r.line m.id p.messages p.temperature).1⟩

theorem dispatch_answers (t : Transport σ) (m : Model) (p : Pending) (r : Relay σ) :
    Answers (dispatch t m p) r (underWay t m p r) (sent t m p r) :=
  ⟨rfl, rfl⟩

theorem elapse_answers (d : Delivery) (r : Relay σ) :
    Answers (elapse d) r (r.clock.passed d).2 { r with clock := (r.clock.passed d).1 } := by
  unfold elapse Clock.passed
  cases later : r.clock.now.later d.elapsed with
  | ok now => simp only [Answers, later, and_self]
  | error fault => simp only [Answers, later, and_self]

theorem onLedger_answers {α : Type} {step : Instant → Step Ledger α} {a : α} {l : Ledger}
    (h : Answers (step r.clock.now) r.ledger a l) : Answers (onLedger step) r a { r with ledger := l } :=
  answers_on.mpr ⟨l, h, rfl⟩

theorem onLedger_faults {α : Type} {step : Instant → Step Ledger α} {fault : Fault} {l : Ledger}
    (h : Faults (step r.clock.now) r.ledger fault l) :
    Faults (onLedger step) r fault { r with ledger := l } :=
  faults_on.mpr ⟨l, h, rfl⟩

theorem onMonitor_answers (call : Instant → Monitor.Call) {step : Instant → Step Monitor Unit}
    (same : ∀ now, (call now).step = step now) (sound : r.monitor.Sound) :
    Answers (onMonitor step) r () { r with monitor := (call r.clock.now).effect r.monitor } :=
  answers_on.mpr ⟨_, same r.clock.now ▸ Monitor.step_answers sound _, rfl⟩

/-- The relay once a failure of the model is recorded. -/
def blamed (m : Model) (f : ProviderFailure) (r : Relay σ) : Relay σ :=
  { r with monitor := (Monitor.Call.failure m.handle f.detail.shown r.clock.now).effect r.monitor }

/-- The relay once a success of the model is recorded. -/
def credited (m : Model) (ms : Float) (r : Relay σ) : Relay σ :=
  { r with monitor := (Monitor.Call.success m.handle ms r.clock.now).effect r.monitor }

theorem blamed_sound (sound : r.monitor.Sound) (m : Model) (f : ProviderFailure) :
    (r.blamed m f).monitor.Sound :=
  Monitor.effect_sound sound _

theorem settleFailure_answers (sound : r.monitor.Sound) (a : Attempt) (f : ProviderFailure) :
    Answers (settleFailure a f) r () (r.blamed a.model f) :=
  answers_bind.mpr ⟨(), _,
    onMonitor_answers (fun now => .failure a.model.handle f.detail.shown now) (fun _ => rfl) sound,
    answers_write.mpr rfl⟩

def chargeFor (m : Model) (c : Completion) (now : Instant) : Step Ledger Float :=
  Ledger.record m.handle c.inputTokens c.outputTokens (some m.pricing) now

def countAnswer (number : Nat) (k : Counters) : Counters :=
  if number = 1 then { k with byPrimary := k.byPrimary + 1 } else { k with byFallback := k.byFallback + 1 }

def countExhausted (k : Counters) : Counters := { k with exhausted := k.exhausted + 1 }

/-- The response hands on the completion of a model as it came. -/
structure Gives (response : Response) (m : Model) (c : Completion) (cost : Float) (attempts : Nat) : Prop where
  content : response.content = c.content
  model : response.model = m.id
  inputTokens : response.inputTokens = c.inputTokens
  outputTokens : response.outputTokens = c.outputTokens
  cost : response.cost = cost
  attempts : response.attempts = attempts

theorem recordSuccess_credits (sound : r.monitor.Sound) (m : Model) (ms : Float) :
    Answers (onMonitor (Monitor.recordSuccess m.handle ms)) r () (r.credited m ms) :=
  onMonitor_answers (fun now => .success m.handle ms now) (fun _ => rfl) sound

theorem settleSuccess_answers (sound : r.monitor.Sound) {a : Attempt} {c : Completion} {cost : Float}
    {l : Ledger} (charged : Answers (chargeFor a.model c r.clock.now) r.ledger cost l) :
    ∃ response, Gives response a.model c cost a.number ∧ Answers (settleSuccess a c) r response
      { r.credited a.model response.responseMs with
        ledger := l, counters := countAnswer a.number r.counters } := by
  have recorded := recordSuccess_credits sound a.model ((r.clock.stopwatch - a.started) * 1000.0)
  have paid := @onLedger_answers _ (r.credited a.model ((r.clock.stopwatch - a.started) * 1000.0)) _
    (chargeFor a.model c) cost l charged
  refine ⟨{ content := c.content, model := a.model.id, inputTokens := c.inputTokens
            outputTokens := c.outputTokens, cost, responseMs := (r.clock.stopwatch - a.started) * 1000.0
            attempts := a.number }, ⟨rfl, rfl, rfl, rfl, rfl, rfl⟩, ?_⟩
  unfold settleSuccess
  refine answers_bind.mpr ⟨r, r, answers_get.mpr ⟨rfl, rfl⟩, ?_⟩
  refine answers_bind.mpr ⟨(), _, recorded, ?_⟩
  refine answers_bind.mpr ⟨cost, _, paid, ?_⟩
  refine answers_bind.mpr ⟨(), _, answers_modify.mpr rfl, ?_⟩
  exact answers_bind.mpr ⟨(), _, answers_write.mpr rfl, answers_pure.mpr ⟨rfl, rfl⟩⟩

/-- A success that cannot be charged is lost: it is recorded as one, but the chat ends with a fault. -/
theorem settleSuccess_faults (sound : r.monitor.Sound) {a : Attempt} {c : Completion} {fault : Fault}
    {l : Ledger} (uncharged : Faults (chargeFor a.model c r.clock.now) r.ledger fault l) :
    ∃ ms, Faults (settleSuccess a c) r fault { r.credited a.model ms with ledger := l } := by
  have recorded := recordSuccess_credits sound a.model ((r.clock.stopwatch - a.started) * 1000.0)
  have unpaid := @onLedger_faults _ (r.credited a.model ((r.clock.stopwatch - a.started) * 1000.0)) _
    (chargeFor a.model c) fault l uncharged
  exact ⟨_, faults_bind.mpr (.inr ⟨r, r, answers_get.mpr ⟨rfl, rfl⟩,
    faults_bind.mpr (.inr ⟨(), _, recorded, faults_bind.mpr (.inl unpaid)⟩)⟩)⟩

/-! ### One attempt -/

section Attempt

variable {m : Model} {p : Pending} {x : Trial}

theorem tryAll_nil (t : Transport σ) (p : Pending) (r : Relay σ) :
    Faults (tryAll t [] p) r (.exhausted { last := p.last, attempted := p.attempted })
      { r with counters := countExhausted r.counters } :=
  ⟨rfl, rfl⟩

/-- The relay once an attempt has come to something that is not yet recorded. -/
def reached (t : Transport σ) (m : Model) (p : Pending) (r : Relay σ) : Relay σ :=
  let trial := t.trial p.messages p.temperature r.line r.clock m
  { r with
    clock := trial.1.clock
    line := trial.2
    sends := r.sends ++ [⟨m.id, p.messages, p.temperature⟩] }

theorem settle_completion {c : Completion}
    (answered : (t.trial p.messages p.temperature r.line r.clock m).1.result = .ok c) :
    EndsAs (settle (underWay t m p r)) (sent t m p r) (Except.ok <$> settleSuccess (underWay t m p r) c)
      (reached t m p r) := by
  have ends : EndsAs (settle (underWay t m p r)) (sent t m p r) _ (reached t m p r) :=
    bind_run_ok (elapse_answers (underWay t m p r).delivery (sent t m p r))
  have result : outcome (underWay t m p r).delivery
    ((sent t m p r).clock.passed (underWay t m p r).delivery).2 = .ok c := answered
  rw [result] at ends
  exact ends

theorem settle_failure {f : ProviderFailure} (sound : r.monitor.Sound)
    (failed : (t.trial p.messages p.temperature r.line r.clock m).1.failure? = some f) :
    Answers (settle (underWay t m p r)) (sent t m p r) (.error f) ((reached t m p r).blamed m f) := by
  obtain ⟨e, answered, reported⟩ := Trial.failure?_eq_some.mp failed
  have ends : EndsAs (settle (underWay t m p r)) (sent t m p r) _ (reached t m p r) :=
    bind_run_ok (elapse_answers (underWay t m p r).delivery (sent t m p r))
  have result : outcome (underWay t m p r).delivery
    ((sent t m p r).clock.passed (underWay t m p r).delivery).2 = .error e := answered
  rw [result] at ends
  have recorded := @settleFailure_answers _ (reached t m p r) sound (underWay t m p r) f
  exact ends.answers (answers_bind.mpr ⟨f, _, answers_ofExcept.mpr ⟨reported, rfl⟩,
    answers_bind.mpr ⟨(), _, recorded, answers_pure.mpr ⟨rfl, rfl⟩⟩⟩)

theorem settle_cancelled {text : String}
    (cancelled : (t.trial p.messages p.temperature r.line r.clock m).1.result = .error (.cancelled text)) :
    Faults (settle (underWay t m p r)) (sent t m p r) (.cancelled text) (reached t m p r) := by
  have ends : EndsAs (settle (underWay t m p r)) (sent t m p r) _ (reached t m p r) :=
    bind_run_ok (elapse_answers (underWay t m p r).delivery (sent t m p r))
  have result : outcome (underWay t m p r).delivery
    ((sent t m p r).clock.passed (underWay t m p r).delivery).2 = .error (.cancelled text) := cancelled
  rw [result] at ends
  exact ends.faults (faults_bind.mpr (.inl ⟨rfl, rfl⟩))

theorem tryAll_cancelled {text : String} (rest : List Model)
    (cancelled : (t.trial p.messages p.temperature r.line r.clock m).1.result = .error (.cancelled text)) :
    Faults (tryAll t (m :: rest) p) r (.cancelled text) (reached t m p r) :=
  faults_bind.mpr (.inr ⟨_, _, dispatch_answers t m p r, faults_bind.mpr (.inl (settle_cancelled cancelled))⟩)

/-- After an attempt that fails the chat goes on with the next model. -/
theorem tryAll_failed {f : ProviderFailure} (sound : r.monitor.Sound) (rest : List Model)
    (failed : (t.trial p.messages p.temperature r.line r.clock m).1.failure? = some f) :
    EndsAs (tryAll t (m :: rest) p) r (tryAll t rest (p.after m f)) ((reached t m p r).blamed m f) :=
  (bind_run_ok (dispatch_answers t m p r)).trans (bind_run_ok (settle_failure sound failed))

theorem tryAll_answered {c : Completion} {cost : Float} {l : Ledger} (sound : r.monitor.Sound)
    (rest : List Model) (trial : (t.trial p.messages p.temperature r.line r.clock m).1 = x)
    (answered : x.result = .ok c) (charged : Answers (chargeFor m c x.clock.now) r.ledger cost l) :
    ∃ response, Gives response m c cost (p.attempted.length + 1) ∧
      Answers (tryAll t (m :: rest) p) r response { (reached t m p r).credited m response.responseMs with
        ledger := l, counters := countAnswer (p.attempted.length + 1) r.counters } := by
  subst trial
  obtain ⟨response, gives, recorded⟩ :=
    @settleSuccess_answers _ (reached t m p r) sound (underWay t m p r) c cost l charged
  have settled := (settle_completion answered).answers (answers_map.mpr ⟨response, recorded, rfl⟩)
  exact ⟨response, gives, answers_bind.mpr ⟨_, _, dispatch_answers t m p r,
    answers_bind.mpr ⟨.ok response, _, settled, answers_pure.mpr ⟨rfl, rfl⟩⟩⟩⟩

theorem tryAll_uncharged {c : Completion} {fault : Fault} {l : Ledger} (sound : r.monitor.Sound)
    (rest : List Model) (trial : (t.trial p.messages p.temperature r.line r.clock m).1 = x)
    (answered : x.result = .ok c) (uncharged : Faults (chargeFor m c x.clock.now) r.ledger fault l) :
    ∃ ms, Faults (tryAll t (m :: rest) p) r fault
      { (reached t m p r).credited m ms with ledger := l } := by
  subst trial
  obtain ⟨ms, recorded⟩ :=
    @settleSuccess_faults _ (reached t m p r) sound (underWay t m p r) c fault l uncharged
  have settled := (settle_completion answered).faults (faults_map.mpr recorded)
  exact ⟨ms, faults_bind.mpr (.inr ⟨_, _, dispatch_answers t m p r, faults_bind.mpr (.inl settled)⟩)⟩

end Attempt

end Relay
end Switchboard

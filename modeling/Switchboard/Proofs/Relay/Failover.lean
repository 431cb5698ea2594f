import Switchboard.Proofs.Relay.Reachable

/-!
Failing over. A chat sends to its candidates in order until one answers, and to no one after that;
who answers is settled by the transport, whatever health and spending come to in the meantime.
-/

namespace Switchboard

open Step

/-- The first of the trials that succeeds, behind others that all fail. -/
structure FirstAnswer (xs failed : List Trial) (won : Trial) (c : Completion) : Prop where
  split : ∃ later, xs = failed ++ won :: later
  failed : ∀ x ∈ failed, ∃ e, x.result = .error e
  won : won.result = .ok c

theorem firstAnswer_or_none (xs : List Trial) :
    (∃ failed won c, FirstAnswer xs failed won c) ∨ ∀ x ∈ xs, ∃ e, x.result = .error e := by
  induction xs with
  | nil => exact .inr (by simp)
  | cons x rest ih =>
    cases result : x.result with
    | ok c => exact .inl ⟨[], x, c, ⟨⟨rest, rfl⟩, by simp, result⟩⟩
    | error e =>
      rcases ih with ⟨failed, won, c, first⟩ | none
      · obtain ⟨later, rfl⟩ := first.split
        refine .inl ⟨x :: failed, won, c, ⟨⟨later, rfl⟩, ?_, first.won⟩⟩
        exact List.forall_mem_cons.mpr ⟨⟨e, result⟩, first.failed⟩
      · exact .inr (List.forall_mem_cons.mpr ⟨⟨e, result⟩, none⟩)

theorem getLast?_filterMap {xs : List Trial} (reported : ∀ x ∈ xs, x.failure?.isSome = true) :
    (xs.filterMap Trial.failure?).getLast? = xs.getLast?.bind Trial.failure? := by
  rcases List.eq_nil_or_concat xs with rfl | ⟨rest, last, rfl⟩
  · rfl
  · rw [List.concat_eq_append] at reported ⊢
    obtain ⟨f, found⟩ := Option.isSome_iff_exists.mp
      (reported last (List.mem_append_right _ List.mem_cons_self))
    simp [found]

namespace Transport

variable {σ : Type} {t : Transport σ}

theorem Ordinary.failure_isSome (ordinary : t.Ordinary) {messages : List Message}
    {temperature : Option Data} {line : σ} {clock : Clock} {models : List Model} {x : Trial} {e : Failure}
    (member : x ∈ t.trials messages temperature line clock models) (result : x.result = .error e) :
    x.failure?.isSome = true := by
  induction models generalizing line clock with
  | nil => cases member
  | cons m rest ih =>
    rcases List.mem_cons.mp member with rfl | later
    · rcases ordinary.answered_or_failed messages temperature line clock m with ⟨c, answered⟩ | ⟨f, failed⟩
      · cases answered.symm.trans result
      · exact Option.isSome_iff_exists.mpr ⟨f, failed⟩
    · exact ih later

theorem Ordinary.last_failure (ordinary : t.Ordinary) {messages : List Message} {temperature : Option Data}
    {line : σ} {clock : Clock} {m : Model} {rest : List Model}
    (none : ∀ x ∈ t.trials messages temperature line clock (m :: rest), ∃ e, x.result = .error e) :
    ∃ x f, (t.trials messages temperature line clock (m :: rest)).getLast? = some x ∧
      x.failure? = some f := by
  cases last : (t.trials messages temperature line clock (m :: rest)).getLast? with
  | none => cases List.getLast?_eq_none_iff.mp last
  | some x =>
    have member := List.mem_of_getLast? last
    obtain ⟨e, result⟩ := none x member
    obtain ⟨f, reported⟩ := Option.isSome_iff_exists.mp (ordinary.failure_isSome member result)
    exact ⟨x, f, rfl, reported⟩

end Transport

/-- The chat after trials that all failed. -/
def Pending.afterAll (p : Pending) (xs : List Trial) : Pending :=
  { p with
    attempted := p.attempted ++ xs.map (·.model.id)
    last := (xs.filterMap Trial.failure?).getLast?.or p.last }

theorem Pending.afterAll_nil (p : Pending) : p.afterAll [] = p := by
  simp [afterAll]

theorem Pending.afterAll_cons (p : Pending) {x : Trial} {f : ProviderFailure}
    (failed : x.failure? = some f) (xs : List Trial) :
    p.afterAll (x :: xs) = (p.after x.model f).afterAll xs := by
  simp only [afterAll, after, List.map_cons, List.append_assoc, List.cons_append, List.nil_append,
    List.filterMap_cons_some failed]
  cases xs.filterMap Trial.failure? <;> simp [List.getLast?_cons]

namespace Relay

variable {σ : Type} {t : Transport σ} {r : Relay σ}

def sendTo (messages : List Message) (temperature : Option Data) (m : Model) : Send :=
  ⟨m.id, messages, temperature⟩

/-- The monitor once a failure of the model is recorded, if the trial was one. -/
def blame (m : Monitor) (x : Trial) : Monitor :=
  x.failure?.elim m fun f => (Monitor.Call.failure x.model.handle f.detail.shown x.clock.now).effect m

theorem blame_sound {m : Monitor} (sound : m.Sound) (x : Trial) : (blame m x).Sound := by
  unfold blame
  cases x.failure? with
  | none => exact sound
  | some f => exact Monitor.effect_sound sound _

theorem foldl_blame_sound {m : Monitor} (sound : m.Sound) (xs : List Trial) : (xs.foldl blame m).Sound := by
  induction xs generalizing m with
  | nil => exact sound
  | cons x xs ih => exact ih (blame_sound sound x)

/-- Models that fail leave the chat to those behind them. All they change is the line and the clock, the
sends that were made, and what the monitor knows of their failures. -/
theorem tryAll_past_failures (sound : r.monitor.Sound) {models : List Model} {p : Pending}
    {failed later : List Trial}
    (split : t.trials p.messages p.temperature r.line r.clock models = failed ++ later)
    (reported : ∀ x ∈ failed, x.failure?.isSome = true) :
    ∃ rest line clock, models = failed.map Trial.model ++ rest ∧
      t.trials p.messages p.temperature line clock rest = later ∧
      EndsAs (tryAll t models p) r (tryAll t rest (p.afterAll failed))
        { r with
          line, clock
          monitor := failed.foldl blame r.monitor
          sends := r.sends ++ (failed.map Trial.model).map (sendTo p.messages p.temperature) } := by
  induction failed generalizing models p r with
  | nil =>
    refine ⟨models, r.line, r.clock, rfl, split, ?_⟩
    simp only [Pending.afterAll_nil, List.map_nil, List.append_nil, List.foldl_nil]
    exact ⟨rfl, rfl⟩
  | cons x failed ih =>
    cases models with
    | nil => cases split
    | cons m rest =>
      have trials : (t.trial p.messages p.temperature r.line r.clock m).1 ::
          t.trials p.messages p.temperature (reached t m p r).line (reached t m p r).clock rest =
          x :: (failed ++ later) := split
      obtain ⟨rfl, next⟩ := List.cons.inj trials
      obtain ⟨head, tail⟩ := List.forall_mem_cons.mp reported
      obtain ⟨f, found⟩ := Option.isSome_iff_exists.mp head
      have attempted := tryAll_failed sound rest found
      obtain ⟨rest, line, clock, rfl, trials, ends⟩ :=
        @ih ((reached t m p r).blamed m f) (@blamed_sound _ (reached t m p r) sound m f) rest (p.after m f)
          next tail
      refine ⟨rest, line, clock, rfl, trials, ?_⟩
      have sends : (reached t m p r).sends ++
          (failed.map Trial.model).map (sendTo p.messages p.temperature) =
          r.sends ++ (m :: failed.map Trial.model).map (sendTo p.messages p.temperature) :=
        List.append_assoc _ _ _
      have blamed : blame r.monitor (t.trial p.messages p.temperature r.line r.clock m).1 =
          ((reached t m p r).blamed m f).monitor := by
        rw [blame, found]
        rfl
      rw [Pending.afterAll_cons p found, List.foldl_cons, blamed]
      exact sends ▸ attempted.trans ends

section Endings

variable {models : List Model} {p : Pending} {failed : List Trial} {won : Trial} {c : Completion}

theorem tryAll_at_answer (sound : r.monitor.Sound) (ordinary : t.Ordinary)
    (first : FirstAnswer (t.trials p.messages p.temperature r.line r.clock models) failed won c) :
    ∃ rest line clock monitor, monitor.Sound ∧ models = failed.map Trial.model ++ won.model :: rest ∧
      (t.trial p.messages p.temperature line clock won.model).1 = won ∧
      EndsAs (tryAll t models p) r (tryAll t (won.model :: rest) (p.afterAll failed))
        { r with
          line, clock, monitor
          sends := r.sends ++ (failed.map Trial.model).map (sendTo p.messages p.temperature) } := by
  obtain ⟨later, split⟩ := first.split
  have reported : ∀ x ∈ failed, x.failure?.isSome = true := by
    intro x member
    obtain ⟨e, result⟩ := first.failed x member
    exact ordinary.failure_isSome (split ▸ List.mem_append_left _ member) result
  obtain ⟨rest, line, clock, rfl, trials, ends⟩ := tryAll_past_failures sound split reported
  cases rest with
  | nil => cases trials
  | cons m rest =>
    obtain ⟨rfl, -⟩ := List.cons.inj trials
    exact ⟨rest, line, clock, _, foldl_blame_sound sound failed, rfl, rfl, ends⟩

theorem tryAll_ends_answered (sound : r.monitor.Sound) (ordinary : t.Ordinary) {cost : Float} {l : Ledger}
    (first : FirstAnswer (t.trials p.messages p.temperature r.line r.clock models) failed won c)
    (charged : Step.Answers (chargeFor won.model c won.clock.now) r.ledger cost l) :
    ∃ response r', Step.Answers (tryAll t models p) r response r' ∧
      Gives response won.model c cost (p.attempted.length + failed.length + 1) ∧
      (failed.map Trial.model ++ [won.model]) <+: models ∧
      r'.sends = r.sends ++
        (failed.map Trial.model ++ [won.model]).map (sendTo p.messages p.temperature) ∧
      r'.counters = countAnswer (p.attempted.length + failed.length + 1) r.counters := by
  obtain ⟨rest, line, clock, monitor, kept, rfl, trial, ends⟩ := tryAll_at_answer sound ordinary first
  have number : (p.afterAll failed).attempted.length = p.attempted.length + failed.length := by
    simp [Pending.afterAll]
  obtain ⟨response, gives, answers⟩ := tryAll_answered
    (r := { r with
      line, clock, monitor
      sends := r.sends ++ (failed.map Trial.model).map (sendTo p.messages p.temperature) })
    (p := p.afterAll failed) kept rest trial first.won charged
  rw [number] at gives answers
  refine ⟨response, _, ends.answers answers, gives, ⟨rest, by simp⟩, ?_, rfl⟩
  simp [credited, reached, sendTo, Pending.afterAll]

theorem tryAll_ends_uncharged (sound : r.monitor.Sound) (ordinary : t.Ordinary) {fault : Fault}
    {l : Ledger} (first : FirstAnswer (t.trials p.messages p.temperature r.line r.clock models) failed won c)
    (uncharged : Faults (chargeFor won.model c won.clock.now) r.ledger fault l) :
    ∃ r', Faults (tryAll t models p) r fault r' ∧ r'.counters = r.counters := by
  obtain ⟨rest, line, clock, monitor, kept, rfl, trial, ends⟩ := tryAll_at_answer sound ordinary first
  obtain ⟨ms, faults⟩ := tryAll_uncharged
    (r := { r with
      line, clock, monitor
      sends := r.sends ++ (failed.map Trial.model).map (sendTo p.messages p.temperature) })
    (p := p.afterAll failed) kept rest trial first.won uncharged
  exact ⟨_, ends.faults faults, rfl⟩

theorem tryAll_ends_exhausted (sound : r.monitor.Sound) (ordinary : t.Ordinary)
    (none : ∀ x ∈ t.trials p.messages p.temperature r.line r.clock models, ∃ e, x.result = .error e) :
    ∃ r', Faults (tryAll t models p) r (.exhausted
        { last := ((t.trials p.messages p.temperature r.line r.clock models).getLast?.bind
            Trial.failure?).or p.last
          attempted := p.attempted ++ models.map Model.id }) r' ∧
      r'.sends = r.sends ++ models.map (sendTo p.messages p.temperature) ∧
      r'.counters = countExhausted r.counters := by
  have reported : ∀ x ∈ t.trials p.messages p.temperature r.line r.clock models,
      x.failure?.isSome = true := by
    intro x member
    obtain ⟨e, result⟩ := none x member
    exact ordinary.failure_isSome member result
  obtain ⟨rest, line, clock, -, trials, ends⟩ :=
    tryAll_past_failures sound (List.append_nil _).symm reported
  have nothingLeft : rest = [] := by
    rw [← Transport.models_trials t p.messages p.temperature line clock rest, trials]
    rfl
  subst nothingLeft
  have ids : (t.trials p.messages p.temperature r.line r.clock models).map (·.model.id) =
      models.map Model.id := by
    rw [← Transport.models_trials t p.messages p.temperature r.line r.clock models, List.map_map,
      Transport.models_trials]
    rfl
  have faults := ends.faults (tryAll_nil t _ _)
  rw [Transport.models_trials] at faults
  simp only [Pending.afterAll, getLast?_filterMap reported, ids] at faults
  exact ⟨_, faults, rfl, rfl⟩

end Endings

/-- The chat begins: its messages are read, and choosing whom to try goes well. -/
structure Opens (r : Relay σ) (q : ChatRequest) (messages : List Message) (first : Model)
    (others : List Model) (ledger : Ledger) : Prop where
  coerced : coerceAll q.messages = .ok messages
  chosen : Step.Answers (primary q.task q.preferred) r first { r with ledger }
  chain : Selection.fallbackChain r.monitor first r.catalog.models r.clock.now = .ok others

def opened (r : Relay σ) (ledger : Ledger) : Relay σ :=
  { r with ledger, counters := { r.counters with requests := r.counters.requests + 1 } }

theorem begin_answers {q : ChatRequest} {messages : List Message} {first : Model} {others : List Model}
    {ledger : Ledger} (opens : Opens r q messages first others ledger) :
    Step.Answers (begin q) r (first :: others, { messages, temperature := q.temperature }) (opened r ledger) := by
  have listed : Step.Answers (candidates q.task q.preferred) r (first :: others) { r with ledger } := by
    refine answers_bind.mpr ⟨first, _, opens.chosen, ?_⟩
    refine answers_bind.mpr ⟨_, _, answers_get.mpr ⟨rfl, rfl⟩, ?_⟩
    exact answers_bind.mpr ⟨others, _, ⟨opens.chain, rfl⟩, answers_pure.mpr ⟨rfl, rfl⟩⟩
  refine answers_bind.mpr ⟨messages, r, answers_ofExcept.mpr ⟨opens.coerced, rfl⟩, ?_⟩
  refine answers_bind.mpr ⟨_, _, listed, ?_⟩
  refine answers_bind.mpr ⟨(), _, answers_write.mpr rfl, ?_⟩
  exact answers_bind.mpr ⟨(), _, answers_modify.mpr rfl, answers_pure.mpr ⟨rfl, rfl⟩⟩

theorem chat_endsAs {q : ChatRequest} {messages : List Message} {first : Model} {others : List Model}
    {ledger : Ledger} (opens : Opens r q messages first others ledger) :
    EndsAs (chat t q) r (tryAll t (first :: others) { messages, temperature := q.temperature })
      (opened r ledger) :=
  bind_run_ok (begin_answers opens)

/-- No candidate is tried twice. The chat sends to the candidates in order up to the first that answers,
whose completion it hands on; if none does, it sends to all and says so. -/
theorem chat_fails_over (ordinary : t.Ordinary) (reachable : Reachable r) {q : ChatRequest}
    {messages : List Message} {first : Model} {others : List Model} {ledger : Ledger}
    (opens : Opens r q messages first others ledger)
    (charged : ∀ failed won c,
      FirstAnswer (t.trials messages q.temperature r.line r.clock (first :: others)) failed won c →
      ∃ cost l, Step.Answers (chargeFor won.model c won.clock.now) ledger cost l) :
    Distinct (first :: others) ∧
    (∀ failed won c,
      FirstAnswer (t.trials messages q.temperature r.line r.clock (first :: others)) failed won c →
      ∃ cost response r', Step.Answers (chat t q) r response r' ∧
        Gives response won.model c cost (failed.length + 1) ∧
        (failed.map Trial.model ++ [won.model]) <+: first :: others ∧
        r'.sends = r.sends ++ (failed.map Trial.model ++ [won.model]).map (sendTo messages q.temperature)) ∧
    ((∀ x ∈ t.trials messages q.temperature r.line r.clock (first :: others), ∃ e, x.result = .error e) →
      ∃ x failure r', (t.trials messages q.temperature r.line r.clock (first :: others)).getLast? = some x ∧
        x.failure? = some failure ∧
        Faults (chat t q) r
          (.exhausted { last := some failure, attempted := (first :: others).map Model.id }) r' ∧
        r'.sends = r.sends ++ (first :: others).map (sendTo messages q.temperature)) := by
  have sound := reachable_sound reachable
  have ends : EndsAs (chat t q) r _ _ := chat_endsAs opens
  refine ⟨fallbackChain_distinct sound.distinct opens.chain, ?_, ?_⟩
  · intro failed won c answer
    obtain ⟨cost, l, paid⟩ := charged failed won c answer
    obtain ⟨response, r', answers, gives, listed, sends, -⟩ :=
      tryAll_ends_answered (r := opened r ledger)
        (p := { messages, temperature := q.temperature }) sound.monitor ordinary answer paid
    rw [List.length_nil, Nat.zero_add] at gives
    exact ⟨cost, response, r', ends.answers answers, gives, listed, sends⟩
  · intro none
    obtain ⟨r', faults, sends, -⟩ :=
      tryAll_ends_exhausted (r := opened r ledger)
        (p := { messages, temperature := q.temperature }) sound.monitor ordinary none
    obtain ⟨x, failure, last, reported⟩ := ordinary.last_failure none
    have told : (t.trials messages q.temperature (opened r ledger).line (opened r ledger).clock
        (first :: others)).getLast?.bind Trial.failure? = some failure := by
      rw [show (t.trials _ _ (opened r ledger).line (opened r ledger).clock _).getLast? = some x from last]
      exact reported
    rw [told, Option.or_none, List.nil_append] at faults
    exact ⟨x, failure, r', last, reported, ends.faults faults, sends⟩

/-! ### Two models, one of them busy -/

def busy : Model := { id := "busy", contextLength := 1000, pricing := ⟨1.0, 2.0⟩ }

def idle : Model := { id := "idle", contextLength := 1000, pricing := ⟨1.0, 2.0⟩ }

/-- The busy model times out, every other one answers with a value that has yet to be read. -/
def busyLine : Transport Unit where
  name := "line"
  send := fun _ model _ _ =>
    ({ result := if model = "busy" then .error (.other "TimeoutError" "")
        else .ok (.value (.object [("content", .text "hello")])) }, ())

def twoModels : Relay Unit :=
  { catalog := ⟨[busy, idle]⟩, monitor := {}, ledger := { monthlyBudget := 30.0, today := ⟨0⟩ }
    clock := ⟨⟨0, some 0, none⟩, 0.0⟩, line := () }

def askBusy : ChatRequest := { messages := [.message ⟨.user, "hi"⟩], preferred := .text "busy" }

theorem busyLine_ordinary : busyLine.Ordinary := by
  intro line model messages temperature text
  show (if model = "busy" then _ else _) ≠ _
  split <;> exact nofun

theorem twoModels_reachable : Reachable twoModels :=
  @Reachable.assembled Unit [busy, idle] ⟨[busy, idle]⟩ {} _ _ _ _ ⟨rfl, rfl⟩ rfl ⟨rfl, rfl⟩

theorem askBusy_opens : Opens twoModels askBusy [⟨.user, "hi"⟩] busy [idle] twoModels.ledger where
  coerced := rfl
  chosen := ⟨rfl, rfl⟩
  chain := congrArg Except.ok (List.mergeSort_singleton _)

theorem busyLine_trials : busyLine.trials [⟨.user, "hi"⟩] none () twoModels.clock [busy, idle] =
    [⟨busy, twoModels.clock, .error (.other "TimeoutError" "")⟩,
      ⟨idle, twoModels.clock, .ok ⟨"hello", 0, 0⟩⟩] := rfl

theorem idle_charged : ∃ cost l,
    Step.Answers (chargeFor idle ⟨"hello", 0, 0⟩ twoModels.clock.now) twoModels.ledger cost l := by
  have estimated : (idle.pricing.estimate (0 : Nat) (0 : Nat)).isOk = true := by decide +kernel
  have today : twoModels.clock.now.day = .ok twoModels.ledger.today := rfl
  have accepted : Ledger.Accepts idle.handle (0 : Nat) (0 : Nat) (some idle.pricing) := ⟨rfl, rfl, rfl, rfl⟩
  rcases Ledger.record_ends accepted twoModels.clock.now twoModels.ledger with
    ⟨cost, d, -, -, -, answers⟩ | ⟨fault, estimate | day | ⟨d, day, later, -⟩, -⟩
  · exact ⟨cost, _, answers⟩
  · rw [estimate] at estimated
    cases estimated
  · cases today.symm.trans day
  · cases today.symm.trans day
    exact (later (Nat.le_refl 0)).elim

theorem idle_answers_first {failed : List Trial} {won : Trial} {c : Completion}
    (first : FirstAnswer (busyLine.trials [⟨.user, "hi"⟩] none () twoModels.clock [busy, idle]) failed won c) :
    won = ⟨idle, twoModels.clock, .ok ⟨"hello", 0, 0⟩⟩ ∧ c = ⟨"hello", 0, 0⟩ := by
  obtain ⟨later, split⟩ := first.split
  have answered := first.won
  rw [busyLine_trials] at split
  rcases failed with _ | ⟨x, _ | ⟨y, failed⟩⟩
  · obtain ⟨rfl, -⟩ := List.cons.inj split
    cases answered
  · obtain ⟨rfl, -⟩ := List.cons.inj (List.cons.inj split).2
    exact ⟨rfl, (Except.ok.inj answered).symm⟩
  · have none := congrArg List.length split
    simp at none

theorem chat_fails_over_to_idle : ∃ response r', Step.Answers (chat busyLine askBusy) twoModels response r' ∧
    response.content = "hello" ∧ response.model = "idle" ∧ response.attempts = 2 ∧
    r'.sends.map Send.model = ["busy", "idle"] := by
  obtain ⟨-, answered, -⟩ := chat_fails_over busyLine_ordinary twoModels_reachable askBusy_opens (by
    intro failed won c first
    obtain ⟨rfl, rfl⟩ := idle_answers_first first
    exact idle_charged)
  obtain ⟨cost, response, r', answers, gives, -, sends⟩ :=
    answered [⟨busy, twoModels.clock, .error (.other "TimeoutError" "")⟩]
      ⟨idle, twoModels.clock, .ok ⟨"hello", 0, 0⟩⟩ ⟨"hello", 0, 0⟩
      ⟨⟨[], busyLine_trials⟩, by simp, rfl⟩
  refine ⟨response, r', answers, gives.content, gives.model, gives.attempts, ?_⟩
  rw [sends]
  rfl

end Relay
end Switchboard

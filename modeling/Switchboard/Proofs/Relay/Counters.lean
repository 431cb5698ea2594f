import Mathlib.Algebra.Group.Nat.Defs
import Switchboard.Proofs.Relay.Failover

/-!
Every chat is counted when it begins and, as a rule, once more when it ends. The exception is a chat whose
answer cannot be charged: it ends without being counted again, and the counts stay apart from then on by
the number of such chats.
-/

namespace Switchboard

open Step

namespace Counters

/-- The chats that were counted when they ended. -/
def outcomes (k : Counters) : Nat := k.byPrimary + k.byFallback + k.exhausted

/-- Every chat that began was counted when it ended. -/
def Balanced (k : Counters) : Prop := k.requests = k.outcomes

end Counters

/-! ### Charges -/

/-- Both counts of tokens are within the doubles. -/
def Completion.Countable (c : Completion) : Prop :=
  (Binary64.ofInt? c.inputTokens).isSome = true ∧ (Binary64.ofInt? c.outputTokens).isSome = true

namespace Pricing

theorem charge_ends (n : Nat) (rate : Float) :
    ((Binary64.ofInt? n).isSome = true ∧ ∃ cost, charge n rate = .ok cost) ∨
      (¬(Binary64.ofInt? n).isSome = true ∧ ∃ fault, charge n rate = .error fault) := by
  have nearest : Number.toFloat n = (Binary64.ofInt? n).elim (.error .intTooLarge) .ok := rfl
  unfold charge
  rw [nearest]
  cases Binary64.ofInt? n with
  | none => exact .inr ⟨nofun, _, rfl⟩
  | some x => exact .inl ⟨rfl, _, rfl⟩

theorem estimate_ends (p : Pricing) (c : Completion) :
    (c.Countable ∧ ∃ cost, p.estimate c.inputTokens c.outputTokens = .ok cost) ∨
      (¬c.Countable ∧ ∃ fault, p.estimate c.inputTokens c.outputTokens = .error fault) := by
  unfold estimate
  rcases charge_ends c.inputTokens p.input with ⟨counted, input, priced⟩ | ⟨uncounted, fault, unpriced⟩
  · rw [priced]
    rcases charge_ends c.outputTokens p.output with ⟨counted', output, priced⟩ | ⟨uncounted, fault, unpriced⟩
    · rw [priced]
      exact .inl ⟨⟨counted, counted'⟩, _, rfl⟩
    · rw [unpriced]
      exact .inr ⟨fun countable => uncounted countable.2, _, rfl⟩
  · rw [unpriced]
    exact .inr ⟨fun countable => uncounted countable.1, _, rfl⟩

end Pricing

namespace Relay

/-- The success cannot be charged: its tokens cannot be counted, or the ledger cannot take over the day. -/
def Uncharged (m : Model) (c : Completion) (now : Instant) (l : Ledger) : Prop :=
  m.handle.isSet = true ∧ (¬c.Countable ∨ ∃ fault, l.Stuck now fault)

theorem chargeFor_ends (m : Model) (c : Completion) (now : Instant) (l : Ledger) :
    (¬Uncharged m c now l ∧ ∃ cost l', Step.Answers (chargeFor m c now) l cost l') ∨
      (Uncharged m c now l ∧ ∃ fault l', Faults (chargeFor m c now) l fault l') := by
  by_cases named : m.handle.isSet = true
  · have accepted : Ledger.Accepts m.handle c.inputTokens c.outputTokens (some m.pricing) :=
      ⟨named, rfl, by simp [Number.isNegative], by simp [Number.isNegative]⟩
    rcases Ledger.record_ends accepted now l with
      ⟨cost, d, estimate, -, free, charged⟩ | ⟨fault, reason, uncharged⟩
    · refine .inl ⟨?_, cost, _, charged⟩
      rintro ⟨-, uncounted | ⟨fault, stuck⟩⟩
      · rcases m.pricing.estimate_ends c with ⟨countable, -⟩ | ⟨-, fault, none⟩
        · exact uncounted countable
        · cases estimate.symm.trans none
      · exact free fault stuck
    · refine .inr ⟨⟨named, ?_⟩, fault, l, uncharged⟩
      rcases reason with none | stuck
      · rcases m.pricing.estimate_ends c with ⟨-, cost, estimate⟩ | ⟨uncounted, -⟩
        · cases none.symm.trans estimate
        · exact .inl uncounted
      · exact .inr ⟨fault, stuck⟩
  · refine .inl ⟨fun uncharged => named uncharged.1, 0.0, l, ?_⟩
    exact Ledger.record_rejects (fun accepted => named accepted.1) now l

/-! ### One chat -/

theorem countAnswer_counts (number : Nat) (k : Counters) :
    (countAnswer number k).requests = k.requests ∧ (countAnswer number k).outcomes = k.outcomes + 1 := by
  unfold countAnswer Counters.outcomes
  split
  · exact ⟨rfl, by dsimp only; omega⟩
  · exact ⟨rfl, by dsimp only; omega⟩

section Chat

variable {σ : Type} {t : Transport σ} {r : Relay σ} {q : ChatRequest} {messages : List Message}
  {first : Model} {others : List Model} {ledger : Ledger}

/-- The first of the models that answers gives an answer that cannot be charged. -/
def Lost (t : Transport σ) (r : Relay σ) (messages : List Message) (temperature : Option Data)
    (models : List Model) (ledger : Ledger) : Prop :=
  ∃ failed won c, FirstAnswer (t.trials messages temperature r.line r.clock models) failed won c ∧
    Uncharged won.model c won.clock.now ledger

theorem chat_counted (sound : r.monitor.Sound) (ordinary : t.Ordinary)
    (opens : Opens r q messages first others ledger)
    (kept : ¬Lost t r messages q.temperature (first :: others) ledger) :
    (chat t q r).state.counters.requests = r.counters.requests + 1 ∧
      (chat t q r).state.counters.outcomes = r.counters.outcomes + 1 := by
  rw [(chat_endsAs opens).2]
  rcases firstAnswer_or_none (t.trials messages q.temperature r.line r.clock (first :: others)) with
    ⟨failed, won, c, answer⟩ | none
  · rcases chargeFor_ends won.model c won.clock.now ledger with ⟨-, cost, l, charged⟩ | ⟨uncharged, -⟩
    · obtain ⟨response, r', answers, -, -, -, counters⟩ := tryAll_ends_answered (r := opened r ledger)
        (p := { messages, temperature := q.temperature }) sound ordinary answer charged
      rw [answers.2, counters]
      exact countAnswer_counts _ _
    · exact (kept ⟨failed, won, c, answer, uncharged⟩).elim
  · obtain ⟨r', faults, -, counters⟩ := tryAll_ends_exhausted (r := opened r ledger)
      (p := { messages, temperature := q.temperature }) sound ordinary none
    rw [faults.2, counters]
    exact ⟨rfl, rfl⟩

theorem chat_lost (sound : r.monitor.Sound) (ordinary : t.Ordinary)
    (opens : Opens r q messages first others ledger)
    (lost : Lost t r messages q.temperature (first :: others) ledger) :
    (chat t q r).state.counters.requests = r.counters.requests + 1 ∧
      (chat t q r).state.counters.outcomes = r.counters.outcomes := by
  obtain ⟨failed, won, c, answer, unpayable⟩ := lost
  rcases chargeFor_ends won.model c won.clock.now ledger with ⟨payable, -⟩ | ⟨-, fault, l, uncharged⟩
  · exact (payable unpayable).elim
  · obtain ⟨r', faults, counters⟩ := tryAll_ends_uncharged (r := opened r ledger)
      (p := { messages, temperature := q.temperature }) sound ordinary answer uncharged
    rw [(chat_endsAs opens).2, faults.2, counters]
    exact ⟨rfl, rfl⟩

end Chat

/-! ### Runs of chats -/

/-- Neither a chat nor several at once. -/
def Event.IsUpkeep {σ : Type} : Event σ → Prop
  | chat _ _ => False
  | gather _ _ => False
  | _ => True

/-- One chat after the other, with any upkeep between them, and how many of the chats were lost. -/
inductive Run {σ : Type} : Relay σ → Nat → Relay σ → Prop where
  | nil (r : Relay σ) : Run r 0 r
  | counted {r r' : Relay σ} {lost : Nat} {t : Transport σ} {q : ChatRequest} {messages : List Message}
      {first : Model} {others : List Model} {ledger : Ledger} (earlier : Run r lost r')
      (ordinary : t.Ordinary) (opens : Opens r' q messages first others ledger)
      (kept : ¬Lost t r' messages q.temperature (first :: others) ledger) : Run r lost (chat t q r').state
  | lost {r r' : Relay σ} {lost : Nat} {t : Transport σ} {q : ChatRequest} {messages : List Message}
      {first : Model} {others : List Model} {ledger : Ledger} (earlier : Run r lost r')
      (ordinary : t.Ordinary) (opens : Opens r' q messages first others ledger)
      (gone : Lost t r' messages q.temperature (first :: others) ledger) :
      Run r (lost + 1) (chat t q r').state
  | between {r r' : Relay σ} {lost : Nat} (earlier : Run r lost r') (e : Event σ) (upkeep : e.IsUpkeep) :
      Run r lost (e.step r').state

section Run

variable {σ : Type} {r r' : Relay σ} {lost : Nat}

theorem Run.steady (run : Run r lost r') : Steady r r' := by
  induction run with
  | nil => exact Steady.refl r
  | counted earlier ordinary opens kept ih => exact ih.trans (chat_steady _ _ _)
  | lost earlier ordinary opens gone ih => exact ih.trans (chat_steady _ _ _)
  | between earlier e upkeep ih => exact ih.trans (event_steady e _)

theorem upkeep_counters (r : Relay σ) {e : Event σ} (upkeep : e.IsUpkeep) :
    (e.step r).state.counters = r.counters := by
  cases e with
  | chat t q => exact upkeep.elim
  | gather t qs => exact upkeep.elim
  | health c => rfl
  | spending op => rfl
  | clock c => rfl
  | router choice => rfl

theorem Run.counts (run : Run r lost r') (sound : r.Sound) :
    r'.counters.requests + r.counters.outcomes = r.counters.requests + r'.counters.outcomes + lost := by
  induction run with
  | nil => rfl
  | counted earlier ordinary opens kept ih =>
    obtain ⟨requests, outcomes⟩ :=
      chat_counted (earlier.steady.sound sound).monitor ordinary opens kept
    omega
  | lost earlier ordinary opens gone ih =>
    obtain ⟨requests, outcomes⟩ :=
      chat_lost (earlier.steady.sound sound).monitor ordinary opens gone
    omega
  | between earlier e upkeep ih =>
    rw [upkeep_counters _ upkeep]
    exact ih

/-- The counts are apart by the chats that were lost, so they balance if and only if none was. -/
theorem balanced_iff_none_lost (reachable : Reachable r) (balanced : r.counters.Balanced)
    (run : Run r lost r') :
    r'.counters.requests =
        r'.counters.byPrimary + r'.counters.byFallback + r'.counters.exhausted + lost ∧
      (r'.counters.Balanced ↔ lost = 0) := by
  have counts := run.counts (reachable_sound reachable)
  unfold Counters.Balanced at balanced ⊢
  have apart : r'.counters.requests = r'.counters.outcomes + lost := by omega
  refine ⟨apart, ?_⟩
  omega

end Run

/-- Every model answers at once, after so many tokens. -/
def flood (tokens : Nat) : Transport Unit where
  name := "flood"
  send := fun _ _ _ _ => ({ result := .ok (.completion ⟨"hello", tokens, 0⟩) }, ())

theorem flood_lost {tokens : Nat} (beyond : Binary64.ofInt? tokens = none) :
    Lost (flood tokens) twoModels [⟨.user, "hi"⟩] none [busy, idle] twoModels.ledger := by
  refine ⟨[], ((flood tokens).trial [⟨.user, "hi"⟩] none () twoModels.clock busy).1,
    ⟨"hello", tokens, 0⟩, ⟨⟨_, rfl⟩, by simp, rfl⟩, rfl, .inl ?_⟩
  intro countable
  have counted := countable.1
  rw [beyond] at counted
  cases counted

theorem flood_unbalanced : Run twoModels 1 (chat (flood (10 ^ 400)) askBusy twoModels).state ∧
    ¬(chat (flood (10 ^ 400)) askBusy twoModels).state.counters.Balanced := by
  have beyond : Binary64.ofInt? ((10 ^ 400 : Nat) : Int) = none := by decide +kernel
  generalize 10 ^ 400 = tokens at beyond ⊢
  have run : Run twoModels (0 + 1) (chat (flood tokens) askBusy twoModels).state :=
    .lost (.nil twoModels) (fun _ _ _ _ _ => nofun) askBusy_opens (flood_lost beyond)
  obtain ⟨-, balanced⟩ := balanced_iff_none_lost twoModels_reachable rfl run
  exact ⟨run, fun even => Nat.one_ne_zero (balanced.mp even)⟩

end Relay
end Switchboard

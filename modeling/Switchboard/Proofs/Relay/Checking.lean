import Switchboard.Proofs.Relay.Attempt

/-!
Where replies are checked. A transport may read the values that it gets itself or leave that to the relay:
`checked_chat_agrees` says that no chat can tell the difference, in what it answers or fails with, in the
state that it leaves, or in what it writes to the journal.
-/

namespace Switchboard

open Step

/-! ### Replies and deliveries -/

def Delivery.checked (d : Delivery) : Delivery :=
  { d with result := d.result.bind fun reply => Reply.completion <$> reply.complete }

def Attempt.checked (a : Attempt) : Attempt := { a with delivery := a.delivery.checked }

/-- The second delivery is the first one, but for a value: that is a completion by now, or the failure of the
transport that it is none. -/
structure Delivery.Checks (raw checked : Delivery) : Prop where
  suspensions : checked.suspensions = raw.suspensions
  latency : checked.latency = raw.latency
  elapsed : checked.elapsed = raw.elapsed
  failure : ∀ e, raw.result = .error e → checked.result = .error e
  completion : ∀ c, raw.result = .ok (.completion c) → checked.result = .ok (.completion c)
  good : ∀ d c, raw.result = .ok (.value d) → Completion.reader d = .good c →
    checked.result = .ok (.completion c)
  bad : ∀ d issues, raw.result = .ok (.value d) → Completion.reader d = .bad issues →
    checked.result = .error (.other "ValidationError" (Issue.report "TransportResponse" issues))

theorem Reply.complete_good {d : Data} {c : Completion} (read : Completion.reader d = .good c) :
    (Reply.value d).complete = .ok c := by
  simp only [complete, read]

theorem Reply.complete_bad {d : Data} {issues : List Issue} (refused : Completion.reader d = .bad issues) :
    (Reply.value d).complete = .error (.other "ValidationError" (Issue.report "TransportResponse" issues)) := by
  simp only [complete, refused]

/-- A reply that was read is read as what it is. -/
theorem Reply.complete_completed (reply : Reply) :
    (Reply.completion <$> reply.complete).bind Reply.complete = reply.complete := by
  cases reply.complete <;> rfl

theorem Delivery.checks_checked (d : Delivery) : d.Checks d.checked := by
  constructor
  case suspensions => rfl
  case latency => rfl
  case elapsed => rfl
  case failure =>
    intro e failed
    rw [checked, failed]
    rfl
  case completion =>
    intro c completed
    rw [checked, completed]
    rfl
  case good =>
    intro v c brought read
    show d.result.bind _ = _
    rw [brought]
    show Reply.completion <$> (Reply.value v).complete = _
    rw [Reply.complete_good read]
    rfl
  case bad =>
    intro v issues brought refused
    show d.result.bind _ = _
    rw [brought]
    show Reply.completion <$> (Reply.value v).complete = _
    rw [Reply.complete_bad refused]
    rfl

namespace Relay

variable {σ : Type}

/-! ### One attempt -/

theorem outcome_checked (d : Delivery) (late : Option Fault) : outcome d.checked late = outcome d late := by
  cases late with
  | some fault => rfl
  | none =>
    show (d.result.bind _).bind Reply.complete = d.result.bind Reply.complete
    cases d.result with
    | error failure => rfl
    | ok reply => exact reply.complete_completed

/-- A delivery counts for the time it takes and for what it comes to, and checking changes neither. -/
theorem settle_checked (a : Attempt) : (settle a.checked : Step (Relay σ) _) = settle a := by
  have passes : (elapse a.checked.delivery : Step (Relay σ) _) = elapse a.delivery := rfl
  have comes : ∀ late, outcome a.checked.delivery late = outcome a.delivery late := outcome_checked a.delivery
  unfold settle
  simp only [passes, comes]
  rfl

theorem dispatch_eq (t : Transport σ) (m : Model) (p : Pending) (r : Relay σ) : dispatch t m p r =
    ⟨.ok (underWay t m p r), sent t m p r,
      [Journal.Channel.relay.debug s!"Attempt {p.attempted.length + 1}: trying model {m.id}"]⟩ :=
  rfl

theorem underWay_checked (t : Transport σ) (m : Model) (p : Pending) (r : Relay σ) :
    underWay t.checked m p r = (underWay t m p r).checked := rfl

theorem sent_checked (t : Transport σ) (m : Model) (p : Pending) (r : Relay σ) :
    sent t.checked m p r = sent t m p r := rfl

/-! ### Chats -/

theorem tryAll_checked (t : Transport σ) (models : List Model) (p : Pending) :
    tryAll t.checked models p = tryAll t models p := by
  induction models generalizing p with
  | nil => rfl
  | cons m rest ih =>
    funext r
    have first := dispatch_eq t.checked m p r
    rw [underWay_checked, sent_checked] at first
    rw [tryAll, tryAll, bind_apply_ok first, bind_apply_ok (dispatch_eq t m p r), settle_checked]
    -- What follows a failure is the rest of the chat, the same on both sides.
    simp only [ih]

/-- A transport that checks what it gets, and rejects there what is no completion, leads every chat from
every state to the same answer or fault as the transport that hands on what it gets, and the relay to the
same state. -/
theorem checked_chat_agrees (t : Transport σ) (q : ChatRequest) (r : Relay σ) :
    chat t.checked q r = chat t q r ∧ ∀ line model messages temperature,
      (t.checked.send line model messages temperature).2 = (t.send line model messages temperature).2 ∧
      Delivery.Checks (t.send line model messages temperature).1
        (t.checked.send line model messages temperature).1 := by
  constructor
  · have chats : chat t.checked q = chat t q := by
      unfold chat
      simp only [tryAll_checked]
    rw [chats]
  · intro line model messages temperature
    exact ⟨rfl, Delivery.checks_checked _⟩

end Relay
end Switchboard

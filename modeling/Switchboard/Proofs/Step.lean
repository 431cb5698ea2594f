import Switchboard.Step

/-!
How steps run, journals apart. `answers_bind` and `faults_bind` take a sequence of steps apart and put
one together; `Keeps` is what a step does to the state whichever way it ends.
-/

namespace Switchboard

theorem except_bind_ok {ε α β : Type} {x : Except ε α} {f : α → Except ε β} {b : β}
    (h : x >>= f = .ok b) : ∃ a, x = .ok a ∧ f a = .ok b := by
  cases x with
  | error e => cases h
  | ok a => exact ⟨a, rfl, h⟩

namespace Step

variable {σ τ α β : Type}

/-- The step ends with this answer and leaves this state. -/
def Answers (x : Step σ α) (s : σ) (a : α) (s' : σ) : Prop :=
  (x s).answer = .ok a ∧ (x s).state = s'

/-- The step stops at this fault and leaves this state. -/
def Faults (x : Step σ α) (s : σ) (fault : Fault) (s' : σ) : Prop :=
  (x s).answer = .error fault ∧ (x s).state = s'

theorem answers_or_faults (x : Step σ α) (s : σ) :
    (∃ a, Answers x s a (x s).state) ∨ ∃ fault, Faults x s fault (x s).state := by
  cases h : (x s).answer with
  | ok a => exact .inl ⟨a, h, rfl⟩
  | error fault => exact .inr ⟨fault, h, rfl⟩

theorem answers_of_isOk {x : Step σ α} {s : σ} (ok : (x s).answer.isOk = true) :
    ∃ a s', Answers x s a s' := by
  rcases answers_or_faults x s with ⟨a, answers⟩ | ⟨fault, fails⟩
  · exact ⟨a, _, answers⟩
  · rw [fails.1] at ok
    cases ok

theorem Answers.unique {x : Step σ α} {s s' s'' : σ} {a b : α} (h : Answers x s a s')
    (h' : Answers x s b s'') : a = b ∧ s' = s'' :=
  ⟨Except.ok.inj (h.1.symm.trans h'.1), h.2.symm.trans h'.2⟩

theorem Answers.not_faults {x : Step σ α} {s s' s'' : σ} {a : α} {fault : Fault}
    (h : Answers x s a s') : ¬Faults x s fault s'' := by
  intro h'
  cases h.1.symm.trans h'.1

theorem Faults.unique {x : Step σ α} {s s' s'' : σ} {fault fault' : Fault} (h : Faults x s fault s')
    (h' : Faults x s fault' s'') : fault = fault' ∧ s' = s'' :=
  ⟨Except.error.inj (h.1.symm.trans h'.1), h.2.symm.trans h'.2⟩

/-! ### Steps that end alike -/

/-- Both steps answer the same or stop at the same fault, and leave the same state. -/
def EndsAs (x : Step σ α) (s : σ) (y : Step σ α) (s' : σ) : Prop :=
  (x s).answer = (y s').answer ∧ (x s).state = (y s').state

theorem EndsAs.symm {x y : Step σ α} {s s' : σ} (h : EndsAs x s y s') : EndsAs y s' x s :=
  ⟨h.1.symm, h.2.symm⟩

theorem EndsAs.trans {x y z : Step σ α} {s s' s'' : σ} (h : EndsAs x s y s') (h' : EndsAs y s' z s'') :
    EndsAs x s z s'' :=
  ⟨h.1.trans h'.1, h.2.trans h'.2⟩

theorem EndsAs.answers {x y : Step σ α} {s s' t : σ} {a : α} (h : EndsAs x s y s')
    (answers : Answers y s' a t) : Answers x s a t :=
  ⟨h.1.trans answers.1, h.2.trans answers.2⟩

theorem EndsAs.faults {x y : Step σ α} {s s' t : σ} {fault : Fault} (h : EndsAs x s y s')
    (faults : Faults y s' fault t) : Faults x s fault t :=
  ⟨h.1.trans faults.1, h.2.trans faults.2⟩

/-! ### Sequences -/

theorem bind_run_ok {x : Step σ α} {f : α → Step σ β} {s s' : σ} {a : α} (h : Answers x s a s') :
    EndsAs (x >>= f) s (f a) s' := by
  obtain ⟨answer, rfl⟩ := h
  have run : x s = ⟨.ok a, (x s).state, (x s).journal⟩ := by rw [← answer]
  rw [EndsAs, bind_apply_ok run]
  exact ⟨rfl, rfl⟩

theorem bind_run_error {x : Step σ α} {f : α → Step σ β} {s s' : σ} {fault : Fault}
    (h : Faults x s fault s') : Faults (x >>= f) s fault s' := by
  obtain ⟨answer, rfl⟩ := h
  have run : x s = ⟨.error fault, (x s).state, (x s).journal⟩ := by rw [← answer]
  rw [Faults, bind_apply_error run]
  exact ⟨rfl, rfl⟩

theorem answers_bind {x : Step σ α} {f : α → Step σ β} {s s'' : σ} {b : β} :
    Answers (x >>= f) s b s'' ↔ ∃ a s', Answers x s a s' ∧ Answers (f a) s' b s'' := by
  constructor
  · intro h
    rcases answers_or_faults x s with ⟨a, first⟩ | ⟨fault, first⟩
    · obtain ⟨answer, state⟩ := bind_run_ok first
      exact ⟨a, _, first, answer ▸ h.1, state ▸ h.2⟩
    · exact (h.not_faults (bind_run_error first)).elim
  · rintro ⟨a, s', first, rest⟩
    obtain ⟨answer, state⟩ := bind_run_ok first
    exact ⟨answer.trans rest.1, state.trans rest.2⟩

theorem faults_bind {x : Step σ α} {f : α → Step σ β} {s s'' : σ} {fault : Fault} :
    Faults (x >>= f) s fault s'' ↔
      Faults x s fault s'' ∨ ∃ a s', Answers x s a s' ∧ Faults (f a) s' fault s'' := by
  constructor
  · intro h
    rcases answers_or_faults x s with ⟨a, first⟩ | ⟨fault', first⟩
    · obtain ⟨answer, state⟩ := bind_run_ok first
      exact .inr ⟨a, _, first, answer ▸ h.1, state ▸ h.2⟩
    · obtain ⟨answer, state⟩ := bind_run_error first
      obtain rfl := Except.error.inj (answer.symm.trans h.1)
      obtain rfl := state.symm.trans h.2
      exact .inl first
  · rintro (first | ⟨a, s', first, rest⟩)
    · exact bind_run_error first
    · obtain ⟨answer, state⟩ := bind_run_ok first
      exact ⟨answer.trans rest.1, state.trans rest.2⟩

/-- A sequence leaves what its first step left if that one stopped, and else what the rest leaves. -/
theorem bind_leaves {P : σ → Prop} {x : Step σ α} {f : α → Step σ β} {s : σ}
    (stops : ∀ fault s', Faults x s fault s' → P s')
    (goes : ∀ a s', Answers x s a s' → P (f a s').state) : P ((x >>= f) s).state := by
  rcases answers_or_faults x s with ⟨a, run⟩ | ⟨fault, run⟩
  · rw [(bind_run_ok run).2]
    exact goes a _ run
  · rw [(bind_run_error run).2]
    exact stops fault _ run

theorem Answers.ends {x : Step σ α} {f : α → Step σ β} {s s' s'' : σ} {a : α} (first : Answers x s a s')
    (rest : ∃ b, Answers (f a) s' b s'') : ∃ b, Answers (x >>= f) s b s'' := by
  obtain ⟨b, last⟩ := rest
  exact ⟨b, answers_bind.mpr ⟨a, s', first, last⟩⟩

/-! ### Single steps -/

@[simp] theorem answers_pure {a b : α} {s s' : σ} :
    Answers (pure a : Step σ α) s b s' ↔ b = a ∧ s' = s := by
  simp [Answers, pure_apply, eq_comm]

@[simp] theorem not_faults_pure {a : α} {s s' : σ} {fault : Fault} :
    ¬Faults (pure a : Step σ α) s fault s' := by
  simp [Faults, pure_apply]

@[simp] theorem answers_get {s a s' : σ} : Answers (get : Step σ σ) s a s' ↔ a = s ∧ s' = s := by
  simp [Answers, get, eq_comm]

@[simp] theorem answers_modify {f : σ → σ} {s s' : σ} : Answers (modify f) s () s' ↔ s' = f s := by
  simp [Answers, modify, eq_comm]

@[simp] theorem answers_write {entries : List Journal.Entry} {s s' : σ} :
    Answers (write entries) s () s' ↔ s' = s := by
  simp [Answers, write, eq_comm]

@[simp] theorem not_faults_write {entries : List Journal.Entry} {s s' : σ} {fault : Fault} :
    ¬Faults (write entries) s fault s' := by
  simp [Faults, write]

@[simp] theorem not_answers_fail {fault : Fault} {a : α} {s s' : σ} :
    ¬Answers (fail fault : Step σ α) s a s' := by
  simp [Answers, fail]

@[simp] theorem answers_ofExcept {r : Except Fault α} {a : α} {s s' : σ} :
    Answers (ofExcept r) s a s' ↔ r = .ok a ∧ s' = s := by
  simp [Answers, ofExcept, eq_comm]

@[simp] theorem faults_ofExcept {r : Except Fault α} {fault : Fault} {s s' : σ} :
    Faults (ofExcept r) s fault s' ↔ r = .error fault ∧ s' = s := by
  simp [Faults, ofExcept, eq_comm]

theorem answers_map {x : Step σ α} {f : α → β} {s s' : σ} {b : β} :
    Answers (f <$> x) s b s' ↔ ∃ a, Answers x s a s' ∧ b = f a := by
  show Answers (x >>= fun a => pure (f a)) s b s' ↔ _
  rw [answers_bind]
  constructor
  · rintro ⟨a, _, first, last⟩
    obtain ⟨rfl, rfl⟩ := answers_pure.mp last
    exact ⟨a, first, rfl⟩
  · rintro ⟨a, first, rfl⟩
    exact ⟨a, s', first, answers_pure.mpr ⟨rfl, rfl⟩⟩

theorem faults_map {x : Step σ α} {f : α → β} {s s' : σ} {fault : Fault} :
    Faults (f <$> x) s fault s' ↔ Faults x s fault s' := by
  show Faults (x >>= fun a => pure (f a)) s fault s' ↔ _
  simp [faults_bind]

theorem answers_on {part : τ → σ} {replace : τ → σ → τ} {x : Step σ α} {t t' : τ} {a : α} :
    Answers (on part replace x) t a t' ↔ ∃ s', Answers x (part t) a s' ∧ t' = replace t s' := by
  simp only [Answers, on]
  constructor
  · rintro ⟨answer, rfl⟩
    exact ⟨_, ⟨answer, rfl⟩, rfl⟩
  · rintro ⟨s', ⟨answer, rfl⟩, rfl⟩
    exact ⟨answer, rfl⟩

theorem faults_on {part : τ → σ} {replace : τ → σ → τ} {x : Step σ α} {t t' : τ} {fault : Fault} :
    Faults (on part replace x) t fault t' ↔ ∃ s', Faults x (part t) fault s' ∧ t' = replace t s' := by
  simp only [Faults, on]
  constructor
  · rintro ⟨answer, rfl⟩
    exact ⟨_, ⟨answer, rfl⟩, rfl⟩
  · rintro ⟨s', ⟨answer, rfl⟩, rfl⟩
    exact ⟨answer, rfl⟩

/-! ### Runs -/

def quietly (x : Step σ α) : Step σ Unit := do
  let _ ← x
  return ()

theorem answers_quietly {x : Step σ α} {s s' : σ} :
    Answers (quietly x) s () s' ↔ ∃ a, Answers x s a s' := by
  simp [quietly, answers_bind]

theorem quietly_leaves (x : Step σ α) (s : σ) : (quietly x s).state = (x s).state :=
  bind_leaves (P := fun s' => s' = (x s).state) (fun _ _ run => run.2.symm) fun _ _ run => run.2.symm

/-- One step after the other, the first fault ending the run. -/
def sequence (f : α → Step σ Unit) : List α → Step σ Unit
  | [] => pure ()
  | a :: rest => do
    f a
    sequence f rest

theorem answers_sequence_concat {f : α → Step σ Unit} {items : List α} {item : α} {s s' : σ} :
    Answers (sequence f (items ++ [item])) s () s' ↔
      ∃ between, Answers (sequence f items) s () between ∧ Answers (f item) between () s' := by
  induction items generalizing s with
  | nil =>
    simp only [List.nil_append, sequence, answers_bind, answers_pure, true_and]
    constructor
    · rintro ⟨_, _, last, rfl⟩
      exact ⟨s, rfl, last⟩
    · rintro ⟨_, rfl, last⟩
      exact ⟨(), s', last, rfl⟩
  | cons first rest ih =>
    simp only [List.cons_append, sequence, answers_bind, ih]
    constructor
    · rintro ⟨_, after, head, between, tail, last⟩
      exact ⟨between, ⟨(), after, head, tail⟩, last⟩
    · rintro ⟨between, ⟨_, after, head, tail⟩, last⟩
      exact ⟨(), after, head, between, tail, last⟩

/-! ### What a step keeps -/

/-- Whichever way the step ends, the state it leaves stands in this relation to the one it found. -/
def Keeps (R : σ → σ → Prop) (x : Step σ α) : Prop := ∀ s, R s (x s).state

section Keeps

variable {R : σ → σ → Prop}

theorem Keeps.bind [Trans R R R] {x : Step σ α} {f : α → Step σ β} (first : Keeps R x)
    (rest : ∀ a, Keeps R (f a)) : Keeps R (x >>= f) := by
  intro s
  rcases answers_or_faults x s with ⟨a, run⟩ | ⟨fault, run⟩
  · rw [(bind_run_ok run).2]
    exact Trans.trans (first s) (rest a _)
  · rw [(bind_run_error run).2]
    exact first s

theorem Keeps.map [Trans R R R] (refl : ∀ s, R s s) {x : Step σ α} (h : Keeps R x) (f : α → β) :
    Keeps R (f <$> x) :=
  Keeps.bind h fun _ => refl

theorem Keeps.quietly [Trans R R R] (refl : ∀ s, R s s) {x : Step σ α} (h : Keeps R x) :
    Keeps R (quietly x) :=
  Keeps.bind h fun _ => refl

theorem Keeps.each [Trans R R R] (refl : ∀ s, R s s) {f : α → Step σ β} (h : ∀ a, Keeps R (f a))
    (items : List α) : Keeps R (each f items) := by
  induction items with
  | nil => exact refl
  | cons a rest ih => exact Keeps.bind (h a) fun _ => Keeps.bind ih fun _ => refl

theorem Keeps.catching {x : Step σ α} (h : Keeps R x) : Keeps R (catching x) := h

theorem Keeps.mono {R' : σ → σ → Prop} {x : Step σ α} (h : Keeps R x)
    (implies : ∀ s s', R s s' → R' s s') : Keeps R' x :=
  fun s => implies s _ (h s)

end Keeps

/-! ### Where a step leads from some states -/

/-- From the states with `P`, whichever way the step ends, it leaves a state in this relation to the one it
found, and what it answers has `Q`. -/
structure Leads (P : σ → Prop) (R : σ → σ → Prop) (x : Step σ α) (Q : α → Prop) : Prop where
  state : ∀ s, P s → R s (x s).state
  answer : ∀ s, P s → ∀ a s', Answers x s a s' → Q a

section Leads

variable {P : σ → Prop} {R : σ → σ → Prop} {Q : α → Prop} {Q' : β → Prop}

theorem Keeps.leads {x : Step σ α} (h : Keeps R x) : Leads P R x fun _ => True :=
  ⟨fun s _ => h s, fun _ _ _ _ _ => trivial⟩

theorem Leads.pure (refl : ∀ s, R s s) {a : α} (h : Q a) : Leads P R (pure a) Q := by
  refine ⟨fun s _ => refl s, fun s _ b s' answered => ?_⟩
  obtain ⟨rfl, -⟩ := answers_pure.mp answered
  exact h

/-- `P` has to outlast the first step. -/
theorem Leads.bind [Trans R R R] (stable : ∀ s s', P s → R s s' → P s') {x : Step σ α} {f : α → Step σ β}
    (first : Leads P R x Q) (rest : ∀ a, Q a → Leads P R (f a) Q') : Leads P R (x >>= f) Q' := by
  have after : ∀ s, P s → P (x s).state := fun s h => stable s _ h (first.state s h)
  constructor
  case state =>
    intro s h
    rcases answers_or_faults x s with ⟨a, run⟩ | ⟨fault, run⟩
    · rw [(bind_run_ok run).2]
      exact Trans.trans (first.state s h) ((rest a (first.answer s h a _ run)).state _ (after s h))
    · rw [(bind_run_error run).2]
      exact first.state s h
  case answer =>
    intro s h b s'' answered
    obtain ⟨a, s', run, last⟩ := answers_bind.mp answered
    exact (rest a (first.answer s h a s' run)).answer s' (run.2 ▸ after s h) b s'' last

theorem Leads.weaken {x : Step σ α} {Q' : α → Prop} (h : Leads P R x Q) (implies : ∀ a, Q a → Q' a) :
    Leads P R x Q' :=
  ⟨h.state, fun s held a s' answered => implies a (h.answer s held a s' answered)⟩

theorem Leads.catching {x : Step σ α} (h : Leads P R x Q) :
    Leads P R (catching x) fun ended => ∀ a, ended = .ok a → Q a := by
  refine ⟨h.state, fun s held ended s' answered a ok => ?_⟩
  exact h.answer s held a s' ⟨(Except.ok.inj answered.1).trans ok, answered.2⟩

end Leads

end Step
end Switchboard

import Switchboard.Proofs.Relay.Attempt
import Switchboard.Proofs.Relay.Candidates
import Switchboard.Relay.Gather

/-!
The course of chats, one after the other or several at once. What each part of an attempt keeps is kept by
whole chats, as long as only such models are tried as the parts allow for; and what holds of the response
to one attempt holds of every response.
-/

namespace Switchboard.Relay

open Step

variable {σ : Type}

/-! ### One attempt -/

/-- The parts of an attempt at one of these models stay within the relation, however they end. -/
structure Permits (R : Relay σ → Relay σ → Prop) (may : Model → Prop) : Prop where
  refl : ∀ r, R r r
  counts : ∀ f, Keeps R (count f)
  elapses : ∀ d, Keeps R (elapse d)
  charges : ∀ step : Instant → Step Ledger Float, Keeps R (onLedger step)
  dispatches : ∀ t m p, may m → Keeps R (dispatch t m p)
  succeeds : ∀ m ms, may m → Keeps R (onMonitor (Monitor.recordSuccess m.handle ms))
  fails : ∀ m text, may m → Keeps R (onMonitor (Monitor.recordFailure m.handle text))

section Permits

variable {R : Relay σ → Relay σ → Prop} [Trans R R R] {may : Model → Prop}

theorem Permits.settle (permits : Permits R may) {a : Attempt} (allowed : may a.model) :
    Keeps R (settle a) := by
  refine Keeps.bind (permits.elapses a.delivery) fun late => ?_
  cases outcome a.delivery late with
  | ok c =>
    refine Keeps.map permits.refl ?_ _
    refine Keeps.bind permits.refl fun r => ?_
    refine Keeps.bind (permits.succeeds a.model _ allowed) fun _ => ?_
    refine Keeps.bind (permits.charges _) fun cost => ?_
    refine Keeps.bind (permits.counts _) fun _ => ?_
    exact Keeps.bind permits.refl fun _ => permits.refl
  | error failure =>
    refine Keeps.bind permits.refl fun f => ?_
    refine Keeps.bind ?_ fun _ => permits.refl
    exact Keeps.bind (permits.fails a.model _ allowed) fun _ => permits.refl

theorem Permits.exhaust {α : Type} (permits : Permits R may) (p : Pending) :
    Keeps R (exhaust p : Step (Relay σ) α) :=
  Keeps.bind (permits.counts _) fun _ => Keeps.bind permits.refl fun _ => permits.refl

omit [Trans R R R] in
theorem Permits.restrict {may' : Model → Prop} (permits : Permits R may) (fewer : ∀ m, may' m → may m) :
    Permits R may' where
  refl := permits.refl
  counts := permits.counts
  elapses := permits.elapses
  charges := permits.charges
  dispatches t m p allowed := permits.dispatches t m p (fewer m allowed)
  succeeds m ms allowed := permits.succeeds m ms (fewer m allowed)
  fails m text allowed := permits.fails m text (fewer m allowed)

end Permits

/-- From relays with `P`, attempts at these models stay within the relation, which outlasts `P`, and the
responses that come of them are good. -/
structure Guides (P : Relay σ → Prop) (R : Relay σ → Relay σ → Prop) (may : Model → Prop)
    (good : Response → Prop) : Prop extends Permits R may where
  stable : ∀ r r', P r → R r r' → P r'
  answers : ∀ a, may a.model → ∀ (r : Relay σ) response r',
    Step.Answers (Relay.settle a : Step (Relay σ) (Except ProviderFailure Response)) r (.ok response) r' →
      good response

/-! ### One chat -/

section Guides

variable {P : Relay σ → Prop} {R : Relay σ → Relay σ → Prop} [Trans R R R] {may : Model → Prop}
  {good : Response → Prop} (guides : Guides P R may good) (t : Transport σ)

include guides

omit [Trans R R R] in
theorem dispatch_leads {m : Model} (allowed : may m) (p : Pending) :
    Leads P R (dispatch t m p) fun a => may a.model := by
  refine ⟨fun r _ => guides.dispatches t m p allowed r, fun r _ a s answered => ?_⟩
  rw [← ((dispatch_answers t m p r).unique answered).1]
  exact allowed

theorem settle_leads {a : Attempt} (allowed : may a.model) :
    Leads P R (settle a) fun settled => ∀ response, settled = .ok response → good response := by
  refine ⟨fun r _ => guides.settle allowed r, ?_⟩
  rintro r - settled s answered response rfl
  exact guides.answers a allowed r response s answered

theorem tryAll_leads {models : List Model} (allowed : ∀ m ∈ models, may m) (p : Pending) :
    Leads P R (tryAll t models p) good := by
  induction models generalizing p with
  | nil => exact ⟨fun r _ => guides.exhaust p r, fun _ _ _ _ answered => by cases answered.1⟩
  | cons m rest ih =>
    obtain ⟨own, others⟩ := List.forall_mem_cons.mp allowed
    refine Leads.bind guides.stable (dispatch_leads guides t own p) fun a own => ?_
    refine Leads.bind guides.stable (settle_leads guides own) fun settled answers => ?_
    cases settled with
    | ok response => exact .pure guides.refl (answers response rfl)
    | error f => exact ih others (p.after m f)

theorem chat_leads {q : ChatRequest} (opens : Leads P R (begin q) fun opened => ∀ m ∈ opened.1, may m) :
    Leads P R (chat t q) good :=
  Leads.bind guides.stable opens fun opened allowed => tryAll_leads guides t allowed opened.2

omit guides

/-! ### Several chats at once -/

/-- Both the attempt that is waited for and any after it are at such models. -/
structure Waiting.Within (may : Model → Prop) (w : Waiting) : Prop where
  attempt : may w.attempt.model
  rest : ∀ m ∈ w.rest, may m

def Progress.Within (may : Model → Prop) (good : Response → Prop) {n : Nat} : Progress n → Prop
  | answered response => good response
  | waiting w _ => w.Within may

theorem Progress.within_weaken {m n : Nat} (h : m ≤ n) {x : Progress m} (within : x.Within may good) :
    (x.weaken h).Within may good := by
  cases x with
  | answered response => exact within
  | waiting w fewer => exact within

def QueueWithin (may : Model → Prop) (queue : List (Nat × Waiting)) : Prop := ∀ e ∈ queue, e.2.Within may

theorem QueueWithin.concat {queue : List (Nat × Waiting)} {i : Nat} {w : Waiting}
    (within : QueueWithin may queue) (last : w.Within may) : QueueWithin may (queue ++ [(i, w)]) :=
  List.forall_mem_append.mpr ⟨within, List.forall_mem_singleton.mpr last⟩

/-- All responses among the answers are good. -/
def GoodAnswers (good : Response → Prop) (answers : Answers) : Prop :=
  ∀ i response, Entries.get? answers i = some (.ok response) → good response

theorem GoodAnswers.put {answers : Answers} (all : GoodAnswers good answers) {answer : Except Fault Response}
    (own : ∀ response, answer = .ok response → good response) (i : Nat) :
    GoodAnswers good (Entries.put answers i answer) := by
  intro j response found
  rw [Entries.get?_put] at found
  split at found
  · exact own response (Option.some.inj found)
  · exact all j response found

include guides

theorem run_leads {models : List Model} (allowed : ∀ m ∈ models, may m) (p : Pending) :
    Leads P R (run t models p) fun progress => progress.Within may good := by
  induction models generalizing p with
  | nil => exact ⟨fun r _ => guides.exhaust p r, fun _ _ _ _ answered => by cases answered.1⟩
  | cons m rest ih =>
    obtain ⟨own, others⟩ := List.forall_mem_cons.mp allowed
    refine Leads.bind guides.stable (dispatch_leads guides t own p) fun a own => ?_
    split
    · refine Leads.bind guides.stable (settle_leads guides own) fun settled answers => ?_
      cases settled with
      | ok response => exact .pure guides.refl (answers response rfl)
      | error f =>
        refine Leads.bind guides.stable (ih others (p.after m f)) fun progress within => ?_
        exact .pure guides.refl (Progress.within_weaken _ within)
    · exact .pure guides.refl ⟨own, others⟩

theorem resume_leads {w : Waiting} (within : w.Within may) :
    Leads P R (resume t w) fun progress => progress.Within may good := by
  refine Leads.bind guides.stable (settle_leads guides within.attempt) fun settled answers => ?_
  cases settled with
  | ok response => exact .pure guides.refl (answers response rfl)
  | error f => exact run_leads guides t within.rest _

theorem serve_leads {queue : List (Nat × Waiting)} {answers : Answers} (within : QueueWithin may queue)
    (all : GoodAnswers good answers) : Leads P R (serve t queue answers) (GoodAnswers good) := by
  induction queue, answers using serve.induct with
  | case1 answers =>
    rw [serve]
    exact .pure guides.refl all
  | case2 i w queue answers more ih =>
    -- The attempt is not over yet and goes to the end of the queue.
    rw [serve, if_pos more]
    obtain ⟨first, others⟩ := List.forall_mem_cons.mp within
    exact ih (QueueWithin.concat others ⟨first.attempt, first.rest⟩) all
  | case3 i w queue answers last failed answered waiting =>
    rw [serve, if_neg last]
    obtain ⟨first, others⟩ := List.forall_mem_cons.mp within
    refine Leads.bind guides.stable (resume_leads guides t first).catching fun ended further => ?_
    cases ended with
    | error fault => exact failed fault others (all.put (by rintro _ ⟨⟩) i)
    | ok progress =>
      have within := further progress rfl
      cases progress with
      | answered response =>
        refine answered response others (all.put ?_ i)
        rintro _ ⟨⟩
        exact within
      | waiting w' fewer => exact waiting w' fewer (QueueWithin.concat others within) all

theorem start_leads (i : Nat) {qs : List ChatRequest}
    (opens : ∀ q ∈ qs, Leads P R (begin q) fun opened => ∀ m ∈ opened.1, may m)
    {queue : List (Nat × Waiting)} {answers : Answers} (within : QueueWithin may queue)
    (all : GoodAnswers good answers) :
    Leads P R (start t i qs queue answers) fun started =>
      QueueWithin may started.1 ∧ GoodAnswers good started.2 := by
  induction qs generalizing i queue answers with
  | nil => exact .pure guides.refl ⟨within, all⟩
  | cons q rest ih =>
    obtain ⟨own, others⟩ := List.forall_mem_cons.mp opens
    refine Leads.bind guides.stable
      (Leads.catching (Q := fun opening => opening.2.Within may good) ?_) fun ended further => ?_
    · refine Leads.bind guides.stable own fun opened allowed => ?_
      refine Leads.bind guides.stable (run_leads guides t allowed opened.2) fun progress within => ?_
      exact .pure guides.refl within
    · rcases ended with fault | ⟨n, response | ⟨w, fewer⟩⟩
      · exact ih _ others within (all.put (by rintro _ ⟨⟩) i)
      · refine ih _ others within (all.put ?_ i)
        rintro _ ⟨⟩
        exact further _ rfl
      · exact ih _ others (within.concat (further _ rfl)) all

theorem gather_leads {qs : List ChatRequest}
    (opens : ∀ q ∈ qs, Leads P R (begin q) fun opened => ∀ m ∈ opened.1, may m) :
    Leads P R (gather t qs) fun answers => ∀ response, .ok response ∈ answers → good response := by
  have none : GoodAnswers good [] := fun _ _ => nofun
  refine Leads.bind guides.stable (start_leads guides t 0 opens (fun _ => nofun) none) fun started h => ?_
  refine Leads.bind guides.stable (serve_leads guides t h.1 h.2) fun answers all => ?_
  refine .pure guides.refl fun response member => ?_
  obtain ⟨i, -, found⟩ := List.mem_filterMap.mp member
  exact all i response found

end Guides

end Switchboard.Relay

import Switchboard.Proofs.Spending.Rollover

/-!
Clients that share a ledger on one day. Each of them asks whether its request can be afforded and, if it
can, records it some time later; what others record in between is not asked about again. So the limit
holds after a record that nothing came before, and any number of clients that all ask first can together
go beyond it.
-/

namespace Switchboard.Ledger

open Step

/-- What a client asks about, and records later. -/
structure Request where
  model : Model
  inputTokens : Number
  outputTokens : Number

namespace Request

def check (q : Request) (now : Instant) : Step Ledger Bool :=
  canAffordModel q.model q.inputTokens q.outputTokens now

def record (q : Request) (now : Instant) : Step Ledger Float :=
  Ledger.record q.model.handle q.inputTokens q.outputTokens (some q.model.pricing) now

def Accepted (q : Request) : Prop :=
  Accepts q.model.handle q.inputTokens q.outputTokens (some q.model.pricing)

def cost (q : Request) : Except Fault Float := q.model.pricing.estimate q.inputTokens q.outputTokens

end Request

/-- A request that can be afforded, by the ledger as the check found it. -/
structure Clearance where
  request : Request
  seen : Ledger

/-- A request that was recorded after its check, and the ledger just before. -/
structure Recorded extends Clearance where
  cost : Float
  found : Ledger

/-- What clients can do to a ledger on the day it is on, in any order: the requests that were cleared and
not recorded yet, and those that were recorded. -/
inductive Interleaving (first : Ledger) : List Clearance → List Recorded → Ledger → Prop where
  | start : Interleaving first [] [] first
  | refused {cleared : List Clearance} {recorded : List Recorded} {l : Ledger} {q : Request}
      {now : Instant} : Interleaving first cleared recorded l → now.day = .ok first.today →
      (q.check now l).answer ≠ .ok true → Interleaving first cleared recorded (q.check now l).state
  | cleared {cleared : List Clearance} {recorded : List Recorded} {l l' : Ledger} {q : Request}
      {now : Instant} : Interleaving first cleared recorded l → now.day = .ok first.today →
      Answers (q.check now) l true l' → Interleaving first (cleared ++ [⟨q, l'⟩]) recorded l'
  | recorded {front back : List Clearance} {c : Clearance} {recorded : List Recorded} {l l' : Ledger}
      {now : Instant} {cost : Float} : Interleaving first (front ++ c :: back) recorded l →
      now.day = .ok first.today → c.request.Accepted → Answers (c.request.record now) l cost l' →
      Interleaving first (front ++ back) (recorded ++ [⟨c, cost, l⟩]) l'
  | passedOver {front back : List Clearance} {c : Clearance} {recorded : List Recorded} {l : Ledger}
      {now : Instant} : Interleaving first (front ++ c :: back) recorded l → now.day = .ok first.today →
      ¬c.request.Accepted → Interleaving first (front ++ back) recorded (c.request.record now l).state

/-! ### Checks and records on the tracked day -/

section Today

variable {l : Ledger} {now : Instant} (today : now.day = .ok l.today)

include today in
theorem check_answers {q : Request} {cost : Float} (estimate : q.cost = .ok cost) :
    Answers (q.check now) l (l.fits cost) l :=
  answers_bind.mpr ⟨cost, l, answers_ofExcept.mpr ⟨estimate, rfl⟩, view_still _ today (Nat.le_refl _)⟩

include today in
theorem check_today (q : Request) :
    (∃ cost, q.cost = .ok cost ∧ Answers (q.check now) l (l.fits cost) l) ∨
      ∃ fault, Faults (q.check now) l fault l := by
  cases estimate : q.cost with
  | error fault =>
    exact .inr ⟨fault, faults_bind.mpr (.inl (faults_ofExcept.mpr ⟨estimate, rfl⟩))⟩
  | ok cost => exact .inl ⟨cost, rfl, check_answers today estimate⟩

include today in
theorem check_still (q : Request) : (q.check now l).state = l := by
  rcases check_today today q with ⟨_, -, answers⟩ | ⟨_, faults⟩
  · exact answers.2
  · exact faults.2

include today in
theorem record_today {q : Request} {l' : Ledger} {cost : Float} (accepted : q.Accepted)
    (h : Answers (q.record now) l cost l') : q.cost = .ok cost ∧ l' = l.add q.model.handle cost := by
  obtain ⟨p, d, same, estimate, day, rfl⟩ := record_charges accepted h
  obtain rfl := Option.some.inj same
  obtain rfl := Except.ok.inj (today.symm.trans day)
  refine ⟨estimate, ?_⟩
  rw [take, onDay_still (Nat.le_refl _)]
  rfl

end Today

/-! ### Any interleaving -/

/-- The check of a request was right about the ledger that it saw. -/
def Clearance.Sound (c : Clearance) : Prop :=
  ∃ cost, c.request.cost = .ok cost ∧ c.seen.fits cost = true

/-- The record charged what its request costs, under the limit of the first ledger. -/
structure Recorded.Sound (first : Ledger) (r : Recorded) : Prop where
  clearance : r.toClearance.Sound
  charged : r.request.cost = .ok r.cost
  budget : r.found.monthlyBudget = first.monthlyBudget

/-- The ledger has spent what was recorded, one cost after the other, and nothing else. -/
structure Interleaved (first : Ledger) (cleared : List Clearance) (recorded : List Recorded) (l : Ledger) :
    Prop where
  today : l.today = first.today
  budget : l.monthlyBudget = first.monthlyBudget
  spend : l.spend = (recorded.map Recorded.cost).foldl (· + ·) first.spend
  clearances : ∀ c ∈ cleared, c.Sound
  records : ∀ r ∈ recorded, r.Sound first
  last : ∀ r, recorded.getLast? = some r → l.spend = r.found.spend + r.cost

theorem Interleaving.interleaved {first l : Ledger} {cleared : List Clearance} {recorded : List Recorded}
    (run : Interleaving first cleared recorded l) : Interleaved first cleared recorded l := by
  induction run with
  | start => exact ⟨rfl, rfl, rfl, by simp, by simp, by simp⟩
  | refused run day _ ih =>
    rw [check_still (ih.today ▸ day)]
    exact ih
  | @cleared cleared recorded l l' q now run day answers ih =>
    rcases check_today (ih.today ▸ day) q with ⟨cost, estimate, fits⟩ | ⟨fault, faults⟩
    · obtain ⟨yes, rfl⟩ := answers.unique fits
      refine { ih with clearances := List.forall_mem_append.mpr ⟨ih.clearances, ?_⟩ }
      exact List.forall_mem_singleton.mpr ⟨cost, estimate, yes.symm⟩
    · exact (answers.not_faults faults).elim
  | @recorded front back c recorded l l' now cost run day accepted answers ih =>
    obtain ⟨estimate, rfl⟩ := record_today (ih.today ▸ day) accepted answers
    obtain ⟨before, behind⟩ := List.forall_mem_append.mp ih.clearances
    obtain ⟨own, behind⟩ := List.forall_mem_cons.mp behind
    constructor
    case today => exact ih.today
    case budget => exact ih.budget
    case spend =>
      rw [List.map_append, List.foldl_append, ← ih.spend]
      rfl
    case clearances => exact List.forall_mem_append.mpr ⟨before, behind⟩
    case records =>
      refine List.forall_mem_append.mpr ⟨ih.records, List.forall_mem_singleton.mpr ?_⟩
      exact ⟨own, estimate, ih.budget⟩
    case last =>
      intro r last
      rw [List.getLast?_concat] at last
      obtain rfl := Option.some.inj last
      rfl
  | @passedOver front back c recorded l now run day rejected ih =>
    obtain ⟨before, behind⟩ := List.forall_mem_append.mp ih.clearances
    rw [show (c.request.record now l).state = l from (record_rejects rejected now l).2]
    refine { ih with clearances := List.forall_mem_append.mpr ⟨before, ?_⟩ }
    exact (List.forall_mem_cons.mp behind).2

theorem dailyLimit_congr {l l' : Ledger} (same : l.monthlyBudget = l'.monthlyBudget) :
    l.dailyLimit = l'.dailyLimit := by
  rw [dailyLimit, dailyBudget, same, dailyLimit, dailyBudget]

/-- The last record decides whether the limit is kept: it is if the request still fitted, and it did fit if
the ledger was as the check saw it. -/
theorem Interleaved.keeps_limit_iff {first l : Ledger} {cleared : List Clearance} {recorded : List Recorded}
    (h : Interleaved first cleared recorded l) {r : Recorded} (last : recorded.getLast? = some r) :
    (l.spend ≤ l.dailyLimit ↔ r.found.fits r.cost = true) ∧
      (r.found = r.seen → l.spend ≤ l.dailyLimit) := by
  have sound := h.records r (List.mem_of_getLast? last)
  have limit : r.found.dailyLimit = l.dailyLimit := dailyLimit_congr (sound.budget.trans h.budget.symm)
  have keeps : l.spend ≤ l.dailyLimit ↔ r.found.fits r.cost = true := by
    rw [h.last r last, fits, limit, decide_eq_true_iff]
  refine ⟨keeps, fun untouched => keeps.mpr ?_⟩
  obtain ⟨cost, estimate, fitted⟩ := sound.clearance
  obtain rfl := Except.ok.inj (estimate.symm.trans sound.charged)
  rw [untouched]
  exact fitted

/-! ### All checks before all records -/

/-- The request alone can be afforded, and it will be recorded. -/
def Request.Affordable (l : Ledger) (q : Request) : Prop :=
  q.Accepted ∧ ∃ cost, q.cost = .ok cost ∧ l.fits cost = true

theorem Interleaving.check_all {first l : Ledger} {cleared : List Clearance} {recorded : List Recorded}
    {now : Instant} (run : Interleaving first cleared recorded l) (day : now.day = .ok first.today)
    {qs : List Request} (affordable : ∀ q ∈ qs, q.Affordable l) :
    Interleaving first (cleared ++ qs.map fun q => ⟨q, l⟩) recorded l := by
  induction qs generalizing cleared with
  | nil => simpa using run
  | cons q rest ih =>
    obtain ⟨⟨-, cost, estimate, fits⟩, others⟩ := List.forall_mem_cons.mp affordable
    have answers := check_answers (run.interleaved.today ▸ day) estimate
    rw [fits] at answers
    simpa using ih (run.cleared day answers) others

theorem Interleaving.record_all {first l : Ledger} {cleared : List Clearance} {recorded : List Recorded}
    {now : Instant} (run : Interleaving first cleared recorded l) (day : now.day = .ok first.today)
    (accepted : ∀ c ∈ cleared, c.request.Accepted) :
    ∃ later l', Interleaving first [] (recorded ++ later) l' ∧
      later.map (·.request) = cleared.map (·.request) := by
  induction cleared generalizing recorded l with
  | nil => exact ⟨[], l, by simpa using run, rfl⟩
  | cons c rest ih =>
    obtain ⟨own, others⟩ := List.forall_mem_cons.mp accepted
    obtain ⟨⟨cost, estimate, -⟩, -⟩ := List.forall_mem_cons.mp run.interleaved.clearances
    have charged : Answers (c.request.record now) l cost _ :=
      record_still own estimate (run.interleaved.today ▸ day) (Nat.le_refl _)
    have waiting : Interleaving first ([] ++ c :: rest) recorded l := run
    obtain ⟨later, l', run', requests⟩ := ih (waiting.recorded day own charged) others
    refine ⟨⟨c, cost, l⟩ :: later, l', by simpa using run', ?_⟩
    rw [List.map_cons, requests, List.map_cons]

/-- Clients that share a ledger on one day spend exactly what they record. After a record the limit is kept
if and only if the request still fitted when it was recorded, as it did if nothing was recorded since its
check; but any number of requests that can be afforded one by one can all be cleared first and all be
recorded then, whatever they come to together. -/
theorem limit_kept_iff_fits {first : Ledger} :
    (∀ cleared recorded l, Interleaving first cleared recorded l →
      l.spend = (recorded.map Recorded.cost).foldl (· + ·) first.spend ∧
      (∀ r ∈ recorded, r.request.cost = .ok r.cost) ∧ l.dailyLimit = first.dailyLimit ∧
      ∀ r, recorded.getLast? = some r → (l.spend ≤ l.dailyLimit ↔ r.found.fits r.cost = true) ∧
        (r.found = r.seen → l.spend ≤ l.dailyLimit)) ∧
    ∀ (now : Instant) (qs : List Request), now.day = .ok first.today → (∀ q ∈ qs, q.Affordable first) →
      ∃ recorded l, Interleaving first [] recorded l ∧ recorded.map (·.request) = qs := by
  constructor
  · intro cleared recorded l run
    have interleaved := run.interleaved
    refine ⟨interleaved.spend, fun r listed => (interleaved.records r listed).charged, ?_, ?_⟩
    · exact dailyLimit_congr interleaved.budget
    · exact fun r last => interleaved.keeps_limit_iff last
  · intro now qs day affordable
    have checked := Interleaving.start.check_all day affordable
    have accepted : ∀ c ∈ [] ++ qs.map fun q => (⟨q, first⟩ : Clearance), c.request.Accepted := by
      intro c cleared
      obtain ⟨q, listed, rfl⟩ := List.mem_map.mp cleared
      exact (affordable q listed).1
    obtain ⟨recorded, l, run, requests⟩ := checked.record_all day accepted
    refine ⟨recorded, l, run, ?_⟩
    rw [requests, List.nil_append, List.map_map]
    exact List.map_id qs

/-! ### Two requests of one dollar -/

def dollarModel : Model := { id := "m", contextLength := 1000, pricing := ⟨1.0, 1.0⟩ }

def dollarRequest : Request := ⟨dollarModel, .whole 1000000, .whole 0⟩

/-- One dollar a day, and ten cents more. -/
def dollarLedger : Ledger := { monthlyBudget := 30.0, today := ⟨1⟩ }

theorem dollarRequest_cost : dollarRequest.cost = .ok 1.0 := by
  have read : dollarRequest.cost.toOption = some 1.0 := by decide +kernel
  generalize dollarRequest.cost = estimate at read
  cases estimate with
  | error fault => cases read
  | ok cost => rw [Option.some.inj read]

theorem two_dollars_pass_the_limit : ∃ recorded l, Interleaving dollarLedger [] recorded l ∧
    recorded.map (·.request) = [dollarRequest, dollarRequest] ∧ ¬l.spend ≤ l.dailyLimit := by
  obtain ⟨spends, floods⟩ := @limit_kept_iff_fits dollarLedger
  have accepted : dollarRequest.Accepted := ⟨rfl, rfl, rfl, rfl⟩
  have fits : dollarLedger.fits 1.0 = true := by decide +kernel
  have affordable : dollarRequest.Affordable dollarLedger := ⟨accepted, 1.0, dollarRequest_cost, fits⟩
  obtain ⟨recorded, l, run, requests⟩ :=
    floods (earlyOn 1) [dollarRequest, dollarRequest] rfl (by simpa using affordable)
  obtain ⟨spend, charged, limit, -⟩ := spends [] recorded l run
  have each : recorded.map Recorded.cost = List.replicate 2 1.0 := by
    refine List.eq_replicate_iff.mpr ⟨?_, fun cost member => ?_⟩
    · simpa using congrArg List.length requests
    · obtain ⟨r, listed, rfl⟩ := List.mem_map.mp member
      have own : r.request ∈ recorded.map (·.request) := List.mem_map_of_mem listed
      rw [requests] at own
      have same : r.request = dollarRequest := by simpa using own
      have paid := charged r listed
      rw [same, dollarRequest_cost] at paid
      exact (Except.ok.inj paid).symm
  refine ⟨recorded, l, run, requests, ?_⟩
  rw [spend, limit, each]
  decide +kernel

end Switchboard.Ledger

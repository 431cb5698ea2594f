import Mathlib.Data.List.Induction
import Switchboard.Health.Record
import Switchboard.Proofs.Binary64
import Switchboard.Proofs.Health.Thresholds

/-!
A health record as a function of what was observed of its model. `replay` is the record after a
history of outcomes; `replay_reflects` reads every field of it off that history, whatever the order in
which successes and failures came.
-/

namespace Switchboard

/-- One outcome of a model, with what the clock showed. -/
inductive Observation where
  | success (ms : Float) (now : Instant)
  | failure (now : Instant)

namespace Observation

def now : Observation → Instant
  | success _ now => now
  | failure now => now

def isSuccess : Observation → Bool
  | success _ _ => true
  | failure _ => false

def isFailure : Observation → Bool
  | success _ _ => false
  | failure _ => true

end Observation

namespace HealthRecord

/-! ### Outcomes that are counted without a fault -/

/-- No more successes than outcomes were counted. -/
def Tallied (r : HealthRecord) : Prop := r.successes ≤ r.total

def rated (r : HealthRecord) : HealthRecord := { r with successRate := r.rate?.getD r.successRate }

def afterSuccess (r : HealthRecord) (ms : Float) (now : Instant) (t : Thresholds) : HealthRecord :=
  { (r.countSuccess ms now t).rated with lastCheck := some now }

def afterFailure (r : HealthRecord) (now : Instant) (t : Thresholds) : HealthRecord :=
  { (r.countFailure now).rated with
    status := (r.countFailure now).rated.judge t
    lastCheck := some now }

theorem rate?_of_tallied {r : HealthRecord} (tallied : r.Tallied) : ∃ rate, r.rate? = some rate :=
  Binary64.quotient?_of_le tallied

theorem success_eq {r : HealthRecord} (tallied : r.Tallied) (ms : Float) (now : Instant)
    (t : Thresholds) : success ms now t r = ⟨.ok (), r.afterSuccess ms now t, []⟩ := by
  have counted : (r.countSuccess ms now t).Tallied := Nat.succ_le_succ tallied
  obtain ⟨rate, read⟩ := rate?_of_tallied counted
  simp only [success, afterSuccess, rated, read, Option.elim_some, Option.getD_some]

theorem failure_eq {r : HealthRecord} (tallied : r.Tallied) (now : Instant) (t : Thresholds) :
    failure now t r = ⟨.ok (), r.afterFailure now t, []⟩ := by
  have counted : (r.countFailure now).Tallied := Nat.le_succ_of_le tallied
  obtain ⟨rate, read⟩ := rate?_of_tallied counted
  simp only [failure, afterFailure, rated, read, Option.elim_some, Option.getD_some]

def observe (t : Thresholds) (r : HealthRecord) : Observation → HealthRecord
  | .success ms now => r.afterSuccess ms now t
  | .failure now => r.afterFailure now t

/-- The record of a model of which this was observed, the oldest outcome first. -/
def replay (t : Thresholds) (h : List Observation) : HealthRecord := h.foldl (observe t) {}

theorem replay_concat (t : Thresholds) (h : List Observation) (o : Observation) :
    replay t (h ++ [o]) = observe t (replay t h) o := by
  simp [replay]

theorem observe_tallied {t : Thresholds} {r : HealthRecord} (tallied : r.Tallied) (o : Observation) :
    (observe t r o).Tallied := by
  cases o with
  | success ms now => exact Nat.succ_le_succ tallied
  | failure now => exact Nat.le_succ_of_le tallied

theorem replay_tallied (t : Thresholds) (h : List Observation) : (replay t h).Tallied := by
  induction h using List.reverseRecOn with
  | nil => exact Nat.le_refl 0
  | append_singleton h o ih =>
    rw [replay_concat]
    exact observe_tallied ih o

end HealthRecord

/-! ### What a history says -/

namespace Observation

/-- The failures behind the last success. -/
def streak (h : List Observation) : Nat := (h.reverse.takeWhile isFailure).length

/-- The share of successes, the whole if nothing was observed. -/
def share (h : List Observation) : Option Float :=
  if h = [] then some 1.0 else Binary64.quotient? (h.countP isSuccess) h.length

/-- There were enough outcomes, and too few of them were successes. -/
def IsLow (t : Thresholds) (h : List Observation) : Prop :=
  ∃ rate, share h = some rate ∧ rate < t.lowRate ∧ t.lowRateRequests ≤ h.length

/-- The share of successes was too low right after some failure behind the last success. -/
def WasLow (t : Thresholds) (h : List Observation) : Prop :=
  ∃ before now after, h = before ++ .failure now :: after ∧ (∀ o ∈ after, o.isFailure = true) ∧
    IsLow t (before ++ [.failure now])

theorem streak_concat_success (h : List Observation) (ms : Float) (now : Instant) :
    streak (h ++ [.success ms now]) = 0 := by
  simp [streak, isFailure]

theorem streak_concat_failure (h : List Observation) (now : Instant) :
    streak (h ++ [.failure now]) = streak h + 1 := by
  simp [streak, List.takeWhile_cons, isFailure]

theorem share_concat (h : List Observation) (o : Observation) :
    share (h ++ [o]) = Binary64.quotient? ((h ++ [o]).countP isSuccess) (h ++ [o]).length := by
  simp [share]

theorem not_wasLow_nil (t : Thresholds) : ¬WasLow t [] := by
  rintro ⟨before, now, after, split, -, -⟩
  simp at split

theorem not_wasLow_concat_success (t : Thresholds) (h : List Observation) (ms : Float) (now : Instant) :
    ¬WasLow t (h ++ [.success ms now]) := by
  rintro ⟨before, earlier, after, split, failed, -⟩
  rcases List.eq_nil_or_concat after with rfl | ⟨rest, last, rfl⟩
  · cases (List.append_inj' split rfl).2
  · rw [List.concat_eq_append] at split failed
    rw [← List.cons_append, ← List.append_assoc] at split
    obtain rfl := List.singleton_inj.mp (List.append_inj' split rfl).2
    cases failed _ (List.mem_append_right _ List.mem_cons_self)

theorem wasLow_concat_failure (t : Thresholds) (h : List Observation) (now : Instant) :
    WasLow t (h ++ [.failure now]) ↔ WasLow t h ∨ IsLow t (h ++ [.failure now]) := by
  constructor
  · rintro ⟨before, earlier, after, split, failed, low⟩
    rcases List.eq_nil_or_concat after with rfl | ⟨rest, last, rfl⟩
    · exact .inr (split ▸ low)
    · rw [List.concat_eq_append] at split failed
      rw [← List.cons_append, ← List.append_assoc] at split
      obtain rfl := (List.append_inj' split rfl).1
      exact .inl ⟨before, earlier, rest, rfl, fun o member => failed o (List.mem_append_left _ member), low⟩
  · rintro (⟨before, earlier, after, rfl, failed, low⟩ | low)
    · refine ⟨before, earlier, after ++ [.failure now], by simp, ?_, low⟩
      intro o member
      rcases List.mem_append.mp member with earlier | last
      · exact failed o earlier
      · rw [List.mem_singleton.mp last]
        rfl
    · exact ⟨h, now, [], rfl, by simp, low⟩

end Observation

/-! ### The record of a history -/

namespace HealthRecord

open Observation

/-- The status as the streak and the shares behind the last success have it. -/
structure Stands (t : Thresholds) (h : List Observation) (s : HealthStatus) : Prop where
  unavailable : s = .unavailable ↔ t.unavailableStreak ≤ Observation.streak h
  degraded : s = .degraded ↔ Observation.streak h < t.unavailableStreak ∧
    (t.degradedStreak ≤ Observation.streak h ∨ WasLow t h)
  healthy : s = .healthy ↔ Observation.streak h < t.unavailableStreak ∧
    ¬(t.degradedStreak ≤ Observation.streak h ∨ WasLow t h) ∧ ∃ o ∈ h, o.isSuccess = true
  unknown : s = .unknown ↔ Observation.streak h < t.unavailableStreak ∧
    ¬(t.degradedStreak ≤ Observation.streak h ∨ WasLow t h) ∧ ∀ o ∈ h, o.isSuccess = false

/-- Every field of the record but the average latency, as the history has it. -/
structure Reflects (t : Thresholds) (h : List Observation) (r : HealthRecord) : Prop where
  total : r.total = h.length
  successes : r.successes = h.countP isSuccess
  streak : r.streak = Observation.streak h
  lastSuccess : r.lastSuccess = (h.filter isSuccess).getLast?.map now
  lastFailure : r.lastFailure = (h.filter isFailure).getLast?.map now
  lastCheck : r.lastCheck = h.getLast?.map now
  successRate : share h = some r.successRate
  status : Stands t h r.status

theorem Reflects.tallied {t : Thresholds} {h : List Observation} {r : HealthRecord}
    (reflects : r.Reflects t h) : r.Tallied := by
  rw [Tallied, reflects.total, reflects.successes]
  exact List.countP_le_length

theorem stands_nil {t : Thresholds} (valid : t.Valid) : Stands t [] .unknown := by
  have positive := valid.degraded_pos
  have above := valid.ordered
  have never := not_wasLow_nil t
  constructor <;> simp [Observation.streak, never] <;> omega

theorem reflects_nil {t : Thresholds} (valid : t.Valid) : Reflects t [] {} := by
  constructor
  case status => exact stands_nil valid
  all_goals rfl

theorem stands_success {t : Thresholds} (valid : t.Valid) (h : List Observation) (ms : Float)
    (now : Instant) : Stands t (h ++ [.success ms now]) .healthy := by
  have positive := valid.degraded_pos
  have above := valid.ordered
  have broken := streak_concat_success h ms now
  have never := not_wasLow_concat_success t h ms now
  constructor <;> rw [broken] <;> simp [never, isSuccess] <;> omega

theorem share_rated {h : List Observation} {o : Observation} {r : HealthRecord}
    (total : r.total = (h ++ [o]).length) (successes : r.successes = (h ++ [o]).countP isSuccess) :
    share (h ++ [o]) = some r.rated.successRate := by
  have tallied : r.Tallied := by
    rw [Tallied, total, successes]
    exact List.countP_le_length
  obtain ⟨rate, read⟩ := rate?_of_tallied tallied
  rw [share_concat, ← total, ← successes, rated, read, Option.getD_some]
  exact read

theorem afterSuccess_reflects {t : Thresholds} (valid : t.Valid) {h : List Observation}
    {r : HealthRecord} (reflects : r.Reflects t h) (ms : Float) (now : Instant) :
    (r.afterSuccess ms now t).Reflects t (h ++ [.success ms now]) := by
  have total : (r.countSuccess ms now t).total = (h ++ [Observation.success ms now]).length := by
    simp [countSuccess, reflects.total]
  have successes : (r.countSuccess ms now t).successes =
      (h ++ [Observation.success ms now]).countP isSuccess := by
    simp [countSuccess, reflects.successes, isSuccess]
  have rate := share_rated total successes
  constructor
  case total => exact total
  case successes => exact successes
  case streak => rw [streak_concat_success]; rfl
  case lastSuccess => simp [afterSuccess, rated, countSuccess, isSuccess, Observation.now]
  case lastFailure => simp [afterSuccess, rated, countSuccess, isFailure, reflects.lastFailure]
  case lastCheck => simp [afterSuccess, Observation.now]
  case successRate => exact rate
  case status => exact stands_success valid h ms now

/-- A failure has found the share of successes too low. -/
def FoundLow (t : Thresholds) (r : HealthRecord) : Prop :=
  r.successRate < t.lowRate ∧ t.lowRateRequests ≤ r.total

theorem judge_cases (r : HealthRecord) (t : Thresholds) :
    (t.unavailableStreak ≤ r.streak ∧ r.judge t = .unavailable) ∨
    (r.streak < t.unavailableStreak ∧ (t.degradedStreak ≤ r.streak ∨ r.FoundLow t) ∧
      r.judge t = .degraded) ∨
    (r.streak < t.unavailableStreak ∧ ¬(t.degradedStreak ≤ r.streak ∨ r.FoundLow t) ∧
      r.judge t = r.status) := by
  unfold judge FoundLow
  by_cases out : t.unavailableStreak ≤ r.streak
  · exact .inl ⟨out, if_pos out⟩
  · have inside : r.streak < t.unavailableStreak := by omega
    by_cases long : t.degradedStreak ≤ r.streak
    · exact .inr (.inl ⟨inside, .inl long, by rw [if_neg out, if_pos long]⟩)
    · by_cases low : r.successRate < t.lowRate ∧ t.lowRateRequests ≤ r.total
      · exact .inr (.inl ⟨inside, .inr low, by rw [if_neg out, if_neg long, if_pos low]⟩)
      · exact .inr (.inr ⟨inside, by tauto, by rw [if_neg out, if_neg long, if_neg low]⟩)

theorem stands_failure {t : Thresholds} {h : List Observation} {s s' : HealthStatus} {now : Instant}
    (stands : Stands t h s)
    (judged : (t.unavailableStreak ≤ Observation.streak h + 1 ∧ s' = .unavailable) ∨
      (Observation.streak h + 1 < t.unavailableStreak ∧
        (t.degradedStreak ≤ Observation.streak h + 1 ∨ IsLow t (h ++ [.failure now])) ∧ s' = .degraded) ∨
      (Observation.streak h + 1 < t.unavailableStreak ∧
        ¬(t.degradedStreak ≤ Observation.streak h + 1 ∨ IsLow t (h ++ [.failure now])) ∧ s' = s)) :
    Stands t (h ++ [.failure now]) s' := by
  have longer := streak_concat_failure h now
  have wasLow := wasLow_concat_failure t h now
  rcases judged with ⟨out, rfl⟩ | ⟨inside, fell, rfl⟩ | ⟨inside, held, rfl⟩
  · have outside : ¬Observation.streak h + 1 < t.unavailableStreak := by omega
    constructor <;> rw [longer] <;> simp [out, outside]
  · have low : t.degradedStreak ≤ Observation.streak h + 1 ∨ WasLow t (h ++ [.failure now]) := by
      rw [wasLow]
      tauto
    constructor <;> rw [longer] <;> simp [low, inside]
  · obtain ⟨short, fine⟩ := not_or.mp held
    have before : Observation.streak h < t.unavailableStreak := by omega
    have same : (t.degradedStreak ≤ Observation.streak h + 1 ∨ WasLow t (h ++ [.failure now])) ↔
        (t.degradedStreak ≤ Observation.streak h ∨ WasLow t h) := by
      have brief : ¬t.degradedStreak ≤ Observation.streak h := by omega
      rw [wasLow]
      tauto
    constructor <;> rw [longer]
    · rw [stands.unavailable]
      omega
    · rw [stands.degraded, same]
      tauto
    · rw [stands.healthy, same]
      simp [before, inside, isSuccess]
    · rw [stands.unknown, same]
      simp [before, inside, isSuccess, or_imp, forall_and]

theorem afterFailure_reflects {t : Thresholds} {h : List Observation} {r : HealthRecord}
    (reflects : r.Reflects t h) (now : Instant) :
    (r.afterFailure now t).Reflects t (h ++ [.failure now]) := by
  have longer := streak_concat_failure h now
  have streak : (r.countFailure now).rated.streak = Observation.streak h + 1 := by
    rw [← reflects.streak]; rfl
  have total : (r.countFailure now).total = (h ++ [Observation.failure now]).length := by
    simp [countFailure, reflects.total]
  have successes : (r.countFailure now).successes =
      (h ++ [Observation.failure now]).countP isSuccess := by
    simp [countFailure, reflects.successes, isSuccess]
  have rate := share_rated total successes
  have low : IsLow t (h ++ [.failure now]) ↔ (r.countFailure now).rated.FoundLow t := by
    have rated : (r.countFailure now).rated.total = (h ++ [Observation.failure now]).length := total
    simp [IsLow, FoundLow, rate, rated]
  have judged := judge_cases (r.countFailure now).rated t
  rw [streak, ← low] at judged
  constructor
  case total => exact total
  case successes => exact successes
  case streak => exact streak.trans longer.symm
  case lastSuccess => simp [afterFailure, rated, countFailure, isSuccess, reflects.lastSuccess]
  case lastFailure => simp [afterFailure, rated, countFailure, isFailure, Observation.now]
  case lastCheck => simp [afterFailure, Observation.now]
  case successRate => exact rate
  case status => exact stands_failure reflects.status judged

theorem replay_reflects {t : Thresholds} (valid : t.Valid) (h : List Observation) :
    (replay t h).Reflects t h := by
  induction h using List.reverseRecOn with
  | nil => exact reflects_nil valid
  | append_singleton h o ih =>
    rw [replay_concat]
    cases o with
    | success ms now => exact afterSuccess_reflects valid ih ms now
    | failure now => exact afterFailure_reflects ih now

end HealthRecord
end Switchboard

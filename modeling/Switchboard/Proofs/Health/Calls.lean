import Mathlib.Data.List.DropRight
import Switchboard.Health.Monitor
import Switchboard.Proofs.Health.History
import Switchboard.Proofs.Step

/-!
What a monitor holds after any calls on any models. `record_of_own_history` says that the record of a
model is the replay of what that model itself went through since it was last reset.
-/

namespace Switchboard.Monitor

open HealthRecord Step

/-- A call that changes what is known of a model. -/
inductive Call where
  | success (id : Handle) (ms : Float) (now : Instant)
  | failure (id : Handle) (error : String) (now : Instant)
  | reset (id : Handle)

namespace Call

def id : Call → Handle
  | success id _ _ => id
  | failure id _ _ => id
  | reset id => id

def isReset : Call → Bool
  | reset _ => true
  | _ => false

def step : Call → Step Monitor Unit
  | success id ms now => recordSuccess id ms now
  | failure id error now => recordFailure id error now
  | reset id => Monitor.reset id

def observation? : Call → Option Observation
  | success _ ms now => some (.success (clampLatency ms) now)
  | failure _ _ now => some (.failure now)
  | reset _ => none

/-- The call is about this model. Without a name only a reset is about any. -/
def reaches (k : Key) (c : Call) : Bool := decide (c.id.key = k) && (c.isReset || c.id.isSet)

end Call

/-- The outcomes of a model since its last reset. -/
def history (k : Key) (calls : List Call) : List Observation :=
  ((calls.filter (·.reaches k)).rtakeWhile fun c => !c.isReset).filterMap Call.observation?

/-! ### One call -/

/-- Every record of the monitor counts no more successes than outcomes. -/
def Sound (m : Monitor) : Prop := ∀ k, (m.recordOf k).Tallied

def observed (m : Monitor) (id : Handle) (o : Observation) : Monitor :=
  m.putRecord id (observe m.thresholds (m.recordOf id.key) o)

def Call.effect (m : Monitor) (c : Call) : Monitor :=
  if c.reaches c.id.key then c.observation?.elim (m.putRecord c.id {}) (m.observed c.id) else m

theorem record?_putRecord (m : Monitor) (id : Handle) (r : HealthRecord) (k : Key) :
    (m.putRecord id r).record? k = if id.key = k then some r else m.record? k :=
  Register.get?_put m.records id k r

theorem recordOf_putRecord (m : Monitor) (id : Handle) (r : HealthRecord) (k : Key) :
    (m.putRecord id r).recordOf k = if id.key = k then r else m.recordOf k := by
  rw [recordOf, record?_putRecord]
  split <;> rfl

theorem putRecord_sound {m : Monitor} (sound : m.Sound) (id : Handle) {r : HealthRecord}
    (tallied : r.Tallied) : (m.putRecord id r).Sound := by
  intro k
  rw [recordOf_putRecord]
  split
  · exact tallied
  · exact sound k

theorem recordSuccess_answers {m : Monitor} (sound : m.Sound) {id : Handle} (named : id.isSet = true)
    (ms : Float) (now : Instant) :
    Answers (recordSuccess id ms now) m () (m.observed id (.success (clampLatency ms) now)) := by
  have counted := success_eq (sound id.key) (clampLatency ms) now m.thresholds
  have kept : Answers (onRecord id (HealthRecord.success (clampLatency ms) now m.thresholds)) m ()
      (m.observed id (.success (clampLatency ms) now)) :=
    answers_on.mpr ⟨_, ⟨congrArg Outcome.answer counted, congrArg Outcome.state counted⟩, rfl⟩
  unfold recordSuccess
  rw [named, Bool.not_true, if_neg Bool.false_ne_true]
  exact answers_bind.mpr ⟨(), m, answers_write.mpr rfl, answers_bind.mpr ⟨m, m, answers_get.mpr ⟨rfl, rfl⟩,
    answers_bind.mpr ⟨(), _, kept, answers_write.mpr rfl⟩⟩⟩

theorem recordFailure_answers {m : Monitor} (sound : m.Sound) {id : Handle} (named : id.isSet = true)
    (error : String) (now : Instant) :
    Answers (recordFailure id error now) m () (m.observed id (.failure now)) := by
  have counted := failure_eq (sound id.key) now m.thresholds
  have kept : Answers (onRecord id (HealthRecord.failure now m.thresholds)) m ()
      (m.observed id (.failure now)) :=
    answers_on.mpr ⟨_, ⟨congrArg Outcome.answer counted, congrArg Outcome.state counted⟩, rfl⟩
  unfold recordFailure
  rw [named, Bool.not_true, if_neg Bool.false_ne_true]
  exact answers_bind.mpr ⟨m, m, answers_get.mpr ⟨rfl, rfl⟩, answers_bind.mpr ⟨(), _, kept,
    answers_bind.mpr ⟨_, _, answers_get.mpr ⟨rfl, rfl⟩, answers_write.mpr rfl⟩⟩⟩

theorem reset_answers (m : Monitor) (id : Handle) : Answers (reset id) m () (m.putRecord id {}) :=
  answers_bind.mpr ⟨(), _, answers_modify.mpr rfl, answers_write.mpr rfl⟩

/-- What is reported under no name changes nothing. -/
theorem step_unnamed (m : Monitor) {c : Call} (unnamed : c.id.isSet = false)
    (outcome : c.isReset = false) : Answers c.step m () m := by
  cases c with
  | success id ms now =>
    show Answers (recordSuccess id ms now) m () m
    rw [recordSuccess, if_pos (by rw [show id.isSet = false from unnamed, Bool.not_false])]
    exact answers_write.mpr rfl
  | failure id error now =>
    show Answers (recordFailure id error now) m () m
    rw [recordFailure, if_pos (by rw [show id.isSet = false from unnamed, Bool.not_false])]
    exact answers_write.mpr rfl
  | reset id => cases outcome

theorem step_answers {m : Monitor} (sound : m.Sound) (c : Call) : Answers c.step m () (c.effect m) := by
  by_cases reached : c.reaches c.id.key = true
  · rw [Call.effect, if_pos reached]
    cases c with
    | success id ms now =>
      have named : id.isSet = true := by simpa [Call.reaches, Call.isReset, Call.id] using reached
      exact recordSuccess_answers sound named ms now
    | failure id error now =>
      have named : id.isSet = true := by simpa [Call.reaches, Call.isReset, Call.id] using reached
      exact recordFailure_answers sound named error now
    | reset id => exact reset_answers m id
  · rw [Call.effect, if_neg reached]
    simp only [Call.reaches, decide_true, Bool.true_and, Bool.or_eq_true, not_or,
      Bool.not_eq_true] at reached
    exact step_unnamed m reached.2 reached.1

theorem effect_thresholds (m : Monitor) (c : Call) : (c.effect m).thresholds = m.thresholds := by
  unfold Call.effect
  split
  · cases c.observation? <;> rfl
  · rfl

theorem effect_sound {m : Monitor} (sound : m.Sound) (c : Call) : (c.effect m).Sound := by
  unfold Call.effect
  split
  · cases c.observation? with
    | none => exact putRecord_sound sound _ (Nat.le_refl 0)
    | some o => exact putRecord_sound sound _ (observe_tallied (sound _) o)
  · exact sound

theorem record?_effect_other {m : Monitor} {c : Call} {k : Key} (other : c.reaches k = false) :
    (c.effect m).record? k = m.record? k := by
  unfold Call.effect
  split
  · rename_i reached
    have apart : c.id.key ≠ k := by
      rintro rfl
      rw [other] at reached
      cases reached
    cases c.observation? with
    | none => exact (record?_putRecord m c.id {} k).trans (if_neg apart)
    | some o => exact (record?_putRecord m c.id _ k).trans (if_neg apart)
  · rfl

theorem reaches_key {c : Call} {k : Key} (reached : c.reaches k = true) : c.id.key = k :=
  of_decide_eq_true (Bool.and_eq_true_iff.mp reached).1

theorem reaches_of_ne {c : Call} {k : Key} (apart : c.id.key ≠ k) : c.reaches k = false := by
  rw [Call.reaches, decide_eq_false apart, Bool.false_and]

theorem record?_effect_own {m : Monitor} {c : Call} {k : Key} (reached : c.reaches k = true) :
    (c.effect m).record? k =
      some (c.observation?.elim {} (observe m.thresholds (m.recordOf k))) := by
  obtain rfl := reaches_key reached
  rw [Call.effect, if_pos reached]
  cases c.observation? with
  | none => exact (record?_putRecord m c.id {} c.id.key).trans (if_pos rfl)
  | some o => exact (record?_putRecord m c.id _ c.id.key).trans (if_pos rfl)

/-! ### Histories -/

theorem history_concat_other {k : Key} {c : Call} (other : c.reaches k = false) (calls : List Call) :
    history k (calls ++ [c]) = history k calls := by
  simp [history, other]

theorem history_concat_own {k : Key} {c : Call} (reached : c.reaches k = true) (calls : List Call) :
    history k (calls ++ [c]) = c.observation?.elim [] fun o => history k calls ++ [o] := by
  cases c <;>
    simp [history, reached, Call.isReset, Call.observation?]

/-! ### Any calls -/

/-- The monitor holds what the models went through, and nothing on any other model. -/
structure Mirrors (t : Thresholds) (calls : List Call) (m : Monitor) : Prop where
  thresholds : m.thresholds = t
  untouched : ∀ k, m.record? k = none ↔ ∀ c ∈ calls, c.reaches k = false
  recordOf : ∀ k, m.recordOf k = replay t (history k calls)

theorem Mirrors.sound {t : Thresholds} {calls : List Call} {m : Monitor}
    (mirrors : Mirrors t calls m) : m.Sound := by
  intro k
  rw [mirrors.recordOf]
  exact replay_tallied t _

theorem mirrors_nil {m : Monitor} (fresh : m.records = []) : Mirrors m.thresholds [] m := by
  have empty : ∀ k, m.record? k = none := by
    intro k
    rw [record?, fresh]
    rfl
  constructor
  case thresholds => rfl
  case untouched => simp [empty]
  case recordOf =>
    intro k
    rw [recordOf, empty]
    rfl

theorem mirrors_concat {t : Thresholds} {calls : List Call} {m : Monitor}
    (mirrors : Mirrors t calls m) (c : Call) : Mirrors t (calls ++ [c]) (c.effect m) := by
  constructor
  case thresholds => exact (effect_thresholds m c).trans mirrors.thresholds
  case untouched =>
    intro k
    cases reached : c.reaches k with
    | true =>
      rw [record?_effect_own reached]
      simp [reached]
    | false =>
      rw [record?_effect_other reached, mirrors.untouched]
      simp [or_imp, forall_and, reached]
  case recordOf =>
    intro k
    cases reached : c.reaches k with
    | true =>
      rw [recordOf, record?_effect_own reached, history_concat_own reached, mirrors.recordOf,
        mirrors.thresholds]
      cases c.observation? with
      | none => rfl
      | some o => exact (replay_concat t _ o).symm
    | false =>
      rw [recordOf, record?_effect_other reached, history_concat_other reached]
      exact mirrors.recordOf k

theorem run_mirrors {m : Monitor} (fresh : m.records = []) (calls : List Call) :
    ∃ m', Answers (sequence Call.step calls) m () m' ∧ Mirrors m.thresholds calls m' := by
  induction calls using List.reverseRecOn with
  | nil => exact ⟨m, answers_pure.mpr ⟨rfl, rfl⟩, mirrors_nil fresh⟩
  | append_singleton calls c ih =>
    obtain ⟨between, run, mirrors⟩ := ih
    exact ⟨c.effect between, answers_sequence_concat.mpr ⟨between, run, step_answers mirrors.sound c⟩,
      mirrors_concat mirrors c⟩

/-- Whatever is reported on any mix of models, no call fails, and a model's record is the replay of its
own outcomes since its last reset, every field and the status being read off them. -/
theorem record_of_own_history {m : Monitor} (fresh : m.records = []) (valid : m.thresholds.Valid)
    (calls : List Call) :
    (∃ m', Answers (sequence Call.step calls) m () m' ∧ ∀ k,
      (m'.record? k = none ↔ ∀ c ∈ calls, c.reaches k = false) ∧
      ∀ r, m'.record? k = some r →
        r = replay m.thresholds (history k calls) ∧ r.Reflects m.thresholds (history k calls)) ∧
    ∀ c ∈ calls, c.id.isSet = false → c.isReset = false → ∀ m', Answers c.step m' () m' := by
  refine ⟨?_, fun c _ unnamed outcome m' => step_unnamed m' unnamed outcome⟩
  obtain ⟨m', run, mirrors⟩ := run_mirrors fresh calls
  refine ⟨m', run, fun k => ⟨mirrors.untouched k, fun r held => ?_⟩⟩
  have replayed : r = replay m.thresholds (history k calls) := by
    rw [← mirrors.recordOf, recordOf, held, Option.getD_some]
  exact ⟨replayed, replayed ▸ replay_reflects valid _⟩

/-- Three failures of a model, with a success of another one in between. -/
def interleaved : List Call :=
  [.failure (.ofText "a") "timeout" ⟨1, some 0, none⟩, .success (.ofText "b") 80.0 ⟨2, some 0, none⟩,
    .failure (.ofText "a") "timeout" ⟨3, some 0, none⟩, .failure (.ofText "a") "timeout" ⟨4, some 0, none⟩]

theorem interleaved_models_keep_apart : ∃ m, Answers (sequence Call.step interleaved) {} () m ∧
    ∃ r, m.record? (.text "a") = some r ∧ r.status = .degraded ∧ r.streak = 3 ∧ r.total = 3 ∧
      r.lastSuccess = none ∧ r.lastCheck = some ⟨4, some 0, none⟩ := by
  obtain ⟨⟨m, run, held⟩, -⟩ := @record_of_own_history {} rfl Thresholds.valid_default interleaved
  obtain ⟨untouched, replayed⟩ := held (.text "a")
  cases found : m.record? (.text "a") with
  | none =>
    have reached : interleaved.any (·.reaches (.text "a")) = true := by decide
    obtain ⟨c, member, reaches⟩ := List.any_eq_true.mp reached
    cases (untouched.mp found c member).symm.trans reaches
  | some r =>
    have reflects := (replayed r found).2
    have degraded := reflects.status.degraded.mpr ⟨by decide, .inl (by decide)⟩
    exact ⟨m, run, r, found, degraded, reflects.streak, reflects.total, reflects.lastSuccess,
      reflects.lastCheck⟩

end Switchboard.Monitor

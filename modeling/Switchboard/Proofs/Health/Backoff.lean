import Switchboard.Proofs.Health.Calls
import Switchboard.Routing.Selection

/-!
When choosing among models stops. A degraded model rests for a power of two of its failures, in
seconds, and a span holds such a power only up to an exponent of its own. `selection_answers_iff` is the
exact bound on the thresholds under which no run of a monitor reaches a longer rest.
-/

namespace Switchboard

open Step

/-! ### Rests that are too long to count -/

namespace Span

/-- The power of two that is the last one to fit into a span. -/
def lastExponent : Nat := 46

theorem ofMicros_short {micros : Nat} (short : micros < 1000000000 * microsPerDay) :
    ofMicros micros = .ok micros := by
  have days : (micros : Int) / microsPerDay ≤ 999999999 := by
    simp only [microsPerDay] at short ⊢
    omega
  have forward : 0 ≤ (micros : Int) / microsPerDay := by
    simp only [microsPerDay]
    omega
  have countable : (micros : Int) / microsPerDay < wordEnd := Int.lt_of_le_of_lt days (by decide)
  have bounds : -wordEnd < 0 ∧ (-999999999 : Int) < 0 := by decide
  unfold ofMicros
  rw [if_neg (by omega), if_neg (by omega)]

theorem ofMicros_long {micros : Nat} (long : 1000000000 * microsPerDay ≤ micros) :
    ∃ fault, ofMicros micros = .error fault := by
  have days : 999999999 < (micros : Int) / microsPerDay := by
    simp only [microsPerDay] at long ⊢
    omega
  unfold ofMicros
  by_cases uncountable : wordEnd ≤ (micros : Int) / microsPerDay ∨ (micros : Int) / microsPerDay < -wordEnd
  · exact ⟨_, if_pos uncountable⟩
  · exact ⟨_, (if_neg uncountable).trans (if_pos (.inl days))⟩

theorem ofPowerOfTwo_short {exponent : Nat} (short : exponent ≤ lastExponent) :
    ofPowerOfTwo exponent = .ok (Nat.pow 2 exponent * microsPerSecond : Nat) := by
  have below : Nat.pow 2 exponent ≤ Nat.pow 2 46 := Nat.pow_le_pow_right (by decide) short
  rw [ofPowerOfTwo_eq]
  refine ofMicros_short ?_
  simp only [Nat.pow_eq, microsPerSecond, microsPerDay] at below ⊢
  omega

theorem ofPowerOfTwo_long {exponent : Nat} (long : lastExponent < exponent) :
    ∃ fault, ofPowerOfTwo exponent = .error fault := by
  have above : Nat.pow 2 47 ≤ Nat.pow 2 exponent := Nat.pow_le_pow_right (by decide) long
  rw [ofPowerOfTwo_eq]
  refine ofMicros_long ?_
  simp only [Nat.pow_eq, microsPerSecond, microsPerDay] at above ⊢
  omega

end Span

/-- Readings that both have an offset, or both have none, can be subtracted. -/
theorem Instant.since_answers {now earlier : Instant} (alike : now.offset.isSome = earlier.offset.isSome) :
    ∃ elapsed, now.since earlier = .ok elapsed := by
  unfold Instant.since
  rw [if_pos alike]
  split
  · exact ⟨_, rfl⟩
  · exact ⟨_, rfl⟩

namespace HealthRecord

/-- The model is degraded and rests for longer than a span can say. -/
def Overlong (r : HealthRecord) (t : Thresholds) : Prop :=
  r.status = .degraded ∧ r.lastFailure.isSome = true ∧
    Span.lastExponent < min r.streak t.maxBackoffExponent

/-- The clock that read the moment is of the same kind as that of the last failure. -/
def ReadAlike (r : HealthRecord) (now : Instant) : Prop :=
  ∀ failed, r.lastFailure = some failed → now.offset.isSome = failed.offset.isSome

theorem shouldRetry_answers_iff {r : HealthRecord} {now : Instant} (alike : r.ReadAlike now)
    (t : Thresholds) (usable : r.status ≠ .unavailable) :
    (∃ b, r.shouldRetry now t = .ok b) ↔ ¬r.Overlong t := by
  unfold shouldRetry Overlong
  cases status : r.status with
  | healthy => simp
  | unknown => simp
  | unavailable => exact (usable status).elim
  | degraded =>
    cases failure : r.lastFailure with
    | none => simp
    | some failed =>
      obtain ⟨_, elapsed⟩ := Instant.since_answers (alike failed failure)
      by_cases long : Span.lastExponent < min r.streak t.maxBackoffExponent
      · obtain ⟨fault, stopped⟩ := Span.ofPowerOfTwo_long long
        have wait : r.backoff t = .error fault := stopped
        simp [wait, long, bind, Except.bind]
      · have wait : r.backoff t = .ok _ := Span.ofPowerOfTwo_short (Nat.le_of_not_lt long)
        simp [wait, elapsed, long, bind, Except.bind, pure, Except.pure]

end HealthRecord

/-! ### One state of the monitor -/

namespace Monitor

open HealthRecord Observation

/-- All failures that the monitor knows of were read from clocks of the same kind as this reading. -/
def ReadAlike (m : Monitor) (now : Instant) : Prop := ∀ k r, m.record? k = some r → r.ReadAlike now

/-- The model is in the catalog's favour, but resting for longer than a span can say. -/
def Stalls (m : Monitor) (model : Model) : Prop :=
  model.available = true ∧ ∃ r, m.record? model.key = some r ∧ r.Overlong m.thresholds

theorem admits_answers_iff {m : Monitor} {now : Instant} (alike : m.ReadAlike now) (model : Model) :
    (∃ b, m.admits model now = .ok b) ↔ ¬m.Stalls model := by
  unfold admits isAvailable Stalls
  cases offered : model.available with
  | false => simp
  | true =>
    cases held : m.record? model.key with
    | none => simp
    | some r =>
      by_cases out : r.status = .unavailable
      · simp [out, Overlong]
      · have retried := shouldRetry_answers_iff (alike _ r held) m.thresholds out
        simpa [out] using retried

theorem filterAvailable_answers_iff_admits (m : Monitor) (now : Instant) (models : List Model) :
    (∃ kept, m.filterAvailable now models = .ok kept) ↔
      ∀ model ∈ models, ∃ b, m.admits model now = .ok b := by
  induction models with
  | nil => simp [filterAvailable]
  | cons model rest ih =>
    rw [List.forall_mem_cons, ← ih]
    constructor
    · rintro ⟨kept, filtered⟩
      obtain ⟨admitted, asked, filtered⟩ := except_bind_ok filtered
      obtain ⟨others, later, -⟩ := except_bind_ok filtered
      exact ⟨⟨admitted, asked⟩, ⟨others, later⟩⟩
    · rintro ⟨⟨admitted, asked⟩, ⟨others, later⟩⟩
      refine ⟨if admitted then model :: others else others, ?_⟩
      rw [filterAvailable, asked, later]
      rfl

theorem filterAvailable_answers_iff {m : Monitor} {now : Instant} (alike : m.ReadAlike now)
    (models : List Model) :
    (∃ kept, m.filterAvailable now models = .ok kept) ↔ ∀ model ∈ models, ¬m.Stalls model := by
  rw [filterAvailable_answers_iff_admits]
  exact forall₂_congr fun model _ => admits_answers_iff alike model

end Monitor

/-! ### Every choice among models -/

namespace Selection

/-- Every choice among the models can be made. Routing may still stop where it scores them. -/
structure Succeeds (m : Monitor) (now : Instant) (models : List Model) : Prop where
  filter : ∃ kept, m.filterAvailable now models = .ok kept
  fallbacks : ∀ first, ∃ chain, fallbackChain m first models now = .ok chain
  recommendations : ∀ kind, ∃ chosen, recommended m kind models now = .ok chosen
  routing : ∀ t ledger ledger' fault, Faults (route m t models now) ledger fault ledger' →
    ∃ kept, m.filterAvailable now models = .ok kept ∧ Faults (rank m t kept now) ledger fault ledger'

/-- No choice can be made among the models, all end in the same fault. -/
structure Stops (m : Monitor) (now : Instant) (models : List Model) (fault : Fault) : Prop where
  filter : m.filterAvailable now models = .error fault
  fallbacks : ∀ first, fallbackChain m first models now = .error fault
  recommendations : ∀ kind, recommended m kind models now = .error fault
  routing : ∀ t ledger, Faults (route m t models now) ledger fault ledger

theorem succeeds_of_filter {m : Monitor} {now : Instant} {models kept : List Model}
    (filtered : m.filterAvailable now models = .ok kept) : Succeeds m now models where
  filter := ⟨kept, filtered⟩
  fallbacks first := ⟨_, by rw [fallbackChain, filtered]; rfl⟩
  recommendations kind := ⟨_, by rw [recommended, filtered]; rfl⟩
  routing t ledger ledger' fault stopped := by
    refine ⟨kept, filtered, ?_⟩
    cases models with
    | nil => simp [route, faults_bind] at stopped
    | cons first rest =>
      rcases faults_bind.mp stopped with stopped | ⟨available, _, answered, stopped⟩
      · cases filtered.symm.trans (faults_ofExcept.mp stopped).1
      · obtain ⟨found, rfl⟩ := answers_ofExcept.mp answered
        obtain rfl := Except.ok.inj (filtered.symm.trans found)
        split at stopped
        · simp [faults_bind] at stopped
        · rcases faults_bind.mp stopped with stopped | ⟨ranked, _, -, stopped⟩
          · exact stopped
          · cases ranked <;> simp [faults_bind] at stopped

theorem stops_of_filter {m : Monitor} {now : Instant} {models : List Model} {fault : Fault}
    (stopped : m.filterAvailable now models = .error fault) : Stops m now models fault where
  filter := stopped
  fallbacks first := by rw [fallbackChain, stopped]; rfl
  recommendations kind := by rw [recommended, stopped]; rfl
  routing t ledger := by
    cases models with
    | nil => cases stopped
    | cons first rest => exact faults_bind.mpr (.inl (faults_ofExcept.mpr ⟨stopped, rfl⟩))

theorem succeeds_or_stops (m : Monitor) (now : Instant) (models : List Model) :
    Succeeds m now models ∨ ∃ fault, Stops m now models fault := by
  cases filtered : m.filterAvailable now models with
  | ok kept => exact .inl (succeeds_of_filter filtered)
  | error fault => exact .inr ⟨fault, stops_of_filter filtered⟩

end Selection

/-! ### Runs -/

/-- The clock never goes back, and all of its readings are of one kind. -/
structure SteadyClock (readings : List Instant) : Prop where
  forward : readings.Pairwise fun earlier later => earlier.universal ≤ later.universal
  alike : readings.Pairwise fun earlier later => later.offset.isSome = earlier.offset.isSome

namespace Monitor

open HealthRecord Observation

/-- What the clock showed at the calls that read it. -/
def readings (calls : List Call) : List Instant :=
  calls.filterMap fun c => c.observation?.map Observation.now

theorem now_mem_readings {k : Key} {calls : List Call} {o : Observation} (member : o ∈ history k calls) :
    o.now ∈ readings calls := by
  obtain ⟨c, kept, observed⟩ := List.mem_filterMap.mp member
  have listed := (List.rtakeWhile_suffix _ _).mem kept
  exact List.mem_filterMap.mpr ⟨c, (List.mem_filter.mp listed).1, by rw [observed]; rfl⟩

theorem Mirrors.reflects {t : Thresholds} {calls : List Call} {m : Monitor} (mirrors : Mirrors t calls m)
    (valid : t.Valid) {k : Key} {r : HealthRecord} (held : m.record? k = some r) :
    r.Reflects t (history k calls) := by
  have replayed : m.recordOf k = replay t (history k calls) := mirrors.recordOf k
  rw [Monitor.recordOf, held, Option.getD_some] at replayed
  exact replayed ▸ replay_reflects valid _

theorem Mirrors.readAlike {t : Thresholds} {calls : List Call} {m : Monitor} (mirrors : Mirrors t calls m)
    (valid : t.Valid) {now : Instant} (clock : SteadyClock (readings calls ++ [now])) :
    m.ReadAlike now := by
  intro k r held failed failure
  rw [(mirrors.reflects valid held).lastFailure] at failure
  obtain ⟨o, last, rfl⟩ := Option.map_eq_some_iff.mp failure
  have member := (List.mem_filter.mp (List.mem_of_getLast? last)).1
  exact (List.pairwise_append.mp clock.alike).2.2 _ (now_mem_readings member) now List.mem_cons_self

theorem Mirrors.not_stalls {t : Thresholds} {calls : List Call} {m : Monitor}
    (mirrors : Mirrors t calls m) (valid : t.Valid)
    (short : min (t.unavailableStreak - 1) t.maxBackoffExponent ≤ Span.lastExponent) (model : Model) :
    ¬m.Stalls model := by
  rintro ⟨-, r, held, degraded, -, long⟩
  have reflects := mirrors.reflects valid held
  have below := (reflects.status.degraded.mp degraded).1
  rw [reflects.streak, mirrors.thresholds] at long
  -- A degraded streak is shorter than the one that makes a model unavailable.
  omega

def flaky : Model := { id := "m", contextLength := 1000, pricing := ⟨1.0, 1.0⟩ }

/-- The model fails over and over while the clock stands still. -/
def failing (n : Nat) : List Call := List.replicate n (.failure (.ofText "m") "timeout" ⟨0, some 0, none⟩)

theorem history_failing (n : Nat) :
    history (.text "m") (failing n) = List.replicate n (.failure ⟨0, some 0, none⟩) := by
  induction n with
  | zero => rfl
  | succ n ih =>
    rw [failing, List.replicate_succ', List.replicate_succ', ← ih]
    exact history_concat_own (by decide) _

theorem streak_failures (n : Nat) (now : Instant) :
    Observation.streak (List.replicate n (.failure now)) = n := by
  induction n with
  | zero => rfl
  | succ n ih => rw [List.replicate_succ', streak_concat_failure, ih]

theorem readings_failing (n : Nat) : readings (failing n) = List.replicate n ⟨0, some 0, none⟩ :=
  List.filterMap_replicate_of_some rfl

theorem steadyClock_still (n : Nat) (now : Instant) : SteadyClock (List.replicate n now) where
  forward := List.pairwise_replicate.mpr (.inr (Int.le_refl _))
  alike := List.pairwise_replicate.mpr (.inr rfl)

theorem Mirrors.failing_stalls {t : Thresholds} {m : Monitor} (valid : t.Valid)
    (mirrors : Mirrors t (failing (t.unavailableStreak - 1)) m)
    (long : Span.lastExponent < min (t.unavailableStreak - 1) t.maxBackoffExponent) :
    m.Stalls flaky := by
  have positive := valid.degraded_pos
  have ordered := valid.ordered
  have fails : t.unavailableStreak - 1 ≠ 0 := by omega
  have history := history_failing (t.unavailableStreak - 1)
  cases held : m.record? (.text "m") with
  | none =>
    have first : Call.failure (.ofText "m") "timeout" ⟨0, some 0, none⟩ ∈ failing (t.unavailableStreak - 1) :=
      List.mem_replicate.mpr ⟨fails, rfl⟩
    cases (mirrors.untouched _).mp held _ first
  | some r =>
    have reflects := mirrors.reflects valid held
    rw [history] at reflects
    have streak := streak_failures (t.unavailableStreak - 1) ⟨0, some 0, none⟩
    have failed : r.lastFailure.isSome = true := by
      rw [reflects.lastFailure, List.filter_replicate_of_pos rfl, List.getLast?_replicate, if_neg fails]
      rfl
    have degraded : r.status = .degraded := by
      refine reflects.status.degraded.mpr ⟨?_, .inl ?_⟩
      · omega
      · omega
    refine ⟨rfl, r, held, degraded, failed, ?_⟩
    rw [reflects.streak, streak, mirrors.thresholds]
    exact long

/-- Whatever a monitor goes through under a steady clock, every choice among any models can be made
exactly if the longest rest that a degraded model may take fits into a span. -/
theorem selection_answers_iff {m : Monitor} (fresh : m.records = []) (valid : m.thresholds.Valid) :
    (∀ calls now models, SteadyClock (readings calls ++ [now]) →
      ∃ m', Answers (sequence Call.step calls) m () m' ∧ Selection.Succeeds m' now models) ↔
    min (m.thresholds.unavailableStreak - 1) m.thresholds.maxBackoffExponent ≤ Span.lastExponent := by
  constructor
  · intro always
    by_contra short
    have clock : SteadyClock (readings (failing (m.thresholds.unavailableStreak - 1)) ++ [⟨0, some 0, none⟩]) := by
      rw [readings_failing, ← List.replicate_succ']
      exact steadyClock_still _ _
    obtain ⟨m', run, answers⟩ := always _ _ [flaky] clock
    obtain ⟨m'', run', mirrors⟩ := run_mirrors fresh (failing (m.thresholds.unavailableStreak - 1))
    obtain ⟨-, rfl⟩ := run.unique run'
    have usable := (filterAvailable_answers_iff (mirrors.readAlike valid clock) [flaky]).mp answers.filter
    exact usable flaky List.mem_cons_self (mirrors.failing_stalls valid (Nat.lt_of_not_le short))
  · intro short calls now models clock
    obtain ⟨m', run, mirrors⟩ := run_mirrors fresh calls
    obtain ⟨kept, filtered⟩ := (filterAvailable_answers_iff (mirrors.readAlike valid clock) models).mpr
      fun model _ => mirrors.not_stalls valid short model
    exact ⟨m', run, Selection.succeeds_of_filter filtered⟩

/-- Under these thresholds a model may fail for longer than it can rest. -/
def patient : Monitor := { thresholds := { unavailableStreak := 48, maxBackoffExponent := 47 } }

theorem patient_selection_stops : ∃ calls now models m' fault, SteadyClock (readings calls ++ [now]) ∧
    Answers (sequence Call.step calls) patient () m' ∧ Selection.Stops m' now models fault := by
  have valid : patient.thresholds.Valid := ⟨by decide, by decide⟩
  have not_always := mt (selection_answers_iff (m := patient) rfl valid).mp (by decide)
  push Not at not_always
  obtain ⟨calls, now, models, clock, fails⟩ := not_always
  obtain ⟨m', run, -⟩ := run_mirrors (m := patient) rfl calls
  rcases Selection.succeeds_or_stops m' now models with answers | ⟨fault, stops⟩
  · exact (fails m' run answers).elim
  · exact ⟨calls, now, models, m', fault, clock, run, stops⟩

end Monitor
end Switchboard

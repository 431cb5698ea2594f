import Switchboard.Proofs.Health.Tellings

/-!
Alerts on the health of models. `alerts_once_per_streak` says of every call what it writes, whatever the calls
before it were: a run of failures is reported once when it degrades its model and once when it makes the model
unavailable, and the success that ends it is a recovery.
-/

namespace Switchboard.Monitor

open HealthRecord Step Journal

/-! ### A run of failures -/

def Call.isFailure : Call → Bool
  | failure _ _ _ => true
  | _ => false

theorem Call.eq_failure {c : Call} (failed : c.isFailure = true) : ∃ id error now, c = failure id error now := by
  cases c with
  | failure id error now => exact ⟨id, error, now, rfl⟩
  | success id ms now => cases failed
  | reset id => cases failed

/-- Failures in a row, the first of which came after no failure. -/
structure InARow (earlier run : List Telling) : Prop where
  failed : ∀ x ∈ run, x.call.isFailure = true
  fresh : ∀ x, earlier.getLast? = some x → x.call.isFailure = false

/-- No failure since the last success. -/
structure Calm (r : HealthRecord) : Prop where
  streak : r.streak = 0
  working : r.status ≠ .degraded ∧ r.status ≠ .unavailable

theorem left_calm {t : Thresholds} {earlier run : List Telling} (connected : Connected t {} earlier)
    (row : InARow earlier run) : Calm (left {} earlier) := by
  rcases List.eq_nil_or_concat earlier with rfl | ⟨init, x, rfl⟩
  · exact ⟨rfl, HealthStatus.noConfusion, HealthStatus.noConfusion⟩
  · rw [List.concat_eq_append] at connected row ⊢
    obtain ⟨-, -, followed⟩ := connected_concat connected
    have spared := row.fresh x List.getLast?_concat
    rw [left_concat]
    cases called : x.call with
    | success id ms now =>
      rw [(followed.success id ms now called).1]
      exact ⟨rfl, HealthStatus.noConfusion, HealthStatus.noConfusion⟩
    | failure id error now =>
      rw [called] at spared
      cases spared
    | reset id =>
      rw [followed.reset (by rw [called]; rfl)]
      exact ⟨rfl, HealthStatus.noConfusion, HealthStatus.noConfusion⟩

/-- What a failure makes of the status, by the streak it lengthens. -/
theorem afterFailure_cases (r : HealthRecord) (now : Instant) (t : Thresholds) :
    (t.unavailableStreak ≤ r.streak + 1 ∧ (r.afterFailure now t).status = .unavailable) ∨
    (r.streak + 1 < t.unavailableStreak ∧ (r.afterFailure now t).status = .degraded) ∨
    (r.streak + 1 < t.unavailableStreak ∧ (r.afterFailure now t).status = r.status) := by
  rcases judge_cases (r.countFailure now).rated t with ⟨out, judged⟩ | ⟨inside, -, judged⟩ |
    ⟨inside, -, judged⟩
  · exact .inl ⟨out, judged⟩
  · exact .inr (.inl ⟨inside, judged⟩)
  · exact .inr (.inr ⟨inside, judged⟩)

/-- Where a run of failures has taken the record of its model. -/
structure RunsDown (t : Thresholds) (run : List Telling) (r : HealthRecord) : Prop where
  streak : r.streak = run.length
  unavailable : r.status = .unavailable ↔ t.unavailableStreak ≤ run.length
  degraded : r.status = .degraded ↔
    run.length < t.unavailableStreak ∧ ∃ y ∈ run, y.after.status = .degraded

theorem runsDown_nil {t : Thresholds} (valid : t.Valid) {r : HealthRecord} (calm : Calm r) :
    RunsDown t [] r := by
  have positive := valid.ordered
  constructor
  case streak => exact calm.streak
  case unavailable =>
    have short : ¬t.unavailableStreak ≤ 0 := by omega
    simp only [List.length_nil, calm.working.2, short]
  case degraded => simp [calm.working.1]

theorem runsDown_concat {t : Thresholds} {run : List Telling} {x : Telling} {now : Instant}
    (down : RunsDown t run x.before) (failed : x.after = x.before.afterFailure now t) :
    RunsDown t (run ++ [x]) x.after := by
  have longer : (run ++ [x]).length = run.length + 1 := List.length_append
  have somewhere : (∃ y ∈ run ++ [x], y.after.status = .degraded) ↔
      (∃ y ∈ run, y.after.status = .degraded) ∨ x.after.status = .degraded := by
    simp [or_and_right, exists_or]
  have judged := afterFailure_cases x.before now t
  rw [← failed, down.streak] at judged
  constructor
  case streak =>
    rw [failed, longer, ← down.streak]
    rfl
  case unavailable =>
    rw [longer]
    rcases judged with ⟨out, status⟩ | ⟨inside, status⟩ | ⟨inside, status⟩
    · simp [status, out]
    · have short : ¬t.unavailableStreak ≤ run.length + 1 := by omega
      simp [status, short]
    · rw [status, down.unavailable]
      omega
  case degraded =>
    rw [longer, somewhere]
    rcases judged with ⟨out, status⟩ | ⟨inside, status⟩ | ⟨inside, status⟩
    · have gone : ¬run.length + 1 < t.unavailableStreak := by omega
      simp [status, gone]
    · simp [status, inside]
    · have before : run.length < t.unavailableStreak := by omega
      rw [status, down.degraded]
      simp only [before, inside, true_and, or_self]

theorem runsDown_of_connected {t : Thresholds} (valid : t.Valid) {r : HealthRecord} (calm : Calm r)
    {run : List Telling} (connected : Connected t r run) (failed : ∀ x ∈ run, x.call.isFailure = true) :
    RunsDown t run (left r run) := by
  induction run using List.reverseRecOn with
  | nil => exact runsDown_nil valid calm
  | append_singleton run x ih =>
    obtain ⟨earlier, before, followed⟩ := connected_concat connected
    obtain ⟨id, error, now, called⟩ := Call.eq_failure (failed x List.mem_concat_self)
    have down := ih earlier fun y member => failed y (List.mem_append_left _ member)
    rw [← before] at down
    rw [left_concat]
    exact runsDown_concat down (followed.failure id error now called).1

/-! ### Alerts -/

def unavailableAlert (id : String) (failures : Nat) : Entry :=
  Channel.health.error s!"Model {id} marked as unavailable after {failures} consecutive failures"

def streakAlert (id : String) (failures : Nat) : Entry :=
  Channel.health.warning s!"Model {id} marked as degraded after {failures} consecutive failures"

def rateAlert (id : String) (rate : Float) : Entry :=
  Channel.health.warning
    s!"Model {id} marked as degraded due to low success rate: {Decimal.fixed 1 (rate * 100)}%"

/-- The streak is what is cited once it is long enough, and the success rate until then. -/
def degradedAlert (t : Thresholds) (id : String) (failures : Nat) (rate : Float) : Entry :=
  if t.degradedStreak ≤ failures then streakAlert id failures else rateAlert id rate

/-- The alert that belongs to a failure, by the failures in a row before it. -/
def dueAlert (t : Thresholds) (id : String) (before : List Telling) (x : Telling) : List Entry :=
  if before.length + 1 = t.unavailableStreak then [unavailableAlert id (before.length + 1)]
  else if x.after.status = .degraded ∧ ∀ y ∈ before, y.after.status ≠ .degraded then
    [degradedAlert t id (before.length + 1) x.after.successRate]
  else []

theorem failureEntries_due {t : Thresholds} {before : List Telling} {x : Telling} {now : Instant}
    (down : RunsDown t before x.before) (failed : x.after = x.before.afterFailure now t)
    (id error : String) : failureEntries id error x.before.status x.after t =
      failureNote id error :: dueAlert t id before x := by
  have here := runsDown_concat down failed
  have streak : x.after.streak = before.length + 1 := here.streak.trans List.length_append
  have judged := afterFailure_cases x.before now t
  rw [← failed, down.streak] at judged
  unfold failureEntries dueAlert
  rw [streak]
  refine congrArg (failureNote id error :: ·) ?_
  by_cases reaches : before.length + 1 = t.unavailableStreak
  · have out : x.after.status = .unavailable := here.unavailable.mpr (by simp [reaches])
    have previous : x.before.status ≠ .unavailable := fun gone => by
      have := down.unavailable.mp gone
      omega
    rw [if_neg (by rw [out]; exact previous.symm), if_pos out, if_pos reaches]
    rfl
  · rw [if_neg reaches]
    by_cases first : x.after.status = .degraded ∧ ∀ y ∈ before, y.after.status ≠ .degraded
    · have previous : x.before.status ≠ .degraded := fun fallen => by
        obtain ⟨-, y, member, degraded⟩ := down.degraded.mp fallen
        exact first.2 y member degraded
      have inside : x.after.status ≠ .unavailable := by
        rw [first.1]
        exact HealthStatus.noConfusion
      rw [if_pos first, if_neg (by rw [first.1]; exact previous.symm), if_neg inside, degradedAlert]
      split <;> rfl
    · rw [if_neg first, if_pos]
      rcases judged with ⟨out, status⟩ | ⟨inside, status⟩ | ⟨-, status⟩
      · rw [status, down.unavailable.mpr (by omega)]
      · -- Not the first one to find the model degraded: the failure before it left it so.
        have fallen : ∃ y ∈ before, y.after.status = .degraded := by
          by_contra none
          exact first ⟨status, fun y member degraded => none ⟨y, member, degraded⟩⟩
        rw [status, down.degraded.mpr ⟨by omega, fallen⟩]
      · exact status

/-- What is written beside the note of an outcome. -/
def Telling.alerts (x : Telling) : List Entry := x.entries.tail

/-- The alerts of failures in a row. -/
structure AlertsOnce (t : Thresholds) (run : List Telling) : Prop where
  entries : ∀ before x later id error now, run = before ++ x :: later → x.call = .failure id error now →
    x.entries = failureNote id.shown error :: dueAlert t id.shown before x
  errors : (run.flatMap Telling.alerts).countP (·.level = .error) =
    if t.unavailableStreak ≤ run.length then 1 else 0
  warnings : (run.flatMap Telling.alerts).countP (·.level = .warning) ≤
    if ∃ y ∈ run, y.after.status = .degraded then 1 else 0

theorem degradedAlert_level (t : Thresholds) (id : String) (failures : Nat) (rate : Float) :
    (degradedAlert t id failures rate).level = .warning := by
  unfold degradedAlert
  split <;> rfl

theorem errors_dueAlert (t : Thresholds) (id : String) (before : List Telling) (x : Telling) :
    (dueAlert t id before x).countP (·.level = .error) =
      if before.length + 1 = t.unavailableStreak then 1 else 0 := by
  have loud : (unavailableAlert id (before.length + 1)).level = .error := rfl
  have degraded := degradedAlert_level t id (before.length + 1) x.after.successRate
  unfold dueAlert
  split
  · rw [List.countP_singleton, loud]
    rfl
  · split
    · rw [List.countP_singleton, degraded]
      rfl
    · rfl

theorem warnings_dueAlert (t : Thresholds) (id : String) (before : List Telling) (x : Telling) :
    (dueAlert t id before x).countP (·.level = .warning) ≤
      if x.after.status = .degraded ∧ ∀ y ∈ before, y.after.status ≠ .degraded then 1 else 0 := by
  have loud : (unavailableAlert id (before.length + 1)).level = .error := rfl
  have degraded := degradedAlert_level t id (before.length + 1) x.after.successRate
  unfold dueAlert
  split
  · rw [List.countP_singleton, loud]
    exact Nat.zero_le _
  · split
    · rw [List.countP_singleton, degraded]
      exact Nat.le_refl 1
    · exact Nat.le_refl 0

theorem alertsOnce_nil {t : Thresholds} (valid : t.Valid) : AlertsOnce t [] where
  entries before x later id error now split := by simp at split
  errors := by
    have positive := valid.ordered
    exact (if_neg (by rw [List.length_nil]; omega)).symm
  warnings := Nat.zero_le _

theorem alertsOnce_concat {t : Thresholds} {run : List Telling} {x : Telling} {id : Handle}
    {error : String} {now : Instant} (once : AlertsOnce t run) (called : x.call = .failure id error now)
    (written : x.entries = failureNote id.shown error :: dueAlert t id.shown run x) :
    AlertsOnce t (run ++ [x]) := by
  have alerts : (run ++ [x]).flatMap Telling.alerts =
      run.flatMap Telling.alerts ++ dueAlert t id.shown run x := by
    rw [List.flatMap_append, List.flatMap_singleton, Telling.alerts, written, List.tail_cons]
  constructor
  case entries =>
    intro before y later id' error' now' split failed
    -- The failure in question is the new one, or one of the run before it.
    rcases List.eq_nil_or_concat later with rfl | ⟨init, z, rfl⟩
    · obtain ⟨rfl, same⟩ := List.append_inj' split rfl
      cases same
      rw [called] at failed
      cases failed
      exact written
    · rw [List.concat_eq_append, ← List.cons_append, ← List.append_assoc] at split
      obtain ⟨same, -⟩ := List.append_inj' split rfl
      exact once.entries before y init id' error' now' same failed
  case errors =>
    rw [alerts, List.countP_append, once.errors, errors_dueAlert, List.length_append, List.length_singleton]
    split <;> split <;> split <;> omega
  case warnings =>
    have due := warnings_dueAlert t id.shown run x
    have before := once.warnings
    rw [alerts, List.countP_append]
    by_cases fallen : ∃ y ∈ run, y.after.status = .degraded
    · obtain ⟨y, member, degraded⟩ := fallen
      rw [if_pos ⟨y, member, degraded⟩] at before
      rw [if_neg fun first => first.2 y member degraded] at due
      rw [if_pos ⟨y, List.mem_append_left _ member, degraded⟩]
      omega
    · rw [if_neg fallen] at before
      refine (Nat.add_le_add before due).trans ?_
      rw [Nat.zero_add]
      split
      next first => rw [if_pos ⟨x, List.mem_concat_self, first.1⟩]
      next => exact Nat.zero_le _

theorem alertsOnce_of_connected {t : Thresholds} (valid : t.Valid) {r : HealthRecord} (calm : Calm r)
    {run : List Telling} (connected : Connected t r run) (failed : ∀ x ∈ run, x.call.isFailure = true) :
    AlertsOnce t run := by
  induction run using List.reverseRecOn with
  | nil => exact alertsOnce_nil valid
  | append_singleton run x ih =>
    obtain ⟨earlier, before, followed⟩ := connected_concat connected
    obtain ⟨id, error, now, called⟩ := Call.eq_failure (failed x List.mem_concat_self)
    have others : ∀ y ∈ run, y.call.isFailure = true := fun y member => failed y (List.mem_append_left _ member)
    have down := runsDown_of_connected valid calm earlier others
    rw [← before] at down
    obtain ⟨after, written⟩ := followed.failure id error now called
    rw [failureEntries_due down after] at written
    exact alertsOnce_concat (ih earlier others) called written

theorem alertsOnce_of_calls {m : Monitor} (fresh : m.records = []) (valid : m.thresholds.Valid)
    (calls : List Call) {k : Key} {earlier run later : List Telling}
    (own : (tellings m calls).filter (·.call.reaches k) = earlier ++ run ++ later)
    (row : InARow earlier run) : AlertsOnce m.thresholds run := by
  have mirrors := mirrors_nil fresh
  have connected := own_connected mirrors.sound k calls
  rw [own, mirrors.recordOf] at connected
  obtain ⟨before, during⟩ := connected_append.mp (connected_append.mp connected).1
  exact alertsOnce_of_connected valid (left_calm before row) during row.failed

/-! ### Successes and resets -/

theorem mem_tellings {m : Monitor} (sound : m.Sound) {calls : List Call} {x : Telling}
    (member : x ∈ tellings m calls) :
    ∃ m' : Monitor, m'.Sound ∧ m'.thresholds = m.thresholds ∧ x = telling m' x.call := by
  induction calls generalizing m with
  | nil => cases member
  | cons c rest ih =>
    rcases List.mem_cons.mp member with rfl | later
    · exact ⟨m, sound, rfl, rfl⟩
    · rw [(step_answers sound c).2] at later
      obtain ⟨m', sound', thresholds, same⟩ := ih (effect_sound sound c) later
      exact ⟨m', sound', thresholds.trans (effect_thresholds m c), same⟩

theorem successEntries_eq (id : String) (ms : Float) (previous : HealthStatus) :
    successEntries id ms previous =
      (if previous = .degraded ∨ previous = .unavailable then [recoveryNote id previous] else []) ++
        [successNote id ms] := by
  cases previous <;> rfl

/-- What a success or a reset writes, and an outcome that is reported under no name. -/
structure Telling.Reports (x : Telling) : Prop where
  success : ∀ id ms now, x.call = .success id ms now → id.isSet = true →
    x.entries = latencyEntries id.shown ms ++
      (if x.before.status = .degraded ∨ x.before.status = .unavailable then
        [recoveryNote id.shown x.before.status] else []) ++ [successNote id.shown (clampLatency ms)]
  remark : x.call.isReset = true ∨ x.call.id.isSet = false → x.entries = [x.call.remark]

theorem reports_of_mem {m : Monitor} (sound : m.Sound) {calls : List Call} {x : Telling}
    (member : x ∈ tellings m calls) : x.Reports := by
  obtain ⟨m', sound', -, same⟩ := mem_tellings sound member
  constructor
  case success =>
    intro id ms now called named
    have reached : x.call.reaches x.call.id.key = true := by simp [called, Call.reaches, Call.id, named]
    have followed := telling_follows sound' reached
    rw [← same] at followed
    rw [(followed.success id ms now called).2, successEntries_eq, List.append_assoc]
  case remark =>
    intro unheard
    rw [same]
    exact step_remarks m' unheard

/-- Whatever is reported on any mix of models, the tellings are all that is written. Failures of a model in a
row bring one error, with the failure that makes it unavailable, and at most one warning that it is degraded,
with the first failure to find it so. A success is a recovery if it found its model degraded or
unavailable. -/
theorem alerts_once_per_streak {m : Monitor} (fresh : m.records = []) (valid : m.thresholds.Valid)
    (calls : List Call) :
    (∃ m', sequence Call.step calls m = ⟨.ok (), m', (tellings m calls).flatMap Telling.entries⟩) ∧
    (tellings m calls).map Telling.call = calls ∧
    (∀ k earlier run later, (tellings m calls).filter (·.call.reaches k) = earlier ++ run ++ later →
      InARow earlier run → AlertsOnce m.thresholds run) ∧
    ∀ x ∈ tellings m calls, x.Reports := by
  have sound := (mirrors_nil fresh).sound
  refine ⟨run_tells sound calls, map_call_tellings m calls, ?_, fun x member => reports_of_mem sound member⟩
  intro k earlier run later own row
  exact alertsOnce_of_calls fresh valid calls own row

/-- A model fails five times and recovers, another one works in between. -/
def outage : List Call :=
  [.failure (.ofText "a") "timeout" ⟨1, some 0, none⟩, .failure (.ofText "a") "timeout" ⟨2, some 0, none⟩,
    .success (.ofText "b") 80.0 ⟨3, some 0, none⟩, .failure (.ofText "a") "timeout" ⟨4, some 0, none⟩,
    .failure (.ofText "a") "timeout" ⟨5, some 0, none⟩, .failure (.ofText "a") "timeout" ⟨6, some 0, none⟩,
    .success (.ofText "a") 80.0 ⟨7, some 0, none⟩]

theorem five_failures_make_one_error : ∃ run later,
    (tellings {} outage).filter (·.call.reaches (.text "a")) = run ++ later ∧ run.length = 5 ∧
    InARow [] run ∧ (run.flatMap Telling.alerts).countP (·.level = .error) = 1 := by
  obtain ⟨-, calls, alerts, -⟩ := @alerts_once_per_streak {} rfl Thresholds.valid_default outage
  have ownCalls : ((tellings {} outage).filter (·.call.reaches (.text "a"))).map Telling.call =
      outage.filter (·.reaches (.text "a")) := by
    rw [← calls, List.filter_map, calls]
    rfl
  have alerts := alerts (.text "a") []
  generalize (tellings {} outage).filter (·.call.reaches (.text "a")) = own at ownCalls alerts ⊢
  have failures : (own.take 5).map Telling.call = (outage.filter (·.reaches (.text "a"))).take 5 := by
    rw [List.map_take, ownCalls]
  have length : (own.take 5).length = 5 := by
    rw [← List.length_map Telling.call, failures]
    decide
  have row : InARow [] (own.take 5) := by
    constructor
    case failed =>
      intro x member
      have failing : ((outage.filter (·.reaches (.text "a"))).take 5).all Call.isFailure = true := by decide
      rw [← failures] at failing
      exact List.all_eq_true.mp failing x.call (List.mem_map_of_mem member)
    case fresh =>
      intro x last
      cases last
  have split : own = own.take 5 ++ own.drop 5 := (List.take_append_drop 5 own).symm
  have once := alerts (own.take 5) (own.drop 5) split row
  refine ⟨own.take 5, own.drop 5, split, length, row, ?_⟩
  rw [once.errors, length]
  rfl

end Switchboard.Monitor

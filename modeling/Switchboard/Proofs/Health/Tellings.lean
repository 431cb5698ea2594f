import Switchboard.Proofs.Health.Calls

/-!
What calls on a monitor write. `run_tells` says that the tellings are all of it, and `own_connected` that each
begins with the record of its model as the last call on that model left it.
-/

namespace Switchboard.Monitor

open HealthRecord Step Journal

/-! ### The lines of the journal -/

def failureNote (id error : String) : Entry := Channel.health.warning s!"Recorded failure for {id}: {error}"

def successNote (id : String) (ms : Float) : Entry :=
  Channel.health.debug s!"Recorded success for {id}: {Decimal.fixed 2 ms}ms"

def recoveryNote (id : String) (previous : HealthStatus) : Entry :=
  Channel.health.info s!"Model {id} recovered from {previous.name} to healthy"

/-- What is said of a reset, and of an outcome that is reported under no name. -/
def Call.remark : Call → Entry
  | success _ _ _ => Channel.health.warning "Ignoring success recorded without a model id"
  | failure _ error _ =>
    Channel.health.warning s!"Ignoring failure recorded without a model id: {error}"
  | reset id => Channel.health.debug s!"Reset health for model: {id.shown}"

/-! ### What one call writes -/

theorem onRecord_eq {m : Monitor} {id : Handle} {step : Step HealthRecord Unit} {r : HealthRecord}
    (counted : step (m.recordOf id.key) = ⟨.ok (), r, []⟩) :
    onRecord id step m = ⟨.ok (), m.putRecord id r, []⟩ := by
  simp only [onRecord, Step.on, counted]

/-- The lines stay variables here: once they are the lines of a success, every comparison of two states works
out the text of the latency. -/
theorem reported_eq {m : Monitor} {id : Handle} {step : Thresholds → Step HealthRecord Unit}
    {r : HealthRecord} (counted : step m.thresholds (m.recordOf id.key) = ⟨.ok (), r, []⟩)
    (front : List Entry) (back : Monitor → List Entry) :
    (do
      Step.write front
      let m ← Step.get
      onRecord id (step m.thresholds)
      Step.write (back m) : Step Monitor Unit) m = ⟨.ok (), m.putRecord id r, front ++ back m⟩ := by
  have written : (Step.write front : Step Monitor Unit) m = ⟨.ok (), m, front⟩ := rfl
  have got : (Step.get : Step Monitor Monitor) m = ⟨.ok m, m, []⟩ := rfl
  rw [bind_apply_ok written, bind_apply_ok got, bind_apply_ok (onRecord_eq counted)]
  rfl

theorem recordSuccess_eq {m : Monitor} (sound : m.Sound) {id : Handle} (named : id.isSet = true)
    (ms : Float) (now : Instant) : recordSuccess id ms now m =
      ⟨.ok (), m.observed id (.success (clampLatency ms) now), latencyEntries id.shown ms ++
        successEntries id.shown (clampLatency ms) (m.recordOf id.key).status⟩ := by
  have counted := success_eq (sound id.key) (clampLatency ms) now m.thresholds
  unfold recordSuccess
  rw [named, Bool.not_true, if_neg Bool.false_ne_true]
  exact @reported_eq m id (HealthRecord.success (clampLatency ms) now) _ counted (latencyEntries id.shown ms)
    fun m => successEntries id.shown (clampLatency ms) (m.recordOf id.key).status

theorem recordFailure_eq {m : Monitor} (sound : m.Sound) {id : Handle} (named : id.isSet = true)
    (error : String) (now : Instant) : recordFailure id error now m =
      ⟨.ok (), m.observed id (.failure now), failureEntries id.shown error (m.recordOf id.key).status
        ((m.recordOf id.key).afterFailure now m.thresholds) m.thresholds⟩ := by
  have kept : onRecord id (HealthRecord.failure now m.thresholds) m =
      ⟨.ok (), m.observed id (.failure now), []⟩ :=
    onRecord_eq (failure_eq (sound id.key) now m.thresholds)
  have held : (m.observed id (.failure now)).recordOf id.key =
      (m.recordOf id.key).afterFailure now m.thresholds :=
    (recordOf_putRecord m id _ id.key).trans (if_pos rfl)
  rw [recordFailure, named, Bool.not_true, if_neg Bool.false_ne_true]
  show Step.andThen _ _ m = _
  simp only [Step.andThen, write, bind, Step.get, kept, held, List.nil_append]

theorem step_remarks (m : Monitor) {c : Call} (unheard : c.isReset = true ∨ c.id.isSet = false) :
    (c.step m).journal = [c.remark] := by
  cases c with
  | reset id => rfl
  | success id ms now =>
    have unnamed : id.isSet = false := unheard.resolve_left Bool.false_ne_true
    show (recordSuccess id ms now m).journal = _
    rw [recordSuccess, unnamed, Bool.not_false, if_pos rfl]
    rfl
  | failure id error now =>
    have unnamed : id.isSet = false := unheard.resolve_left Bool.false_ne_true
    show (recordFailure id error now m).journal = _
    rw [recordFailure, unnamed, Bool.not_false, if_pos rfl]
    rfl

/-! ### What many calls write -/

/-- A call, what it wrote, and the record of its model before and after it. -/
structure Telling where
  call : Call
  before : HealthRecord
  entries : List Entry
  after : HealthRecord

def telling (m : Monitor) (c : Call) : Telling where
  call := c
  before := m.recordOf c.id.key
  entries := (c.step m).journal
  after := (c.step m).state.recordOf c.id.key

def tellings (m : Monitor) : List Call → List Telling
  | [] => []
  | c :: rest => telling m c :: tellings (c.step m).state rest

theorem map_call_tellings (m : Monitor) (calls : List Call) : (tellings m calls).map Telling.call = calls := by
  induction calls generalizing m with
  | nil => rfl
  | cons c rest ih => exact congrArg (c :: ·) (ih _)

theorem step_ok {m : Monitor} (sound : m.Sound) (c : Call) :
    c.step m = ⟨.ok (), c.effect m, (c.step m).journal⟩ := by
  obtain ⟨answer, state⟩ := step_answers sound c
  rw [← answer, ← state]

/-- The tellings are all that a run of calls writes. -/
theorem run_tells {m : Monitor} (sound : m.Sound) (calls : List Call) :
    ∃ m', sequence Call.step calls m = ⟨.ok (), m', (tellings m calls).flatMap Telling.entries⟩ := by
  induction calls generalizing m with
  | nil => exact ⟨m, rfl⟩
  | cons c rest ih =>
    have first := step_ok sound c
    obtain ⟨m', run⟩ := ih (effect_sound sound c)
    refine ⟨m', ?_⟩
    rw [Step.sequence, bind_apply_ok first, run, tellings, List.flatMap_cons, (step_answers sound c).2]
    rfl

/-- The call did to the record that it found what a call of its kind does, and said so. -/
structure Telling.Follows (t : Thresholds) (x : Telling) : Prop where
  success : ∀ id ms now, x.call = .success id ms now → x.after = x.before.afterSuccess (clampLatency ms) now t ∧
    x.entries = latencyEntries id.shown ms ++ successEntries id.shown (clampLatency ms) x.before.status
  failure : ∀ id error now, x.call = .failure id error now → x.after = x.before.afterFailure now t ∧
    x.entries = failureEntries id.shown error x.before.status x.after t
  reset : x.call.isReset = true → x.after = {}

theorem telling_follows {m : Monitor} (sound : m.Sound) {c : Call} (reached : c.reaches c.id.key = true) :
    (telling m c).Follows m.thresholds := by
  constructor
  case success =>
    intro id ms now called
    obtain rfl : c = .success id ms now := called
    have named : id.isSet = true := by simpa [Call.reaches, Call.isReset, Call.id] using reached
    have run := recordSuccess_eq sound named ms now
    refine ⟨?_, congrArg Outcome.journal run⟩
    show (recordSuccess id ms now m).state.recordOf id.key = _
    rw [run]
    exact (recordOf_putRecord m id _ id.key).trans (if_pos rfl)
  case failure =>
    intro id error now called
    obtain rfl : c = .failure id error now := called
    have named : id.isSet = true := by simpa [Call.reaches, Call.isReset, Call.id] using reached
    have run := recordFailure_eq sound named error now
    have after : (telling m (.failure id error now)).after =
        (m.recordOf id.key).afterFailure now m.thresholds := by
      show (recordFailure id error now m).state.recordOf id.key = _
      rw [run]
      exact (recordOf_putRecord m id _ id.key).trans (if_pos rfl)
    refine ⟨after, ?_⟩
    rw [after]
    exact congrArg Outcome.journal run
  case reset =>
    intro undone
    cases c with
    | success id ms now => cases undone
    | failure id error now => cases undone
    | reset id => exact (recordOf_putRecord m id {} id.key).trans (if_pos rfl)

/-- Each call found the record that the one before it left, the first one this record. -/
def Connected (t : Thresholds) : HealthRecord → List Telling → Prop
  | _, [] => True
  | r, x :: rest => x.before = r ∧ x.Follows t ∧ Connected t x.after rest

/-- The record that is left in the end. -/
def left : HealthRecord → List Telling → HealthRecord
  | r, [] => r
  | _, x :: rest => left x.after rest

theorem connected_append {t : Thresholds} {r : HealthRecord} {xs ys : List Telling} :
    Connected t r (xs ++ ys) ↔ Connected t r xs ∧ Connected t (left r xs) ys := by
  induction xs generalizing r with
  | nil => simp [Connected, left]
  | cons x rest ih => simp [Connected, left, ih, and_assoc]

theorem left_concat (r : HealthRecord) (xs : List Telling) (x : Telling) : left r (xs ++ [x]) = x.after := by
  induction xs generalizing r with
  | nil => rfl
  | cons y rest ih => exact ih _

theorem connected_concat {t : Thresholds} {r : HealthRecord} {xs : List Telling} {x : Telling}
    (connected : Connected t r (xs ++ [x])) : Connected t r xs ∧ x.before = left r xs ∧ x.Follows t := by
  obtain ⟨earlier, before, followed, -⟩ := connected_append.mp connected
  exact ⟨earlier, before, followed⟩

/-- The calls on other models come between those on one model, but leave its record alone. -/
theorem own_connected {m : Monitor} (sound : m.Sound) (k : Key) (calls : List Call) :
    Connected m.thresholds (m.recordOf k) ((tellings m calls).filter fun x => x.call.reaches k) := by
  induction calls generalizing m with
  | nil => trivial
  | cons c rest ih =>
    have later := ih (effect_sound sound c)
    rw [effect_thresholds] at later
    have state := (step_answers sound c).2
    rw [tellings, List.filter_cons, state]
    cases reached : c.reaches k with
    | true =>
      obtain rfl := reaches_key reached
      rw [show (telling m c).call.reaches c.id.key = true from reached, if_pos rfl]
      have after : (telling m c).after = (c.effect m).recordOf c.id.key := by rw [telling, state]
      exact ⟨rfl, telling_follows sound reached, after ▸ later⟩
    | false =>
      have other : (c.effect m).recordOf k = m.recordOf k := by
        rw [recordOf, record?_effect_other reached, recordOf]
      rw [show (telling m c).call.reaches k = false from reached, if_neg Bool.false_ne_true]
      exact other ▸ later

end Switchboard.Monitor

import Switchboard.Proofs.Health.Backoff
import Switchboard.Proofs.Relay.Choice

/-!
Recovery by waiting. As long as nothing is recorded, time can only make more models available: a degraded
model from the end of its rest on, any other model at once or not at all. `availability_grows` compares two
readings of the clock, which may be of different offsets.

Time between two readings of one zone is measured by what its clocks show, although they may be put forward or
back in between, and by universal time between any others. A failure and two readings after it are of one
awareness if the same rule measures all three times between them; `since_adds_iff` says that only then they add
up.
-/

namespace Switchboard

open Step

namespace Instant

theorem sharesZone_iff {t earlier : Instant} :
    t.sharesZone earlier = true ↔ t.zone.isSome = true ∧ t.zone = earlier.zone := by
  simp [sharesZone]

theorem sharesZone_trans {t t' t'' : Instant} (shared : t''.sharesZone t' = true) (shared' : t'.sharesZone t = true) :
    t''.sharesZone t = true := by
  rw [sharesZone_iff] at shared shared' ⊢
  exact ⟨shared.1, shared.2.trans shared'.2⟩

theorem sharesZone_symm {t t' : Instant} (shared : t'.sharesZone t = true) : t.sharesZone t' = true := by
  rw [sharesZone_iff] at shared ⊢
  exact ⟨shared.2 ▸ shared.1, shared.2.symm⟩

/-- No clock of a zone was put forward or back between the two readings of it. -/
def Unmoved (t earlier : Instant) : Prop := t.sharesZone earlier = true → t.offset = earlier.offset

theorem since_of_zone {t earlier : Instant} (shared : t.sharesZone earlier = true) :
    t.since earlier = .ok (t.reading - earlier.reading) := if_pos shared

theorem since_of_apart {t earlier : Instant} (alike : t.offset.isSome = earlier.offset.isSome)
    (apart : ¬t.sharesZone earlier = true) : t.since earlier = .ok (t.universal - earlier.universal) := by
  rw [since, if_neg apart, if_pos alike]

/-- Universal time measures the time between two readings, unless a clock was moved in between. -/
theorem since_universal_iff {t earlier : Instant} (alike : t.offset.isSome = earlier.offset.isSome) :
    t.since earlier = .ok (t.universal - earlier.universal) ↔ t.Unmoved earlier := by
  unfold Unmoved
  by_cases shared : t.sharesZone earlier = true
  · rw [since_of_zone shared, Except.ok.injEq, universal, universal]
    constructor
    · intro same _
      cases offset : t.offset <;> cases offset' : earlier.offset <;> simp_all
      omega
    · intro same
      rw [same shared]
      omega
  · simp [since_of_apart alike shared, shared]

/-- The time between any two of three readings is measured by one rule: by what is shown, if they are readings of
one zone, and otherwise by universal time. Where no offset is known the two are the same. -/
structure OneAwareness (first second third : Instant) : Prop where
  known : second.offset.isSome = first.offset.isSome
  known' : third.offset.isSome = second.offset.isSome
  rule : (second.sharesZone first = true ∧ third.sharesZone second = true) ∨
    (second.Unmoved first ∧ third.Unmoved second ∧ third.Unmoved first)

theorem OneAwareness.adds {first second third : Instant} (same : OneAwareness first second third) :
    ∃ before after, second.since first = .ok before ∧ third.since second = .ok after ∧
      third.since first = .ok (before + after) := by
  obtain ⟨known, known', ⟨shared, shared'⟩ | ⟨unmoved, unmoved', unmoved''⟩⟩ := same
  · refine ⟨_, _, since_of_zone shared, since_of_zone shared', ?_⟩
    rw [since_of_zone (sharesZone_trans shared' shared)]
    congr 1
    omega
  · refine ⟨_, _, (since_universal_iff known).mpr unmoved, (since_universal_iff known').mpr unmoved', ?_⟩
    rw [(since_universal_iff (known'.trans known)).mpr unmoved'']
    congr 1
    omega

/-- Only readings of one awareness have times between them that add up. -/
theorem since_adds_iff {first second third : Instant} (known : second.offset.isSome = first.offset.isSome)
    (known' : third.offset.isSome = second.offset.isSome) :
    (∃ before after, second.since first = .ok before ∧ third.since second = .ok after ∧
      third.since first = .ok (before + after)) ↔ OneAwareness first second third := by
  refine ⟨?_, OneAwareness.adds⟩
  rintro ⟨before, after, early, late, all⟩
  refine ⟨known, known', or_iff_not_imp_left.mpr fun parted => ?_⟩
  rw [← since_universal_iff known, ← since_universal_iff known', ← since_universal_iff (known'.trans known)]
  -- At most two of the three are of one zone, so that universal time measures at least two of the times.
  by_cases shared : second.sharesZone first = true
  · have late' := since_of_apart known' fun shared' => parted ⟨shared, shared'⟩
    have all' := since_of_apart (known'.trans known) fun shared' =>
      parted ⟨shared, sharesZone_trans shared' (sharesZone_symm shared)⟩
    have after_eq := Except.ok.inj (late.symm.trans late')
    have sum_eq := Except.ok.inj (all.symm.trans all')
    refine ⟨?_, late', all'⟩
    rw [early]
    congr 1
    omega
  · have early' := since_of_apart known shared
    have before_eq := Except.ok.inj (early.symm.trans early')
    by_cases shared' : third.sharesZone second = true
    · have all' := since_of_apart (known'.trans known) fun shared'' =>
        shared (sharesZone_trans (sharesZone_symm shared') shared'')
      have sum_eq := Except.ok.inj (all.symm.trans all')
      refine ⟨early', ?_, all'⟩
      rw [late]
      congr 1
      omega
    · have late' := since_of_apart known' shared'
      have after_eq := Except.ok.inj (late.symm.trans late')
      refine ⟨early', late', ?_⟩
      rw [all]
      congr 1
      omega

end Instant

namespace HealthRecord

/-- How many microseconds a degraded model rests. -/
def rest (r : HealthRecord) (t : Thresholds) : Int :=
  (Nat.pow 2 (min r.streak t.maxBackoffExponent) * Span.microsPerSecond : Nat)

/-- The last failure and the two readings are of one awareness. -/
def OneAwareness (r : HealthRecord) (now later : Instant) : Prop :=
  ∀ failed, r.lastFailure = some failed → Instant.OneAwareness failed now later

theorem OneAwareness.alike {r : HealthRecord} {now later : Instant} (same : r.OneAwareness now later) :
    r.ReadAlike now :=
  fun failed failure => (same failed failure).known

theorem OneAwareness.alike' {r : HealthRecord} {now later : Instant} (same : r.OneAwareness now later) :
    r.ReadAlike later :=
  fun failed failure => (same failed failure).known'.trans (same failed failure).known

theorem shouldRetry_degraded {r : HealthRecord} {now failed : Instant} {t : Thresholds} {elapsed : Int}
    (degraded : r.status = .degraded) (failure : r.lastFailure = some failed)
    (since : now.since failed = .ok elapsed) (short : ¬r.Overlong t) :
    r.shouldRetry now t = .ok (decide (r.rest t ≤ elapsed)) := by
  have exponent : min r.streak t.maxBackoffExponent ≤ Span.lastExponent := by
    refine Nat.le_of_not_lt fun long => short ⟨degraded, ?_, long⟩
    rw [failure]
    rfl
  have wait : r.backoff t = .ok (r.rest t) := Span.ofPowerOfTwo_short exponent
  simp only [shouldRetry, degraded, failure, wait, since, bind, Except.bind, pure, Except.pure]

/-- Once a model may be tried again, it may be later on. -/
theorem shouldRetry_later {r : HealthRecord} {now later : Instant} {t : Thresholds} {passed : Int}
    (clock : later.since now = .ok passed) (forward : 0 ≤ passed) (same : r.OneAwareness now later)
    (usable : r.status ≠ .unavailable) (retried : r.shouldRetry now t = .ok true) :
    r.shouldRetry later t = .ok true := by
  have short := (shouldRetry_answers_iff same.alike t usable).mp ⟨true, retried⟩
  cases status : r.status with
  | healthy => simp [shouldRetry, status]
  | unknown => simp [shouldRetry, status]
  | unavailable => exact (usable status).elim
  | degraded =>
    cases failure : r.lastFailure with
    | none => simp [shouldRetry, status, failure]
    | some failed =>
      obtain ⟨elapsed, passed', since, clock', since'⟩ := (same failed failure).adds
      obtain rfl := Except.ok.inj (clock.symm.trans clock')
      -- The rest is as long as it was, since nothing was recorded.
      rw [shouldRetry_degraded status failure since short] at retried
      have rested : r.rest t ≤ elapsed := of_decide_eq_true (Except.ok.inj retried)
      have rested' : r.rest t ≤ elapsed + passed := by omega
      rw [shouldRetry_degraded status failure since' short, decide_eq_true rested']

end HealthRecord

namespace Monitor

open HealthRecord

/-- All failures that the monitor knows of are of one awareness with the two readings. -/
def OneAwareness (m : Monitor) (now later : Instant) : Prop :=
  ∀ k r, m.record? k = some r → r.OneAwareness now later

theorem OneAwareness.alike {m : Monitor} {now later : Instant} (same : m.OneAwareness now later) :
    m.ReadAlike now :=
  fun k r held => (same k r held).alike

theorem OneAwareness.alike' {m : Monitor} {now later : Instant} (same : m.OneAwareness now later) :
    m.ReadAlike later :=
  fun k r held => (same k r held).alike'

theorem allows_iff {m : Monitor} {now : Instant} {model : Model} :
    m.allows now model = true ↔ m.admits model now = .ok true := by
  unfold allows
  cases m.admits model now with
  | error fault => simp [Except.toOption]
  | ok admitted => simp [Except.toOption]

theorem allows_unseen {m : Monitor} {model : Model} (now : Instant) (offered : model.available = true)
    (unseen : m.record? model.key = none) : m.allows now model = true := by
  simp [allows_iff, admits, isAvailable, offered, unseen]

theorem allows_seen_iff {m : Monitor} {now : Instant} {model : Model} {r : HealthRecord}
    (offered : model.available = true) (held : m.record? model.key = some r) :
    m.allows now model = true ↔ r.status ≠ .unavailable ∧ r.shouldRetry now m.thresholds = .ok true := by
  by_cases out : r.status = .unavailable
  · simp [allows_iff, admits, isAvailable, offered, held, out]
  · simp [allows_iff, admits, isAvailable, offered, held, out]

theorem offered_of_allows {m : Monitor} {now : Instant} {model : Model} (allowed : m.allows now model = true) :
    model.available = true := by
  by_contra withdrawn
  simp [allows_iff, admits, withdrawn] at allowed

theorem allows_later {m : Monitor} {now later : Instant} {model : Model} {passed : Int}
    (clock : later.since now = .ok passed) (forward : 0 ≤ passed) (same : m.OneAwareness now later)
    (allowed : m.allows now model = true) : m.allows later model = true := by
  have offered := offered_of_allows allowed
  cases held : m.record? model.key with
  | none => exact allows_unseen later offered held
  | some r =>
    obtain ⟨usable, retried⟩ := (allows_seen_iff offered held).mp allowed
    have retried' := shouldRetry_later clock forward (same _ r held) usable retried
    exact (allows_seen_iff offered held).mpr ⟨usable, retried'⟩

/-- Who is chosen from a list of models at a reading of the clock. -/
structure Chosen (m : Monitor) (now : Instant) (models chosen : List Model) : Prop where
  filtered : chosen = models.filter (m.allows now)
  offered : ∀ model ∈ chosen, model.available = true
  unavailable : ∀ model ∈ chosen, ∀ r, m.record? model.key = some r → r.status ≠ .unavailable
  unseen : ∀ model ∈ models, model.available = true → m.record? model.key = none → model ∈ chosen
  sound : ∀ model ∈ models, model.available = true → ∀ r, m.record? model.key = some r →
    r.status = .healthy ∨ r.status = .unknown → model ∈ chosen
  unfailed : ∀ model ∈ models, model.available = true → ∀ r, m.record? model.key = some r →
    r.status = .degraded → r.lastFailure = none → model ∈ chosen
  rested : ∀ model ∈ models, model.available = true → ∀ r, m.record? model.key = some r →
    r.status = .degraded → ∀ failed, r.lastFailure = some failed →
    ∃ elapsed, now.since failed = .ok elapsed ∧ (model ∈ chosen ↔ r.rest m.thresholds ≤ elapsed)

theorem chosen_allows {m : Monitor} {now : Instant} {models : List Model} (alike : m.ReadAlike now)
    (short : ∀ model ∈ models, ¬m.Stalls model) :
    Chosen m now models (models.filter (m.allows now)) := by
  constructor
  case filtered => rfl
  case offered =>
    intro model member
    exact offered_of_allows (List.mem_filter.mp member).2
  case unavailable =>
    intro model member r held
    have allowed := (List.mem_filter.mp member).2
    exact ((allows_seen_iff (offered_of_allows allowed) held).mp allowed).1
  case unseen =>
    intro model listed offered unseen
    exact List.mem_filter.mpr ⟨listed, allows_unseen now offered unseen⟩
  case sound =>
    intro model listed offered r held sound
    refine List.mem_filter.mpr ⟨listed, (allows_seen_iff offered held).mpr ?_⟩
    rcases sound with status | status <;> simp [HealthRecord.shouldRetry, status]
  case unfailed =>
    intro model listed offered r held status unfailed
    refine List.mem_filter.mpr ⟨listed, (allows_seen_iff offered held).mpr ?_⟩
    simp [HealthRecord.shouldRetry, status, unfailed]
  case rested =>
    intro model listed offered r held status failed failure
    have countable : ¬r.Overlong m.thresholds := fun long => short model listed ⟨offered, r, held, long⟩
    obtain ⟨elapsed, since⟩ := Instant.since_answers (alike _ r held failed failure)
    refine ⟨elapsed, since, ?_⟩
    rw [List.mem_filter, allows_seen_iff offered held, shouldRetry_degraded status failure since countable]
    simp [listed, status]

def minutes (n : Int) : Int := n * 60000000

def restingRecord : HealthRecord :=
  { status := .degraded, streak := 2, total := 2, lastFailure := some ⟨minutes 90, some (minutes 30), none⟩ }

def resting : Monitor where
  records := [(.text "resting", .text "resting", restingRecord),
    (.text "down", .text "down", { status := .unavailable, streak := 5, total := 5 })]

def named (id : String) : Model := { id, contextLength := 8000, pricing := ⟨1.0, 2.0⟩ }

theorem resting_failures {k : Key} {r : HealthRecord} (held : resting.record? k = some r)
    (failed : r.lastFailure.isSome = true) : r = restingRecord := by
  obtain ⟨e, found, rfl⟩ := Option.map_eq_some_iff.mp held
  have member := Entries.mem_of_get? found
  simp only [resting, List.mem_cons, Prod.mk.injEq, List.not_mem_nil, or_false] at member
  rcases member with ⟨-, rfl⟩ | ⟨-, rfl⟩
  · rfl
  · cases failed

/-- Right before the end of the rest, on a clock that lags behind. -/
def lagging : Instant := ⟨minutes 50 + 3999999, some (minutes (-10)), none⟩

/-- At the end of the rest, on a clock that is ahead. -/
def leading : Instant := ⟨minutes 180 + 4000000, some (minutes 120), none⟩

theorem resting_oneAwareness : resting.OneAwareness lagging leading := by
  intro k r held failed failure
  obtain rfl := resting_failures held (by rw [failure]; rfl)
  cases failure
  exact ⟨rfl, rfl, .inr ⟨nofun, nofun, nofun⟩⟩

/-- The clocks of a zone are put forward one second after a failure that was read from them. To a clock of the zone
the rest is over with that second, to a clock elsewhere it is not, one second later. -/
example :
    let failed : Instant := ⟨minutes 120 - 1000000, some (minutes 60), some "home"⟩
    let m : Monitor := { records := [(.text "m", .text "m", { restingRecord with lastFailure := some failed })] }
    let now : Instant := ⟨minutes 180, some (minutes 120), some "home"⟩
    let later : Instant := ⟨minutes 60 + 1000000, some 0, none⟩
    later.since now = .ok 1000000 ∧ m.allows now (named "m") = true ∧ m.allows later (named "m") = false := by
  intro failed m now later
  refine ⟨rfl, ?_, ?_⟩
  · decide
  · decide

end Monitor
end Switchboard

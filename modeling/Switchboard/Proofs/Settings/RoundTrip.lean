import Switchboard.Proofs.Binary64.Order
import Switchboard.Proofs.Health.Thresholds
import Switchboard.Proofs.Settings.Precedence

/-!
Settings that were loaded are within their limits, and loading what was written of them gives the same
settings: whatever form a value had, it is in its own form from the first load on.
-/

namespace Switchboard

open Reader Reading Step

/-! ### Values -/

namespace Reader

theorem bool_written (b : Bool) : bool (.bool b) = .good b := rfl

theorem text_written (s : String) : text (.text s) = .good s := rfl

theorem nat_written (n : Nat) : nat [.atLeast 0] (.int n) = .good n := nat_of_atLeast (Nat.zero_le n)

theorem amount_written {x : Float} (within : 0.0 ≤ x) : float [.atLeast 0] (.float x) = .good x :=
  float_of_admitted (List.forall_mem_singleton.mpr (admits_atLeast_zero.mpr within))

theorem positive_written {x : Float} (within : 0.0 < x) : float [.above 0] (.float x) = .good x :=
  float_of_admitted (List.forall_mem_singleton.mpr (admits_above_zero.mpr within))

theorem weight_written {x : Float} (within : 0.0 < x ∧ x ≤ 1.0) :
    float [.atMost 1, .above 0] (.float x) = .good x := by
  refine float_of_admitted (List.forall_mem_cons.mpr ⟨admits_atMost_one.mpr within.2, ?_⟩)
  exact List.forall_mem_singleton.mpr (admits_above_zero.mpr within.1)

theorem entries_text_written (es : Entries String String) :
    entries text (.object (es.map fun e => (e.1, .text e.2))) = .good es := by
  unfold entries
  dsimp only
  induction es with
  | nil => rfl
  | cons e rest ih => exact seq_of_good rfl ih

theorem list_object_written (ms : List (List (String × Data))) :
    list object (.list (ms.map .object)) = .good ms := by
  unfold list
  dsimp only
  generalize 0 = n
  induction ms generalizing n with
  | nil => rfl
  | cons m rest ih => exact seq_of_good rfl (ih (n + 1))

end Reader

/-! ### Sections -/

/-- Every limit that is declared for the budget. -/
structure BudgetSettings.InBounds (s : BudgetSettings) : Prop where
  monthly : 0.0 ≤ s.monthly

/-- Every limit that is declared for the rules of health. -/
structure HealthSettings.InBounds (s : HealthSettings) : Prop where
  minSuccessRate : 0.0 ≤ s.minSuccessRate ∧ s.minSuccessRate ≤ 1.0
  maxResponseMs : 0.0 < s.maxResponseMs
  thresholds : s.thresholds.InBounds

/-- Every limit that is declared for the settings. The journal has none but that its counts are not below
zero, and of the models nothing is asked here. -/
structure Settings.InBounds (s : Settings) : Prop where
  budget : s.budget.InBounds
  health : s.health.InBounds

namespace BudgetSettings

theorem inBounds_default : InBounds {} := ⟨by decide +kernel⟩

theorem inBounds_of_good {d : Data} {s : BudgetSettings} (h : reader d = .good s) : s.InBounds := by
  obtain ⟨fs, -, read⟩ := record_good h
  obtain ⟨monthly, amount, rfl⟩ := map_good read
  exact ⟨field_holds inBounds_default.monthly (fun _ _ => float_atLeast_zero) amount⟩

theorem reads_written {s : BudgetSettings} (within : s.InBounds) : reader s.toData = .good s :=
  map_of_good (field_of_good (amount_written within.monthly) rfl)

end BudgetSettings

namespace Thresholds

theorem reads_written {t : Thresholds} (within : t.InBounds) : reader t.toData = .good t := by
  have unavailable : 1 ≤ t.unavailableStreak :=
    Nat.le_of_lt (Nat.lt_of_le_of_lt within.degraded_pos within.ordered)
  unfold reader Reader.record toData fields
  dsimp only
  refine (andThen_of_good (a := t) ?_).trans (if_pos within.ordered)
  refine seq_of_good (seq_of_good (seq_of_good (seq_of_good (seq_of_good (seq_of_good (seq_of_good (map_of_good
    (field_of_good (nat_of_atLeast unavailable) ?_))
    (field_of_good (nat_of_atLeast within.degraded_pos) ?_))
    (field_of_good (share_of_within within.lowRate) ?_))
    (field_of_good (nat_of_atLeast within.lowRateRequests) ?_))
    (field_of_good (nat_written t.maxBackoffExponent) ?_))
    (field_of_good (amount_written within.cooldown) ?_))
    (field_of_good (weight_written within.weight) ?_))
    (field_of_good (positive_written within.slow) ?_)
  all_goals simp [Entries.get?]

end Thresholds

namespace HealthSettings

theorem inBounds_default : InBounds {} :=
  ⟨⟨by decide +kernel, by decide +kernel⟩, by decide +kernel, Thresholds.inBounds_default⟩

theorem inBounds_of_good {d : Data} {s : HealthSettings} (h : reader d = .good s) : s.InBounds := by
  obtain ⟨fs, -, read⟩ := record_good h
  obtain ⟨_, thresholds, h₁, streaks, rfl⟩ := seq_good read
  obtain ⟨_, response, h₂, longest, rfl⟩ := seq_good h₁
  obtain ⟨rate, rates, rfl⟩ := map_good h₂
  constructor
  case minSuccessRate =>
    exact field_holds (P := fun x => 0.0 ≤ x ∧ x ≤ 1.0) inBounds_default.minSuccessRate
      (fun _ _ => share_within) rates
  case maxResponseMs => exact field_holds inBounds_default.maxResponseMs (fun _ _ => float_above_zero) longest
  case thresholds =>
    exact field_holds inBounds_default.thresholds (fun _ _ => Thresholds.inBounds_of_good) streaks

theorem reads_written {s : HealthSettings} (within : s.InBounds) : reader s.toData = .good s := by
  unfold reader Reader.record toData
  dsimp only
  refine seq_of_good (seq_of_good (map_of_good
    (field_of_good (share_of_within within.minSuccessRate) ?_))
    (field_of_good (positive_written within.maxResponseMs) ?_))
    (field_of_good (Thresholds.reads_written within.thresholds) ?_)
  all_goals simp [Entries.get?]

end HealthSettings

theorem JournalSettings.reads_written (s : JournalSettings) : reader s.toData = .good s := by
  unfold reader Reader.record toData
  dsimp only
  refine seq_of_good (seq_of_good (seq_of_good (seq_of_good (seq_of_good (seq_of_good (seq_of_good (seq_of_good
    (seq_of_good (seq_of_good (seq_of_good (map_of_good
    (field_of_good (bool_written s.consoleEnabled) ?_))
    (field_of_good (text_written s.consoleLevel) ?_))
    (field_of_good (text_written s.consolePattern) ?_))
    (field_of_good (bool_written s.fileEnabled) ?_))
    (field_of_good (text_written s.fileLevel) ?_))
    (field_of_good (text_written s.fileDirectory) ?_))
    (field_of_good (text_written s.fileName) ?_))
    (field_of_good (text_written s.filePattern) ?_))
    (field_of_good (nat_written s.rotationBytes) ?_))
    (field_of_good (nat_written s.rotationBackups) ?_))
    (field_of_good (text_written s.displayLevel) ?_))
    (field_of_good (entries_text_written s.components) ?_)
  all_goals simp [Entries.get?]

namespace Settings

theorem inBounds_of_good {d : Data} {s : Settings} (h : reader d = .good s) : s.InBounds := by
  obtain ⟨fs, -, read⟩ := record_good h
  obtain ⟨_, models, h₁, -, rfl⟩ := seq_good read
  obtain ⟨_, journal, h₂, -, rfl⟩ := seq_good h₁
  obtain ⟨_, health, h₃, rules, rfl⟩ := seq_good h₂
  obtain ⟨budget, amount, rfl⟩ := map_good h₃
  constructor
  case budget =>
    exact field_holds BudgetSettings.inBounds_default (fun _ _ => BudgetSettings.inBounds_of_good) amount
  case health =>
    exact field_holds HealthSettings.inBounds_default (fun _ _ => HealthSettings.inBounds_of_good) rules

theorem reads_written {s : Settings} (within : s.InBounds) : reader s.toData = .good s := by
  unfold reader Reader.record toData
  dsimp only
  refine seq_of_good (seq_of_good (seq_of_good (map_of_good
    (field_of_good (BudgetSettings.reads_written within.budget) ?_))
    (field_of_good (HealthSettings.reads_written within.health) ?_))
    (field_of_good (JournalSettings.reads_written s.journal) ?_))
    (field_of_good (list_object_written s.models) ?_)
  all_goals simp [Entries.get?]

/-- The doubles that have a limit. -/
def boundedFloats (s : Settings) : List Float :=
  [s.budget.monthly, s.health.minSuccessRate, s.health.maxResponseMs, s.health.thresholds.lowRate,
    s.health.thresholds.cooldownSeconds, s.health.thresholds.latencyWeight, s.health.thresholds.slowMs]

/-- The undefined number is within no limit. -/
theorem InBounds.defined {s : Settings} (within : s.InBounds) : ∀ x ∈ s.boundedFloats, x.isNaN = false := by
  have health := within.health
  have thresholds := health.thresholds
  simp only [boundedFloats, List.forall_mem_cons]
  exact ⟨(Binary64.isNaN_of_le within.budget.monthly).2, (Binary64.isNaN_of_le health.minSuccessRate.1).2,
    (Binary64.isNaN_of_lt health.maxResponseMs).2, (Binary64.isNaN_of_le thresholds.lowRate.1).2,
    (Binary64.isNaN_of_le thresholds.cooldown).2, (Binary64.isNaN_of_lt thresholds.weight.1).2,
    (Binary64.isNaN_of_lt thresholds.slow).2, by simp⟩

/-! ### Loading what was written -/

/-- A variable that is no concern of a relay's. -/
def IsForeign (name : String) : Prop :=
  name ≠ budgetVariable ∧ variablePrefix.toList.isPrefixOf name.toList = false

theorem IsForeign.path?_eq_none {name : String} (foreign : IsForeign name) : path? name = none := by
  unfold path?
  dsimp only
  rw [foreign.2, if_neg Bool.false_ne_true]

theorem overlayVariables_foreign (fields : Fields) {environment : Entries String String}
    (foreign : ∀ e ∈ environment, IsForeign e.1) : overlayVariables fields environment = fields := by
  induction environment with
  | nil => rfl
  | cons e rest ih =>
    obtain ⟨first, others⟩ := List.forall_mem_cons.mp foreign
    rw [overlayVariables, List.foldl_cons, first.path?_eq_none]
    exact ih others

theorem overlay_foreign (fields : Fields) {environment : Entries String String}
    (foreign : ∀ e ∈ environment, IsForeign e.1) : Answers (overlay fields environment) () fields () := by
  have unset : Entries.get? environment budgetVariable = none := by
    refine (Entries.get?_eq_none_iff _ _).mpr fun member => ?_
    obtain ⟨e, listed, named⟩ := List.mem_map.mp member
    exact (foreign e listed).1 named
  have budget : Answers (overlayBudget fields environment) () fields () := by
    rw [overlayBudget, unset]
    exact answers_pure.mpr ⟨rfl, rfl⟩
  have named := (overlayVariables_foreign fields foreign).symm
  exact answers_bind.mpr ⟨fields, (), budget, answers_pure.mpr ⟨named, rfl⟩⟩

/-- What is written of the settings, by field. -/
def writtenFields (s : Settings) : Fields :=
  [("budget", s.budget.toData), ("health", s.health.toData), ("logging", s.journal.toData),
    ("models", .list (s.models.map .object))]

/-- The settings as a document of their own. -/
def document (s : Settings) : Data := .object [(sectionName, s.toData)]

theorem mergeDocument_document (s : Settings) : mergeDocument [] s.document = .ok s.writtenFields := rfl

theorem ofFields_written {s : Settings} (within : s.InBounds) : ofFields s.writtenFields = .ok s := by
  have read : reader (.object s.writtenFields) = .good s := reads_written within
  rw [ofFields, read]

theorem load_document {s : Settings} (within : s.InBounds) {environment : Entries String String}
    (foreign : ∀ e ∈ environment, IsForeign e.1) :
    Answers (load { document := some s.document, environment }) () s () := by
  have gathers : Answers (gathered { document := some s.document, environment }) () s.writtenFields () :=
    answers_bind.mpr ⟨[], (), answers_pure.mpr ⟨rfl, rfl⟩,
      answers_bind.mpr ⟨s.writtenFields, (), answers_ofExcept.mpr ⟨mergeDocument_document s, rfl⟩,
        answers_bind.mpr ⟨s.writtenFields, (), overlay_foreign s.writtenFields foreign,
          answers_ofExcept.mpr ⟨rfl, rfl⟩⟩⟩⟩
  exact answers_bind.mpr ⟨s.writtenFields, (), gathers, answers_ofExcept.mpr ⟨ofFields_written within, rfl⟩⟩

/-- Whatever settings are made of, those that load are within all limits, none of their limited numbers is
undefined, and they load as they are from a document that was written of them alone. -/
theorem loaded_settings_reload {sources : Sources} {s : Settings} (loads : Answers (load sources) () s ()) :
    s.InBounds ∧ (∀ x ∈ s.boundedFloats, x.isNaN = false) ∧
        ∀ environment : Entries String String, (∀ e ∈ environment, IsForeign e.1) →
        Answers (load { document := some s.document, environment }) () s () := by
  obtain ⟨fields, _, gathers, -⟩ := answers_bind.mp loads
  have within : s.InBounds := inBounds_of_good (load_reads gathers loads)
  exact ⟨within, within.defined, fun environment => load_document within⟩

/-- Numbers and a flag that are written as texts, a count that is written as a double, and a rate as a flag. -/
def looselyWritten : Sources where
  document := some (.object [(sectionName, .object [
    ("budget", .object [("monthly_budget", .text " 12.50 ")]),
    ("health", .object [("min_success_rate", .bool true), ("thresholds", .object
      [("degraded_failure_threshold", .float 2.0), ("unavailable_failure_threshold", .text "4")])]),
    ("logging", .object [("console_enabled", .text "no")])])])

theorem looselyWritten_reloads : ∃ s, Answers (load looselyWritten) () s () ∧ s.InBounds ∧
    s.health.thresholds.unavailableStreak = 4 ∧
    Answers (load { document := some s.document, environment := [("PATH", "/bin")] }) () s () := by
  obtain ⟨s, loads⟩ := answers_of_isOk (x := load looselyWritten) (by decide +kernel)
  have counted : (load looselyWritten ()).answer.toOption.map (·.health.thresholds.unavailableStreak) =
      some 4 := by
    decide +kernel
  obtain ⟨within, -, reloads⟩ := loaded_settings_reload loads
  refine ⟨s, loads, within, ?_, reloads _ ?_⟩
  · rw [loads.1] at counted
    exact Option.some.inj counted
  · exact List.forall_mem_singleton.mpr ⟨by decide, by decide⟩

end Settings
end Switchboard
